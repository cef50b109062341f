import AsmXml.InstructionSet
import AsmXml.Proofs.Text.Upper

/-! # Looking up opcodes

A name is looked up by its upper case, and the opcodes of the table are their own. So it makes no
difference whether a name is put in upper case before it is looked up (`lookup?_upper`), an opcode
of the table finds its own signature (`lookup?_opcode`), and a token with a mark in it names none.
-/

namespace AsmXml

open Text

/-- Opcodes consist of capital ASCII letters and digits. -/
theorem opcode_bytes : ∀ s ∈ instructionSet, ∀ b ∈ s.opcode,
    0x30 ≤ b.toNat ∧ b.toNat ≤ 0x39 ∨ 0x41 ≤ b.toNat ∧ b.toNat ≤ 0x5a := by
  decide +kernel

theorem signature?_opcode : ∀ s ∈ instructionSet, signature? s.opcode = some s := by
  decide

theorem opcode_ne_nil : ∀ s ∈ instructionSet, s.opcode ≠ [] := by
  decide

theorem opcode_lt {s : Signature} (hs : s ∈ instructionSet) : ∀ b ∈ s.opcode, b.toNat < 0x61 := by
  intro b hb
  have := opcode_bytes s hs b hb
  omega

theorem upper_opcode {s : Signature} (hs : s ∈ instructionSet) : upper s.opcode = s.opcode :=
  upper_of_lt (opcode_lt hs)

/-- A name finds the signature whose opcode is its upper case. -/
theorem lookup?_eq_some_iff {name : Bytes} {s : Signature} :
    lookup? name = some s ↔ s ∈ instructionSet ∧ upper name = s.opcode := by
  constructor
  · intro h
    unfold lookup? signature? at h
    refine ⟨List.mem_of_find?_eq_some h, ?_⟩
    have he : (s.opcode == upper name) = true := by simpa using List.find?_some h
    exact (beq_iff_eq.1 he).symm
  · rintro ⟨hs, hu⟩
    unfold lookup?
    rw [hu, signature?_opcode s hs]

theorem lookup?_opcode {s : Signature} (hs : s ∈ instructionSet) : lookup? s.opcode = some s :=
  lookup?_eq_some_iff.2 ⟨hs, upper_opcode hs⟩

theorem lookup?_upper (name : Bytes) : lookup? (upper name) = lookup? name := by
  apply Option.ext
  intro s
  rw [lookup?_eq_some_iff, lookup?_eq_some_iff]
  refine and_congr_right fun hs => ⟨upper_eq_of_upper (opcode_lt hs), fun h => ?_⟩
  rw [h, upper_opcode hs]

theorem isOpcode_eq_false_iff {name : Bytes} : isOpcode name = false ↔ lookup? name = none := by
  unfold isOpcode
  rw [Option.isSome_eq_false_iff, Option.isNone_iff_eq_none]

/-- A token that holds a character which is below the capital letters and no digit names no
opcode. -/
theorem lookup?_eq_none_of_mem {token : Bytes} {c : Char} (hc : .char c ∈ decode token)
    (hn : c.toNat < 0x30 ∨ 0x39 < c.toNat ∧ c.toNat < 0x41) : lookup? token = none := by
  apply Option.eq_none_iff_forall_ne_some.2
  intro s h
  obtain ⟨hs, hu⟩ := lookup?_eq_some_iff.1 h
  have hd := decode_upper token
  rw [hu, decode_ascii fun b hb => Nat.lt_trans (opcode_lt hs b hb) (by decide)] at hd
  have hm : (Glyph.char c).upper ∈ (decode token).map Glyph.upper := List.mem_map_of_mem hc
  rw [← hd] at hm
  obtain ⟨b, hb, he⟩ := List.mem_map.1 hm
  have hr := opcode_bytes s hs b hb
  have hv := toNat_byteChar b
  rw [Glyph.upper, upperChar_of_lt (by omega), Glyph.char.injEq] at he
  rw [he] at hv
  omega

end AsmXml
