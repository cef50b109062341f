import AsmXml.CommandLine.Execute

/-! # The program

Reads a program from standard input and writes its document to standard output. All decisions are
made by `CommandLine.execute`; here are only the streams.
-/

namespace AsmXml

/-- A record as one line of text. -/
def recordLine (r : Log.Record) : ByteArray :=
  let details := r.details.flatMap fun (name, value) =>
    Text.utf8 s!" {name}=" ++ match value with
      | .number n => Text.decimal n
      | .text bs => bs
  ⟨(Text.utf8 s!"{r.level.name} {Log.tag}: {r.message}" ++ details ++ Text.utf8 "\n").toArray⟩

end AsmXml

open AsmXml

/-- The program on its own streams. -/
def main (args : List String) : IO UInt32 := do
  let stdin ← IO.getStdin
  let stdout ← IO.getStdout
  let stderr ← IO.getStderr
  let arguments := args.map Text.utf8
  let input ← match CommandLine.action arguments with
    | .translate =>
      try
        pure ⟨(← stdin.readBinToEnd).toList, none⟩
      catch e =>
        pure ⟨[], some (Text.utf8 (toString e))⟩
    | _ => pure Input.empty
  match CommandLine.execute (← stderr.isTty) arguments (.ofInput input .accepting true) with
  | .error d =>
    stderr.write ⟨d.message.toArray⟩
    return 2
  | .ok result =>
    stdout.write ⟨result.stdout.toArray⟩
    stderr.write ⟨result.stderr.toArray⟩
    for r in Log.visible false result.log do
      stderr.write (recordLine r)
    stdout.flush
    return result.exitCode.toUInt32
