import AsmXml.Ansi
import AsmXml.Failure

/-! # Reports for people

A report shows the kind of an error, its cause, and the line it was found on with the token to
blame marked.
-/

namespace AsmXml

open Text

/-- What is shown of an error: its cause, and unless it is an error of the header also the
instruction and its line. -/
def Site.diagnostic (colour : Bool) (site : Site) (cause : Bytes) : Bytes :=
  let complaint := Style.red.paint colour cause
  if site.order = 0 then complaint
  else
    complaint ++ utf8 " at " ++
      Style.yellow.paint colour (utf8 "instruction " ++ decimal site.order) ++ utf8 "\n" ++
      if site.token.isEmpty then paintCode colour site.line
      else highlight colour site.line site.token

/-- The full report of an error, every line of it ended. -/
def Site.report (colour : Bool) (site : Site) (cause : Bytes) : Bytes :=
  Style.bold.paint colour (Style.brightRed.paint colour
      (utf8 "=== " ++ site.kind.name ++ utf8 " ===")) ++ utf8 "\n" ++
    site.diagnostic colour cause ++ utf8 "\n"

/-- The report of a failure; only rejections have one. -/
def Failure.report (colour : Bool) (f : Failure) : Bytes :=
  match f.rejection? with
  | some (site, cause) => site.report colour cause.message
  | none => []

end AsmXml
