import ParLang.Program.Parser
import ParLang.Program.Printer

/-!
# Writing and reading back

What becomes of a program that is written in its canonical layout and read again.
-/

namespace ParLang

/-- A program written and read again. -/
structure RoundTrip where
  /-- The canonical layout. -/
  text : String
  /-- What the layout reads as. -/
  reread : Except ParseError Program

namespace RoundTrip

/-- Writes the program and reads it again. -/
def ofProgram (p : Program) : RoundTrip :=
  ⟨p.print, parse p.print⟩

/-- Writing what was read gives the same text. -/
def isStable (r : RoundTrip) : Bool :=
  match r.reread with
  | .ok q => q.print == r.text
  | .error _ => false

end RoundTrip

end ParLang
