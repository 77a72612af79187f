import ParLang.Pattern.Automaton
import ParLang.Pattern.Parser

/-!
# The matcher of patterns

Patterns in the syntax that programs use are read by `Pattern.parse?` and searched for by an automaton.
-/

namespace ParLang.Pattern

/-- Finds the matches of a pattern from left to right. -/
def matcher : Matcher := fun pattern text =>
  (parse? pattern).map (·.matches text.toList)

/-- The pieces of a text cut at the matches of a pattern. -/
def split (p : Pattern) (text : String) : List String :=
  (splitAt text.toList (p.matches text.toList)).map String.ofList

end ParLang.Pattern
