import ParLang.Text.CharSet

/-!
# Classes of characters with names

A property of characters splits them into classes, each of which has a long name and shorter ones. Names
are compared in plain form: without regard to case, to blanks, dashes and underscores, and to the
syllable `is` in front.
-/

namespace ParLang.Text

/-- A class of characters with its names and its ranges, which are written in lines. -/
structure NamedClass where
  names : List String
  lines : List String

/-- The letters that count in a name: ASCII ones without blanks, dashes and underscores, in lower
case. -/
def plainLetters (name : List Char) : List Char :=
  (name.filter fun c => c.toNat < 128 && c != ' ' && c != '-' && c != '_').map Char.toLower

/-- A name in plain form. The one letter behind `is` that would make another name keeps it. -/
def plainName (name : List Char) : String :=
  match name with
  | i :: s :: rest =>
    if i.toLower = 'i' ∧ s.toLower = 's' then
      if plainLetters rest = ['c'] then "isc" else String.ofList (plainLetters rest)
    else String.ofList (plainLetters name)
  | _ => String.ofList (plainLetters name)

namespace NamedClass

/-- The class has the given plain name. -/
def isNamed (c : NamedClass) (plain : String) : Bool :=
  c.names.any fun name => plainName name.toList == plain

/-- The members of a class. -/
def members (c : NamedClass) : CharSet :=
  .ofRanges (c.lines.flatMap Range.readAll)

/-- The members of the class of a table that has the given plain name. -/
def find? (table : List NamedClass) (plain : String) : Option CharSet :=
  (table.find? (·.isNamed plain)).map members

end NamedClass

end ParLang.Text
