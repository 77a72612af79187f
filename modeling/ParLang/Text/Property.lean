import ParLang.Text.Blank
import ParLang.Text.Property.Age
import ParLang.Text.Property.Binary
import ParLang.Text.Property.Break
import ParLang.Text.Property.Category
import ParLang.Text.Property.Script

/-!
# Properties of characters

Patterns speak of properties by name. This module looks up the characters with a property by its plain
name. Groups of categories and the properties that other ones make up are computed here; all else is in
the tables, which are those of version 16.0 of the Unicode standard.
-/

namespace ParLang.Text

/-! ## General categories -/

/-- The characters of any of the categories, given by plain names. -/
def inCategories (plain : List String) : CharSet :=
  .unions (plain.filterMap (NamedClass.find? categoryTable))

/-- The characters that the standard has assigned. -/
def assigned : CharSet :=
  .unions (categoryTable.map NamedClass.members)

/-- The letters of all categories. -/
def categoryLetters : CharSet :=
  inCategories ["lu", "ll", "lt", "lm", "lo"]

/-- The characters of a category or of a group of categories. -/
def category? (plain : String) : Option CharSet :=
  match plain with
  | "any" => some .all
  | "ascii" => some (.range 0 127)
  | "assigned" => some assigned
  | "cn" | "unassigned" => some assigned.negate
  | "c" | "other" => some ((inCategories ["cc", "cf", "co"]).union assigned.negate)
  | "l" | "letter" => some categoryLetters
  | "lc" | "casedletter" => some (inCategories ["lu", "ll", "lt"])
  | "m" | "mark" | "combiningmark" => some (inCategories ["mn", "mc", "me"])
  | "n" | "number" => some (inCategories ["nd", "nl", "no"])
  | "p" | "punctuation" | "punct" =>
    some (inCategories ["pc", "pd", "ps", "pe", "pi", "pf", "po"])
  | "s" | "symbol" => some (inCategories ["sm", "sc", "sk", "so"])
  | "z" | "separator" => some (inCategories ["zs", "zl", "zp"])
  | _ => NamedClass.find? categoryTable plain

/-! ## Properties that a character has or lacks -/

/-- The characters with a property of the table. -/
def withProperty (plain : String) : CharSet :=
  (NamedClass.find? binaryTable plain).getD .none

/-- Letters, letter-like numbers and the signs that combine with letters. -/
def alphabetic : CharSet :=
  .unions [categoryLetters, inCategories ["nl"], withProperty "otheralphabetic"]

/-- Lower-case letters and what looks like them. -/
def lowercase : CharSet :=
  (inCategories ["ll"]).union (withProperty "otherlowercase")

/-- Upper-case letters and what looks like them. -/
def uppercase : CharSet :=
  (inCategories ["lu"]).union (withProperty "otheruppercase")

/-- The characters that never stand without the one before them. -/
def graphemeExtend : CharSet :=
  (inCategories ["me", "mn"]).union (withProperty "othergraphemeextend")

/-- The characters that the notation of patterns may use for itself. -/
def reserved : CharSet :=
  (withProperty "patternsyntax").union (withProperty "patternwhitespace")

/-- The characters that start an identifier. -/
def identifierStart : CharSet :=
  (CharSet.unions [categoryLetters, inCategories ["nl"], withProperty "otheridstart"]).diff reserved

/-- The characters that go on with an identifier. -/
def identifierContinue : CharSet :=
  (CharSet.unions [identifierStart, inCategories ["mn", "mc", "nd", "pc"],
    withProperty "otheridcontinue"]).diff reserved

/-- The characters whose normal form is no longer part of an identifier. -/
def unstableContinue : CharSet :=
  .ofWritten "37a 309b-309c fc5e-fc63 fdfa-fdfb fe70-fe7e/2"

/-- The characters whose normal form no longer starts an identifier. -/
def unstableStart : CharSet :=
  unstableContinue.union (.ofWritten "e33 eb3 ff9e-ff9f")

/-- The characters that do not count for the case of a word. -/
def caseIgnorable : CharSet :=
  .unions ([inCategories ["mn", "me", "cf", "lm", "sk"]] ++
    ["midletter", "midnumlet", "singlequote"].filterMap (NamedClass.find? wordBreakTable))

/-- The characters that can stand on their own. -/
def graphemeBase : CharSet :=
  (assigned.diff (inCategories ["cc", "cf", "co", "zl", "zp"])).diff graphemeExtend

/-- The characters with a property that a character has or lacks. -/
def binary? (plain : String) : Option CharSet :=
  match plain with
  | "alphabetic" | "alpha" => some alphabetic
  | "lowercase" | "lower" => some lowercase
  | "uppercase" | "upper" => some uppercase
  | "cased" => some (.unions [lowercase, uppercase, inCategories ["lt"]])
  | "caseignorable" | "ci" => some caseIgnorable
  | "changeswhencasemapped" | "cwcm" =>
    some (.unions (["cwl", "cwt", "cwu"].map withProperty))
  | "math" => some ((inCategories ["sm"]).union (withProperty "othermath"))
  | "graphemeextend" | "grext" => some graphemeExtend
  | "graphemebase" | "grbase" => some graphemeBase
  | "idstart" | "ids" => some identifierStart
  | "idcontinue" | "idc" => some identifierContinue
  | "xidstart" | "xids" => some (identifierStart.diff unstableStart)
  | "xidcontinue" | "xidc" => some (identifierContinue.diff unstableContinue)
  | _ => NamedClass.find? binaryTable plain

/-! ## Properties with values -/

/-- The characters of a script. -/
def script? (plain : String) : Option CharSet :=
  NamedClass.find? scriptTable plain

/-- The characters that are used with a script. -/
def usedWithScript? (plain : String) : Option CharSet :=
  match NamedClass.find? unsharedTable plain with
  | some s => some s
  | none =>
    (script? plain).map fun s => s.union ((NamedClass.find? sharedTable plain).getD .none)

/-- The characters that a version or one before it has assigned. -/
def assignedBy? (plain : String) : Option CharSet :=
  match ageTable.findIdx? (·.isNamed plain) with
  | some i => some (.unions ((ageTable.take (i + 1)).map NamedClass.members))
  | none => none

/-- The characters for which a property has a value, both by plain name. -/
def withValue? (property value : String) : Option CharSet :=
  match property with
  | "generalcategory" | "gc" => category? value
  | "script" | "sc" => script? value
  | "scriptextensions" | "scx" => usedWithScript? value
  | "age" => assignedBy? value
  | "graphemeclusterbreak" | "gcb" => NamedClass.find? clusterBreakTable value
  | "wordbreak" | "wb" => NamedClass.find? wordBreakTable value
  | "sentencebreak" | "sb" => NamedClass.find? sentenceBreakTable value
  | _ => none

/-- The characters of the property, category or script with a plain name. -/
def named? (plain : String) : Option CharSet :=
  binary? plain <|> category? plain <|> script? plain

/-! ## Words -/

/-- Decimal digits of every script. -/
def decimalSet : CharSet :=
  inCategories ["nd"]

/-- The blanks. -/
def blankSet : CharSet :=
  .ofRanges blankRanges

/-- The characters of words: letters, combining marks, decimal digits, connecting punctuation and the
two joiners. -/
def wordSet : CharSet :=
  .unions [alphabetic, inCategories ["mn", "mc", "me", "nd", "pc"], withProperty "joincontrol"]

/-- `c` belongs to a word. -/
def isWord (c : Char) : Bool :=
  wordSet.contains c.toNat

end ParLang.Text
