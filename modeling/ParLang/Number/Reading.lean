import ParLang.Number.Binary
import ParLang.Source.Span
import ParLang.Text.Blank
import ParLang.Text.Letter

/-!
# Reading decimal text

`readDecimal?` reads an optional sign, digits with an optional fraction and an optional exponent, or
the words for infinity and the non-number in any case. `readNumber?` is what a program's conversion
accepts: the text is trimmed, and of the words only `NaN` and `Infinity` are numbers.
-/

namespace ParLang.Number

/-- The value of a run of decimal digits. -/
def digitsValue (ds : List Char) : Nat :=
  ds.foldl (fun n d => 10 * n + (d.toNat - '0'.toNat)) 0

/-- The sign in front of a text, with the text behind it. -/
def splitSign : List Char → Bool × List Char
  | '-' :: rest => (true, rest)
  | '+' :: rest => (false, rest)
  | cs => (false, cs)

/-- The exponent that a text consists of: nothing, or `e` or `E`, an optional sign and digits. -/
def readExponent? : List Char → Option Int
  | [] => some 0
  | e :: rest =>
    let (negative, ds) := splitSign rest
    if (e = 'e' ∨ e = 'E') ∧ ds ≠ [] ∧ ds.all Char.isDigit then
      some (if negative then -(digitsValue ds : Int) else digitsValue ds)
    else none

/-- The double nearest to `± digits · 10 ^ exponent`. A number beyond the range of doubles is decided
by the place of its leading digit, without forming the power. -/
def ofDecimal (negative : Bool) (digits : Nat) (exponent : Int) : Float :=
  let leading : Int := exponent + (Nat.toDigits 10 digits).length
  if digits = 0 ∨ leading < -330 then ofMagnitude negative 0
  else if 330 < leading then infinity negative
  else if exponent < 0 then nearest negative digits (tenTo (-exponent).toNat)
  else nearest negative (digits * tenTo exponent.toNat) 1

/-- The number without a sign that a text consists of: digits on at least one side of an optional
point, and an optional exponent. -/
def readUnsigned? (negative : Bool) (cs : List Char) : Option Float :=
  let whole := cs.takeWhile Char.isDigit
  let (fraction, rest) :=
    match cs.dropWhile Char.isDigit with
    | '.' :: rest => (rest.takeWhile Char.isDigit, rest.dropWhile Char.isDigit)
    | rest => ([], rest)
  if whole = [] ∧ fraction = [] then none
  else (readExponent? rest).map fun exponent =>
    ofDecimal negative (digitsValue (whole ++ fraction)) (exponent - fraction.length)

/-- The number that a text consists of, if it is one. -/
def readDecimal? (text : String) : Option Float :=
  let (negative, cs) := splitSign text.toList
  match String.ofList (cs.map Char.toLower) with
  | "inf" | "infinity" => some (infinity negative)
  | "nan" => some notANumber
  | _ => readUnsigned? negative cs

/-- The text without the blanks around it. -/
def trimBlanks (cs : List Char) : List Char :=
  dropTrailing Text.isBlank (cs.dropWhile Text.isBlank)

/-- The number that a program's conversion reads. The only letters it admits in a number are those of
the exponent, besides the two words `NaN` and `Infinity`. -/
def readNumber? (text : String) : Option Float :=
  let trimmed := trimBlanks text.toList
  let (negative, body) := splitSign trimmed
  match String.ofList body with
  | "NaN" => some notANumber
  | "Infinity" => some (infinity negative)
  | _ =>
    if body = [] ∨ body.any (fun c => Text.isLetter c && c != 'e' && c != 'E') then none
    else readDecimal? (String.ofList trimmed)

end ParLang.Number
