import ParLang.Number.Whole

/-!
# Decimal text of doubles

`shortest` gives the fewest decimal digits that read back as the same double, and of those the ones
closest to it. `plain` writes them without an exponent. The records of how a special value is spelled
are `Spelling`s, one for each place where numbers are written.
-/

namespace ParLang.Number

/-- A multiple of a power of ten: `digits · 10 ^ exponent`. -/
structure Decimal where
  digits : Nat
  exponent : Int
deriving DecidableEq

/-- The real numbers that read back as one double. All are multiples of the quarter of its last
place: the value is `value` of them, and the interval reaches from `low` to `high` of them, its ends
included when `closed` holds. -/
structure Interval where
  value : Nat
  low : Nat
  high : Nat
  closed : Bool
  /-- A quarter of the last place is `2 ^ exponent`. -/
  exponent : Int

/-- The interval around the positive double `mantissa · 2 ^ exponent`. Below a power of two the next
double is only half a place away. -/
def Interval.around (mantissa : Nat) (exponent : Int) : Interval where
  value := 4 * mantissa
  low := 4 * mantissa - if mantissa = twoTo 52 ∧ -1074 < exponent then 1 else 2
  high := 4 * mantissa + 2
  closed := mantissa % 2 == 0
  exponent := exponent - 2

/-- `10 ^ p` and `2 ^ q` as two naturals in the same ratio. -/
def tenOverTwo (p q : Int) : Nat × Nat :=
  (tenTo p.toNat * twoTo (-q).toNat, tenTo (-p).toNat * twoTo q.toNat)

/-- The multiple of `10 ^ p` in the interval that is nearest to the value, if the interval holds one.
Of two equally near ones it is the greater. Only the two multiples next to the value can be nearest.
-/
def Interval.nearestMultiple? (i : Interval) (p : Int) : Option Nat :=
  let (ten, two) := tenOverTwo p i.exponent
  let below := i.value * two / ten
  let above := below + 1
  let inside (d : Nat) : Bool :=
    if i.closed then i.low * two ≤ d * ten && d * ten ≤ i.high * two
    else i.low * two < d * ten && d * ten < i.high * two
  match decide (0 < below) && inside below, inside above with
  | true, true =>
    some (if i.value * two - below * ten < above * ten - i.value * two then below else above)
  | true, false => some below
  | false, true => some above
  | false, false => none

/-- The first power of ten, from `p` downward, with a multiple in the interval. -/
def Interval.coarsest? (i : Interval) : Nat → Int → Option Decimal
  | 0, _ => none
  | n + 1, p =>
    match i.nearestMultiple? p with
    | some d => some ⟨d, p⟩
    | none => i.coarsest? n (p - 1)

/-- A power of ten above the number `mantissa · 2 ^ exponent`. -/
def powerAbove (mantissa : Nat) (exponent : Int) : Int :=
  ((mantissa.log2 : Int) + 1 + exponent) * 30103 / 100000 + 1

/-- The shortest decimal that reads back as the positive double `mantissa · 2 ^ exponent`. The
coarsest power of ten with a multiple among the numbers that read back leaves the fewest digits;
seventeen digits always suffice, so twenty powers are enough. -/
def shortest (mantissa : Nat) (exponent : Int) : Decimal :=
  ((Interval.around mantissa exponent).coarsest? 20 (powerAbove mantissa exponent)).getD
    ⟨wholePart mantissa exponent, 0⟩

/-- The decimal written without an exponent. -/
def Decimal.plain (d : Decimal) : String :=
  let text := toString d.digits
  if 0 ≤ d.exponent then text ++ "".pushn '0' d.exponent.toNat
  else
    let places := (-d.exponent).toNat
    let padded := ("".pushn '0' (places + 1 - text.length) ++ text).toList
    String.ofList (padded.take (padded.length - places)) ++ "." ++
      String.ofList (padded.drop (padded.length - places))

/-- How the values without digits are written. -/
structure Spelling where
  nan : String
  infinity : String
  /-- The sign of a negative zero is written. -/
  signedZero : Bool

/-- The double in the shortest decimal digits that read back, without an exponent. -/
def write (s : Spelling) (x : Float) : String :=
  match decode x with
  | .nan => s.nan
  | .infinite negative => (if negative then "-" else "") ++ s.infinity
  | .finite negative mantissa exponent =>
    if mantissa = 0 then (if negative && s.signedZero then "-0" else "0")
    else (if negative then "-" else "") ++ (shortest mantissa exponent).plain

/-- Numbers as a program prints them. -/
def printed : Spelling :=
  ⟨"NaN", "Infinity", false⟩

/-- Numbers as an error text and a literal show them. -/
def literal : Spelling :=
  ⟨"NaN", "inf", true⟩

/-- The text of a number in program output. -/
def format (x : Float) : String :=
  write printed x

/-- The text of a number literal: a whole number in all its digits, any other as `literal` has it. -/
def formatLiteral (x : Float) : String :=
  match decode x with
  | .finite negative mantissa exponent =>
    if isWhole mantissa exponent then
      (if negative then "-" else "") ++ toString (wholePart mantissa exponent)
    else write literal x
  | _ => write literal x

end ParLang.Number
