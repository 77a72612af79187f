import ParLang.Number.Binary

/-!
# Whole parts and remainders

Truncation toward zero, the test for a whole number and the remainder of a division, each exact on
the decoded value.
-/

namespace ParLang.Number

/-- The whole part of `mantissa · 2 ^ exponent`. -/
def wholePart (mantissa : Nat) (exponent : Int) : Nat :=
  if exponent < 0 then mantissa / twoTo (-exponent).toNat else mantissa * twoTo exponent.toNat

/-- The number `mantissa · 2 ^ exponent` is whole. -/
def isWhole (mantissa : Nat) (exponent : Int) : Bool :=
  0 ≤ exponent || mantissa % twoTo (-exponent).toNat == 0

/-- The whole number is below the double nearest to a length. -/
def isBelow (whole length : Nat) : Bool :=
  match decodeBits (nearestBits length 1) with
  | .finite _ mantissa exponent => whole < wholePart mantissa exponent
  | _ => true

/-- The number truncated toward zero, if that is at least zero and below the double nearest to the
length. A number between `-1` and `0` truncates to zero. -/
def slot? (x : Float) (length : Nat) : Option Nat :=
  match decode x with
  | .finite negative mantissa exponent =>
    let whole := wholePart mantissa exponent
    if negative && whole != 0 then none
    else if isBelow whole length then some whole
    else none
  | _ => none

/-- The number itself, if it is whole, at least zero and at most `top`. -/
def wholeUpTo? (x : Float) (top : Nat) : Option Nat :=
  match decode x with
  | .finite negative mantissa exponent =>
    let whole := wholePart mantissa exponent
    if isWhole mantissa exponent && !(negative && whole != 0) && whole ≤ top then some whole
    else none
  | _ => none

/-- The whole milliseconds of a pause: none for a number that is not positive or not finite. -/
def milliseconds (x : Float) : Nat :=
  match decode x with
  | .finite false mantissa exponent => wholePart mantissa exponent
  | _ => 0

/-- The remainder of a division truncated toward zero: it has the sign of the dividend and is exact.
A non-number results from an infinite dividend and from a zero divisor. -/
def remainder (x y : Float) : Float :=
  match decode x, decode y with
  | .finite negative m e, .finite _ n f =>
    if n = 0 then notANumber
    else
      let low := min e f
      let a := m * twoTo (e - low).toNat
      let b := n * twoTo (f - low).toNat
      let (num, den) := scaleDown (a % b) 1 (-low)
      nearest negative num den
  | .finite _ _ _, .infinite _ => x
  | _, _ => notANumber

end ParLang.Number
