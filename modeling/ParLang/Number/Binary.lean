/-!
# Doubles as exact binary numbers

`decode` reads the bits of a double as a signed `mantissa · 2 ^ exponent`, and `nearest` finds the bits
of the double closest to an exact quotient. Everything that must be exact, reading and writing decimal
text, remainders, truncation, goes through these two in natural-number arithmetic.
-/

namespace ParLang.Number

/-- A power of two. -/
def twoTo (n : Nat) : Nat :=
  Nat.pow 2 n

/-- A power of ten. -/
def tenTo (n : Nat) : Nat :=
  Nat.pow 10 n

/-- A double by its value. -/
inductive Decoded where
  | nan
  | infinite (negative : Bool)
  /-- The number `± mantissa · 2 ^ exponent`. -/
  | finite (negative : Bool) (mantissa : Nat) (exponent : Int)
deriving DecidableEq

/-- The value that the 64 bits stand for. The least exponent field holds the numbers without a
leading one, the greatest the infinities and the non-numbers. -/
def decodeBits (bits : Nat) : Decoded :=
  let negative := bits / twoTo 63 % 2 == 1
  let field : Nat := bits / twoTo 52 % 2048
  let fraction := bits % twoTo 52
  if field = 2047 then
    if fraction = 0 then .infinite negative else .nan
  else if field = 0 then .finite negative fraction (-1074)
  else .finite negative (fraction + twoTo 52) ((field : Int) - 1075)

/-- The value of a double. -/
def decode (x : Float) : Decoded :=
  decodeBits x.toBits.toNat

/-- The quotient `num / den` divided by `2 ^ exponent`, as a quotient. -/
def scaleDown (num den : Nat) (exponent : Int) : Nat × Nat :=
  if exponent < 0 then (num * twoTo (-exponent).toNat, den) else (num, den * twoTo exponent.toNat)

/-- The integer nearest to `num / den`, the even one of two that are equally near. -/
def roundHalfEven (num den : Nat) : Nat :=
  let whole := num / den
  let twice := 2 * (num % den)
  if twice < den then whole
  else if den < twice then whole + 1
  else if whole % 2 = 0 then whole else whole + 1

/-- The exponent of the leading binary digit of the positive quotient `num / den`. -/
def leadingExponent (num den : Nat) : Int :=
  let guess : Int := (num.log2 : Int) - (den.log2 : Int)
  let (n, d) := scaleDown num den guess
  if n < d then guess - 1 else guess

/-- The bits, without the sign, of the double nearest to `num / den`. Adding the mantissa to the
exponent field carries into the field when rounding reaches the next power of two. -/
def nearestBits (num den : Nat) : Nat :=
  if num = 0 then 0
  else
    let exponent := max (leadingExponent num den - 52) (-1074)
    let (n, d) := scaleDown num den exponent
    min ((exponent + 1074).toNat * twoTo 52 + roundHalfEven n d) (2047 * twoTo 52)

/-- The double with the given sign and the given bits below it. -/
def ofMagnitude (negative : Bool) (bits : Nat) : Float :=
  Float.ofBits (UInt64.ofNat (bits + if negative then twoTo 63 else 0))

/-- The double nearest to `± num / den`. -/
def nearest (negative : Bool) (num den : Nat) : Float :=
  ofMagnitude negative (nearestBits num den)

/-- The non-number. -/
def notANumber : Float :=
  ofMagnitude false (2047 * twoTo 52 + twoTo 51)

/-- The infinity with the given sign. -/
def infinity (negative : Bool) : Float :=
  ofMagnitude negative (2047 * twoTo 52)

end ParLang.Number
