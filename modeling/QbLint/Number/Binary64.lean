/-!
# Binary floating-point numbers

Numbers of 53 significant bits, held as a sign, a whole number and a power of two, so that what is
said about them is said about natural numbers. Rounding is to the nearest such number, a tie to
the one with the even whole part.

* `Binary64.ofRatio`: the number nearest to a fraction;
* `Binary64.ofDecimal`: the number nearest to a decimal;
* `Binary64.mulNat`: the product with a whole number, rounded once;
* `Binary64.toInt?`: the whole number it equals, if it equals one.
-/

namespace QbLint

/-- A number of 53 significant bits, or one of the values that stand for what is out of reach.
A finite number is `± mantissa · 2 ^ exponent`. -/
inductive Binary64
  | finite (negative : Bool) (mantissa : Nat) (exponent : Int)
  | infinity (negative : Bool)
  | nan
  deriving DecidableEq, Inhabited

/-- A quotient rounded to the nearest whole number, a tie to the even one. -/
def divRoundEven (num den : Nat) : Nat :=
  let q := num / den
  let twice := 2 * (num % den)
  if twice < den then q else if den < twice then q + 1 else if q % 2 = 0 then q else q + 1

namespace Binary64

/-- The least exponent of a finite number. -/
def minExponent : Int := -1074

/-- The greatest exponent of a finite number. -/
def maxExponent : Int := 971

/-- The fraction `num / den` scaled by `2 ^ (-exponent)` and rounded to a whole number. -/
def scaled (num den : Nat) (exponent : Int) : Nat :=
  if 0 ≤ exponent then divRoundEven num (den <<< exponent.toNat)
  else divRoundEven (num <<< (-exponent).toNat) den

/-- The number nearest to `± num / den`, for a positive `den`. -/
def ofRatio (negative : Bool) (num den : Nat) : Binary64 :=
  if num = 0 then finite negative 0 minExponent else
    -- the quotient lies between 2 ^ (estimate + 51) and 2 ^ (estimate + 53)
    let estimate : Int := (Nat.log2 num : Int) - Nat.log2 den - 52
    let below : Bool :=
      if 0 ≤ estimate then num < den <<< (estimate.toNat + 52)
      else num <<< (-estimate).toNat < den <<< 52
    let exponent := max minExponent (if below then estimate - 1 else estimate)
    let mantissa := scaled num den exponent
    let (mantissa, exponent) :=
      if mantissa = 1 <<< 53 then (1 <<< 52, exponent + 1) else (mantissa, exponent)
    if maxExponent < exponent then infinity negative else finite negative mantissa exponent

/-- A power of ten. -/
def tenTo (n : Nat) : Nat := Nat.pow 10 n

/-- Decimal exponents beyond this many digits from the point are out of reach in any case. -/
def farExponent : Nat := 400

/-- The number nearest to `± digits · 10 ^ exponent`. -/
def ofDecimal (negative : Bool) (digits : Nat) (exponent : Int) : Binary64 :=
  let length : Int := (Nat.repr digits).length
  if digits = 0 then finite negative 0 minExponent
  else if (farExponent : Int) < exponent + length then infinity negative
  else if exponent + length < -(farExponent : Int) then finite negative 0 minExponent
  else if 0 ≤ exponent then ofRatio negative (digits * tenTo exponent.toNat) 1
  else ofRatio negative digits (tenTo (-exponent).toNat)

/-- The whole number, as a floating-point number. -/
def ofInt (n : Int) : Binary64 := ofRatio (n < 0) n.natAbs 1

/-- The numerator and denominator of a finite number's size. -/
def ratio (mantissa : Nat) (exponent : Int) : Nat × Nat :=
  if 0 ≤ exponent then (mantissa <<< exponent.toNat, 1) else (mantissa, 1 <<< (-exponent).toNat)

/-- The product with a whole number, rounded once. -/
def mulNat (x : Binary64) (n : Nat) : Binary64 :=
  match x with
  | finite negative m e => let (num, den) := ratio m e; ofRatio negative (num * n) den
  | infinity negative => if n = 0 then nan else infinity negative
  | nan => nan

/-- The whole part, with what follows the point cut off. -/
def truncate? : Binary64 → Option Int
  | finite negative m e =>
    let (num, den) := ratio m e
    some (if negative then -((num / den : Nat) : Int) else (num / den : Nat))
  | _ => none

/-- The whole number that a number equals. -/
def toInt? (x : Binary64) : Option Int :=
  match x with
  | finite _ m e => let (num, den) := ratio m e; if num % den = 0 then x.truncate? else none
  | _ => none

/-- Whether a number is zero, of either sign. -/
def isZero : Binary64 → Bool
  | finite _ m _ => m == 0
  | _ => false

/-- Whether the value stands for no number at all. -/
def isNaN : Binary64 → Bool
  | nan => true
  | _ => false

end Binary64

end QbLint
