import QbLint.Number.Binary64

/-!
# Decimal text of floating-point numbers

The shortest decimal that reads back as a number, and the decimal with a fixed number of places.

Between a number and its neighbours lie the midpoints, and every decimal between the two midpoints
reads back as the number; so does a midpoint itself if the number's whole part is even. On each
decimal grid the two points next to the number decide whether the grid has such a decimal at all.

* `Binary64.shortest`: the decimal of fewest digits that reads back, and of these the nearest;
* `Binary64.text`: that decimal, positional from 0.0001 up to 16 digits before the point;
* `Binary64.fixed`: a number rounded to so many places, a tie to the even last digit.
-/

namespace QbLint

/-- The decimal `digits · 10 ^ exponent`. -/
structure Decimal where
  digits : Nat
  exponent : Int
  deriving DecidableEq

namespace Binary64

/-- The exponent `k` with `10 ^ k ≤ num / den < 10 ^ (k + 1)`. -/
def magnitude (num den : Nat) : Int :=
  if den ≤ num then ((Nat.repr (num / den)).length : Int) - 1
  else
    let length := (Nat.repr (den / num)).length
    if den ≤ num * tenTo (length - 1) then -((length : Int) - 1) else -(length : Int)

/-- The point of the grid of step `10 ^ exponent` that reads back as the number `at4 / den` and is
nearest to it, if there is one. The midpoints to its neighbours are `low4 / den` and
`high4 / den`, all three over the same denominator. -/
def gridPoint? (low4 at4 high4 den : Nat) (inclusive : Bool) (exponent : Int) : Option Decimal :=
  -- everything is scaled so that the grid is the whole multiples of `unit`
  let (scale, unit) :=
    if 0 ≤ exponent then (1, den * tenTo exponent.toNat) else (tenTo (-exponent).toNat, den)
  let below := at4 * scale / unit
  let within (digits : Nat) : Bool :=
    if inclusive then low4 * scale ≤ digits * unit && digits * unit ≤ high4 * scale
    else low4 * scale < digits * unit && digits * unit < high4 * scale
  let nearerBelow : Bool :=
    let rest := 2 * (at4 * scale - below * unit)
    rest < unit || (rest == unit && below % 2 == 0)
  match within below, within (below + 1) with
  | true, true => some ⟨if nearerBelow then below else below + 1, exponent⟩
  | true, false => some ⟨below, exponent⟩
  | false, true => some ⟨below + 1, exponent⟩
  | false, false => none

/-- The decimal of fewest digits that reads back as `mantissa · 2 ^ exponent`. -/
def shortest (mantissa : Nat) (exponent : Int) : Decimal :=
  let at4 := 4 * mantissa
  let low4 :=
    if mantissa = 1 <<< 52 ∧ minExponent < exponent then at4 - 1 else at4 - 2
  let (scale, den) := ratio 1 (exponent - 2)
  let k := magnitude (at4 * scale) den
  let point? (places : Nat) :=
    gridPoint? (low4 * scale) (at4 * scale) ((at4 + 2) * scale) den (mantissa % 2 == 0) (k - places)
  ((List.range 17).findSome? point?).getD ⟨mantissa, 0⟩

/-- A run of zeros. -/
def zeros (n : Nat) : String := String.ofList (List.replicate n '0')

/-- A decimal in text: positional if its first digit stands at most four places behind and sixteen
before the point, with a power of ten otherwise. -/
def decimalText (d : Decimal) : String :=
  let digits := Nat.repr d.digits
  let point : Int := digits.length + d.exponent
  if -4 < point ∧ point ≤ 16 then
    if point ≤ 0 then "0." ++ zeros (-point).toNat ++ digits
    else if digits.length ≤ point then digits ++ zeros (point - digits.length).toNat ++ ".0"
    else
      String.ofList (digits.toList.take point.toNat) ++ "." ++
        String.ofList (digits.toList.drop point.toNat)
  else
    let power := point - 1
    let size := Nat.repr power.natAbs
    String.ofList (digits.toList.take 1) ++
      (if digits.length = 1 then "" else "." ++ String.ofList (digits.toList.drop 1)) ++
      "e" ++ (if power < 0 then "-" else "+") ++ zeros (2 - size.length) ++ size

/-- The texts of the values that are no finite numbers. -/
structure Names where
  infinity : String
  nan : String

/-- The shortest text that reads back as a number. -/
def text (names : Names) : Binary64 → String
  | finite negative m e =>
    (if negative then "-" else "") ++ if m = 0 then "0.0" else decimalText (shortest m e)
  | infinity negative => (if negative then "-" else "") ++ names.infinity
  | nan => names.nan

/-- A number rounded to so many places. -/
def fixed (names : Names) (places : Nat) : Binary64 → String
  | finite negative m e =>
    let (num, den) := ratio m e
    let scaled := divRoundEven (num * tenTo places) den
    let fraction := Nat.repr (scaled % tenTo places)
    (if negative then "-" else "") ++ Nat.repr (scaled / tenTo places) ++ "." ++
      zeros (places - fraction.length) ++ fraction
  | infinity negative => (if negative then "-" else "") ++ names.infinity
  | nan => names.nan

end Binary64

end QbLint
