/-! Double precision numbers as exact data: a sign, a whole mantissa and a
power of two. Everything the cache does with such a number (reading it from
text, comparing instants, adding a lifetime, printing it) is exact arithmetic
on whole numbers followed by one rounding to the nearest value, a tie going to
the even mantissa. -/
namespace GraphCache

/-- A double precision number. A finite one is `± mantissa * 2 ^ exponent` with
`mantissa < 2 ^ 53` and `-1074 ≤ exponent ≤ 971`; unless the exponent is the
least one the mantissa has all 53 bits, so equal numbers are equal data, the
two zeros apart. -/
inductive Binary64 where
  | finite (negative : Bool) (mantissa : Nat) (exponent : Int)
  | infinite (negative : Bool)
  | notANumber
deriving DecidableEq, Repr

namespace Binary64

/-- The exponent of the smallest numbers. -/
def leastExponent : Int := -1074

/-- The exponent of the largest finite numbers. -/
def greatestExponent : Int := 971

def zero (negative : Bool) : Binary64 := .finite negative 0 leastExponent

instance : Inhabited Binary64 := ⟨zero false⟩

/-- `numerator / denominator / 2 ^ exponent` rounded to a whole number, a half
going to the even neighbour. -/
def roundAt (numerator denominator : Nat) (exponent : Int) : Nat :=
  let scaled : Nat × Nat :=
    if exponent < 0 then (numerator * Nat.pow 2 exponent.natAbs, denominator)
    else (numerator, denominator * Nat.pow 2 exponent.natAbs)
  let whole := scaled.1 / scaled.2
  let doubled := 2 * (scaled.1 % scaled.2)
  if doubled < scaled.2 then whole
  else if scaled.2 < doubled then whole + 1
  else if whole % 2 = 0 then whole else whole + 1

/-- The exponent at which `numerator / denominator` has 53 bits before the
point, or one bit more, never below the least one. -/
def scaleOf (numerator denominator : Nat) : Int :=
  max leastExponent ((numerator.log2 : Int) - (denominator.log2 : Int) - 53)

/-- Puts a rounded mantissa into its range: rounding may have carried it to 54
bits, and past the greatest exponent there are only the infinities. -/
def ofRounded (negative : Bool) (mantissa : Nat) (exponent : Int) : Binary64 :=
  let carried :=
    if mantissa = Nat.pow 2 53 then (Nat.pow 2 52, exponent + 1) else (mantissa, exponent)
  if greatestExponent < carried.2 then .infinite negative
  else if carried.1 = 0 then zero negative
  else .finite negative carried.1 carried.2

/-- The number nearest to `numerator / denominator`. -/
def ofRatio (negative : Bool) (numerator denominator : Nat) : Binary64 :=
  let exponent := scaleOf numerator denominator
  let floor :=
    if exponent < 0 then numerator * Nat.pow 2 exponent.natAbs / denominator
    else numerator / (denominator * Nat.pow 2 exponent.natAbs)
  let exponent := if Nat.pow 2 53 ≤ floor then exponent + 1 else exponent
  ofRounded negative (roundAt numerator denominator exponent) exponent

/-- The number nearest to `digits * 10 ^ exponent`. Powers far outside the range
are decided by size alone, so that no huge power is computed. -/
def ofDecimal (negative : Bool) (digits : Nat) (exponent : Int) : Binary64 :=
  let size : Int := (toString digits).length + exponent
  if digits = 0 then zero negative
  else if 310 < size then .infinite negative
  else if size < -330 then zero negative
  else if exponent < 0 then ofRatio negative digits (Nat.pow 10 exponent.natAbs)
  else ofRatio negative (digits * Nat.pow 10 exponent.natAbs) 1

def ofInt (value : Int) : Binary64 :=
  if value = 0 then zero false else ofRatio (decide (value < 0)) value.natAbs 1

/-- A finite number as a whole multiple of a power of two that is no larger than
its own. -/
def multipleAt (negative : Bool) (mantissa : Nat) (exponent scale : Int) : Int :=
  let magnitude : Int := (mantissa * Nat.pow 2 (exponent - scale).toNat : Nat)
  if negative then -magnitude else magnitude

/-- Numerical order; nothing is comparable with a value that is not a number. -/
def lessEqual : Binary64 → Binary64 → Bool
  | .notANumber, _ => false
  | _, .notANumber => false
  | .infinite true, _ => true
  | _, .infinite false => true
  | .infinite false, .finite .. => false
  | .infinite false, .infinite true => false
  | .finite .., .infinite true => false
  | .finite sign mantissa exponent, .finite sign' mantissa' exponent' =>
    let scale := min exponent exponent'
    decide (multipleAt sign mantissa exponent scale ≤ multipleAt sign' mantissa' exponent' scale)

/-- The sum, rounded once. Two opposite infinities have no sum. -/
def add : Binary64 → Binary64 → Binary64
  | .notANumber, _ => .notANumber
  | _, .notANumber => .notANumber
  | .infinite sign, .infinite sign' => if sign = sign' then .infinite sign else .notANumber
  | .infinite sign, .finite .. => .infinite sign
  | .finite .., .infinite sign => .infinite sign
  | .finite sign mantissa exponent, .finite sign' mantissa' exponent' =>
    let scale := min exponent exponent'
    let sum := multipleAt sign mantissa exponent scale + multipleAt sign' mantissa' exponent' scale
    if sum = 0 then zero (sign && sign')
    else if scale < 0 then ofRatio (decide (sum < 0)) sum.natAbs (Nat.pow 2 scale.natAbs)
    else ofRatio (decide (sum < 0)) (sum.natAbs * Nat.pow 2 scale.natAbs) 1

/-- The number with the other sign. -/
def negated : Binary64 → Binary64
  | .finite negative mantissa exponent => .finite (!negative) mantissa exponent
  | .infinite negative => .infinite (!negative)
  | .notANumber => .notANumber

/-- The product, rounded once. Nothing times an infinity has no product. -/
def mul : Binary64 → Binary64 → Binary64
  | .notANumber, _ => .notANumber
  | _, .notANumber => .notANumber
  | .infinite sign, .infinite sign' => .infinite (sign != sign')
  | .infinite sign, .finite sign' mantissa _ =>
    if mantissa = 0 then .notANumber else .infinite (sign != sign')
  | .finite sign mantissa _, .infinite sign' =>
    if mantissa = 0 then .notANumber else .infinite (sign != sign')
  | .finite sign mantissa exponent, .finite sign' mantissa' exponent' =>
    let product := mantissa * mantissa'
    let scale := exponent + exponent'
    if product = 0 then zero (sign != sign')
    else if scale < 0 then ofRatio (sign != sign') product (Nat.pow 2 scale.natAbs)
    else ofRatio (sign != sign') (product * Nat.pow 2 scale.natAbs) 1

/-- The whole number that a finite value is, when it has no fractional part. -/
def toInt? : Binary64 → Option Int
  | .finite negative mantissa exponent =>
    let magnitude : Option Nat :=
      if exponent < 0 then
        let divisor := Nat.pow 2 exponent.natAbs
        if mantissa % divisor = 0 then some (mantissa / divisor) else none
      else some (mantissa * Nat.pow 2 exponent.natAbs)
    magnitude.map fun whole => if negative then -(whole : Int) else (whole : Int)
  | _ => none

def isZero : Binary64 → Bool
  | .finite _ mantissa _ => mantissa == 0
  | _ => false

end Binary64
end GraphCache
