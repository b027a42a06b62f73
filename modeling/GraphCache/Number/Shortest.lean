import GraphCache.Number.Binary64

/-! The shortest decimal that reads back as a given double precision number,
and how such a decimal is laid out as text. Of all decimals with the fewest
digits among those that round to the number, the one nearest to it is taken. -/
namespace GraphCache

/-- A positive decimal: the digits as one whole number, without trailing zeros,
and the power of ten of its leading digit. -/
structure Decimal where
  digits : Nat
  leadingExponent : Int
deriving DecidableEq, Repr

namespace Decimal

/-- The power of ten of the leading digit of `numerator / denominator`. -/
def leadingExponentOf (numerator denominator : Nat) : Int :=
  if denominator ≤ numerator then ((toString (numerator / denominator)).length : Int) - 1
  else
    let length := (toString (denominator / numerator)).length
    if denominator ≤ numerator * Nat.pow 10 (length - 1) then -((length : Int) - 1) else -(length : Int)

/-- Drops the trailing zeros; `fuel` bounds their number. -/
def dropZeros : Nat → Nat → Nat
  | 0, digits => digits
  | fuel + 1, digits => if digits ≠ 0 ∧ digits % 10 = 0 then dropZeros fuel (digits / 10) else digits

/-- A positive fraction, kept as a pair of whole numbers. -/
structure Ratio where
  numerator : Nat
  denominator : Nat

/-- `mantissa * 2 ^ exponent` as a fraction. -/
def Ratio.ofPower (mantissa : Nat) (exponent : Int) : Ratio :=
  if exponent < 0 then ⟨mantissa, Nat.pow 2 exponent.natAbs⟩ else ⟨mantissa * Nat.pow 2 exponent.natAbs, 1⟩

/-- `digits * 10 ^ exponent` as a fraction. -/
def Ratio.ofDigits (digits : Nat) (exponent : Int) : Ratio :=
  if exponent < 0 then ⟨digits, Nat.pow 10 exponent.natAbs⟩ else ⟨digits * Nat.pow 10 exponent.natAbs, 1⟩

def Ratio.lessEqual (left right : Ratio) : Bool :=
  decide (left.numerator * right.denominator ≤ right.numerator * left.denominator)

def Ratio.less (left right : Ratio) : Bool := !right.lessEqual left

/-- The distance between two fractions. -/
def Ratio.distance (left right : Ratio) : Ratio :=
  let first := left.numerator * right.denominator
  let second := right.numerator * left.denominator
  ⟨(first - second) + (second - first), left.denominator * right.denominator⟩

/-- The reals that round to a number: between the midpoints to its two
neighbours, which themselves round to an even mantissa. -/
structure Interval where
  low : Ratio
  high : Ratio
  closed : Bool

/-- The interval of `mantissa * 2 ^ exponent`. Below a power of two the neighbour
is only half as far away. -/
def Interval.around (mantissa : Nat) (exponent : Int) : Interval where
  low :=
    if mantissa = Nat.pow 2 52 ∧ Binary64.leastExponent < exponent then
      Ratio.ofPower (4 * mantissa - 1) (exponent - 2)
    else Ratio.ofPower (2 * mantissa - 1) (exponent - 1)
  high := Ratio.ofPower (2 * mantissa + 1) (exponent - 1)
  closed := mantissa % 2 = 0

def Interval.contains (interval : Interval) (value : Ratio) : Bool :=
  if interval.closed then interval.low.lessEqual value && value.lessEqual interval.high
  else interval.low.less value && value.less interval.high

/-- The better of the value's two neighbours on the grid of `count` digits, if
one of them reads back. Of two at equal distance the even one is taken. -/
def onGrid? (value : Ratio) (interval : Interval) (leading : Int) (count : Nat) : Option Nat :=
  let step : Int := leading - count + 1
  let below :=
    if step < 0 then value.numerator * Nat.pow 10 step.natAbs / value.denominator
    else value.numerator / (value.denominator * Nat.pow 10 step.natAbs)
  let lower := Ratio.ofDigits below step
  let upper := Ratio.ofDigits (below + 1) step
  match interval.contains lower, interval.contains upper with
  | true, false => some below
  | false, true => some (below + 1)
  | false, false => none
  | true, true =>
    let left := lower.distance value
    let right := upper.distance value
    if left.less right then some below
    else if right.less left then some (below + 1)
    else if below % 2 = 0 then some below else some (below + 1)

/-- The shortest decimal of a positive finite number. Seventeen digits always
read back, so the search ends by then. -/
def shortest (mantissa : Nat) (exponent : Int) : Decimal :=
  let value := Ratio.ofPower mantissa exponent
  let interval := Interval.around mantissa exponent
  let leading := leadingExponentOf value.numerator value.denominator
  let found := (List.range 17).findSome? fun index =>
    (onGrid? value interval leading (index + 1)).map fun digits => (digits, index + 1)
  match found with
  | none => ⟨mantissa, leading⟩
  | some (digits, count) =>
    let length := (toString digits).length
    ⟨dropZeros length digits, leading + ((length : Int) - count)⟩

/-- How a decimal is written. Between the two exponents it is positional, with
at least one digit after the point; outside them it has an exponent of at least
two digits with its sign. -/
structure Layout where
  leastPositional : Int
  positionalBelow : Int
  infinity : String
  notANumber : String

/-- The layout of numbers in texts: positional from `1e-04` up to, but not
including, `1e+16`. -/
def textLayout : Layout := ⟨-4, 16, "inf", "nan"⟩

/-- The layout of numbers in written values, which differs in the names of the
special values only. -/
def valueLayout : Layout := { textLayout with infinity := "Infinity", notANumber := "NaN" }

def zeros (count : Nat) : String := String.ofList (List.replicate count '0')

/-- Writes a positive decimal. -/
def render (layout : Layout) (decimal : Decimal) : String :=
  let digits := (toString decimal.digits).toList
  let leading := decimal.leadingExponent
  if leading < layout.leastPositional ∨ layout.positionalBelow ≤ leading then
    let fraction := if digits.length ≤ 1 then "" else "." ++ String.ofList (digits.drop 1)
    let size := toString leading.natAbs
    let padded := if size.length < 2 then "0" ++ size else size
    String.ofList (digits.take 1) ++ fraction ++ "e" ++ (if leading < 0 then "-" else "+") ++ padded
  else if leading < 0 then
    "0." ++ zeros (leading.natAbs - 1) ++ String.ofList digits
  else
    let before := leading.toNat + 1
    if digits.length ≤ before then String.ofList digits ++ zeros (before - digits.length) ++ ".0"
    else String.ofList (digits.take before) ++ "." ++ String.ofList (digits.drop before)

end Decimal

namespace Binary64

/-- The text of a number: the shortest decimal that reads back as it. -/
def render (layout : Decimal.Layout) : Binary64 → String
  | .notANumber => layout.notANumber
  | .infinite negative => (if negative then "-" else "") ++ layout.infinity
  | .finite negative mantissa exponent =>
    (if negative then "-" else "") ++
      (if mantissa = 0 then "0.0" else Decimal.render layout (Decimal.shortest mantissa exponent))

end Binary64
end GraphCache
