import GraphCache.Number.Binary64

/-! Counts of seconds. A count is whole or of double precision. Whole counts are added
exactly, a sum with a count of double precision is rounded once, and counts of both
kinds are compared by their exact values. -/
namespace GraphCache

/-- A number of seconds: whole, or of double precision. -/
inductive Seconds where
  | whole (count : Int)
  | real (value : Binary64)
deriving DecidableEq, Repr

namespace Seconds

/-- The nearest number of double precision. -/
def toReal : Seconds → Binary64
  | whole count => Binary64.ofInt count
  | real value => value

/-- The value itself, whose mantissa may be of any length. It serves comparisons, which
are exact for mantissas of every length. -/
def exact : Seconds → Binary64
  | whole count => .finite (decide (count < 0)) count.natAbs 0
  | real value => value

/-- Numerical order. -/
def lessEqual (left right : Seconds) : Bool := left.exact.lessEqual right.exact

def add : Seconds → Seconds → Seconds
  | whole left, whole right => whole (left + right)
  | left, right => real (left.toReal.add right.toReal)

/-- Doubling a number of double precision: adding it to itself is exact. -/
def doubledReal (value : Binary64) : Nat → Binary64
  | 0 => value
  | times + 1 => doubledReal (value.add value) times

/-- The count doubled a number of times. -/
def doubled : Seconds → Nat → Seconds
  | whole count, times => whole (count * Nat.pow 2 times)
  | real value, times => real (doubledReal value times)

end Seconds
end GraphCache
