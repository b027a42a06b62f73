import GraphCache.Number.Seconds

/-! Instants of a clock. A store needs three things of them: to tell whether a deadline
has been reached, to find the instant a lifetime later, and to keep a deadline in a
table. Whole seconds are exact in all three; clocks that mix whole counts with counts
of double precision keep the latter. -/
namespace GraphCache

/-- A type of instants, which also serves for lifetimes. -/
class Instant (τ : Type) where
  /-- Whether the first instant, a deadline, is not later than the second. -/
  reached : τ → τ → Bool
  /-- The instant a lifetime after another one. -/
  after : τ → τ → τ
  /-- A lifetime in whole seconds. -/
  ofSeconds : Int → τ
  /-- A deadline as a table keeps it. -/
  kept : τ → τ

instance : Instant Int where
  reached deadline now := decide (deadline ≤ now)
  after now lifetime := now + lifetime
  ofSeconds count := count
  kept deadline := deadline

instance : Instant Seconds where
  reached := Seconds.lessEqual
  after := Seconds.add
  ofSeconds := Seconds.whole
  kept deadline := .real deadline.toReal

/-- Whether something that expires at an optional deadline has expired. Without a
deadline it never does. -/
def hasExpired {τ : Type} [Instant τ] (deadline : Option τ) (now : τ) : Bool :=
  match deadline with
  | none => false
  | some deadline => Instant.reached deadline now

end GraphCache
