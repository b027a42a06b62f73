import GraphCache.Number.Seconds
import GraphCache.Text.Lowercase
import GraphCache.Text.Search

/-! Waiting for a write lock. An attempt that fails because the database is in use
is repeated after a delay that doubles from one attempt to the next, up to a bound;
any other failure ends the waiting, and so does the last attempt. -/
namespace GraphCache

/-- A type of delays. -/
class Delay (δ : Type) where
  /-- The delay doubled a number of times. -/
  doubled : δ → Nat → δ
  /-- Whether the first delay is shorter than the second. -/
  shorter : δ → δ → Bool

/-- The rule of one lock: how often it is tried again, and how long the delays are. -/
structure Backoff (δ : Type) where
  retries : Int
  base : δ
  bound : δ

/-- Whether a reason says that the database is in use. -/
def isBusy (reason : String) : Bool :=
  let text := Text.lowercase reason
  Text.mentions "database is locked" text || Text.mentions "database is busy" text

/-- An error of the database. Only one in its operation can say that it is in use. -/
structure LockError where
  operational : Bool
  reason : String
deriving DecidableEq, Repr

/-- How one attempt ends: the transaction is begun, or there is an error. -/
abbrev Attempt := Except LockError Unit

namespace Attempt

def begun : Attempt := .ok ()

def refused (reason : String) : Attempt := .error ⟨true, reason⟩

/-- Whether an attempt was refused because the database is in use. -/
def foundBusy : Attempt → Bool
  | .ok () => false
  | .error error => error.operational && isBusy error.reason

end Attempt

/-- What is done while waiting. -/
inductive WaitStep (δ : Type) where
  | attempt
  /-- The log is told which attempt was refused, counted from one. -/
  | warning (attempt : Nat) (retries : Int) (delay : δ)
  | rollback
  | sleep (delay : δ)
deriving DecidableEq, Repr

namespace WaitStep

variable {δ : Type}

def isAttempt : WaitStep δ → Bool
  | attempt => true
  | _ => false

def isRollback : WaitStep δ → Bool
  | rollback => true
  | _ => false

def delay? : WaitStep δ → Option δ
  | sleep delay => some delay
  | _ => none

end WaitStep

/-- What happened: everything that was done, in order, and the end of it. -/
structure Waiting (δ : Type) where
  steps : List (WaitStep δ)
  ending : Except LockError Unit

namespace Waiting

variable {δ : Type}

/-- The number of attempts. -/
def attempts (waiting : Waiting δ) : Nat := waiting.steps.countP WaitStep.isAttempt

/-- How often a failed attempt was given up. -/
def rollbacks (waiting : Waiting δ) : Nat := waiting.steps.countP WaitStep.isRollback

/-- The delays slept through. -/
def delays (waiting : Waiting δ) : List δ := waiting.steps.filterMap WaitStep.delay?

/-- Whether the waiting ended without an error. -/
def begun (waiting : Waiting δ) : Bool := waiting.ending.isOk

end Waiting

namespace Backoff

variable {δ : Type} [Delay δ]

/-- The delay after an attempt, counted from zero. -/
def delayAfter (rule : Backoff δ) (attempt : Nat) : δ :=
  let doubled := Delay.doubled rule.base attempt
  if Delay.shorter rule.bound doubled then rule.bound else doubled

/-- What is done about an attempt that will be repeated. -/
def repeated (rule : Backoff δ) (attempt : Nat) : List (WaitStep δ) :=
  let delay := rule.delayAfter attempt
  [.attempt, .warning (attempt + 1) rule.retries delay, .rollback, .sleep delay]

/-- Goes on with the attempt of a number, of which `left` are due. The last one is not
repeated. -/
def runFrom (rule : Backoff δ) (outcomes : Nat → Attempt) : (left attempt : Nat) → Waiting δ
  | 0, _ => ⟨[], .ok ()⟩
  | left + 1, attempt =>
    if (outcomes attempt).foundBusy && decide ((attempt : Int) < rule.retries) then
      let later := rule.runFrom outcomes left (attempt + 1)
      ⟨rule.repeated attempt ++ later.steps, later.ending⟩
    else ⟨[.attempt], outcomes attempt⟩

/-- Tries to take the lock, where each attempt ends as `outcomes` says. -/
def run (rule : Backoff δ) (outcomes : Nat → Attempt) : Waiting δ :=
  rule.runFrom outcomes (rule.retries + 1).toNat 0

end Backoff

instance : Delay Seconds where
  doubled := Seconds.doubled
  shorter left right := !right.lessEqual left

end GraphCache
