import GraphCache.Store.Backoff
import Mathlib.Algebra.Order.Field.Rat
import Mathlib.Data.ENat.Lattice
import Mathlib.Tactic.NormNum

/-! How long a lock is waited for. The attempts that find the database in use before one ends
otherwise are all repeated, as far as the rule allows, and the next one is the last. So the
count of those attempts and the rule tell everything that is done, and in which order. -/
namespace GraphCache

/-- Delays that are counted exactly. -/
instance : Delay ℚ where
  doubled delay times := delay * 2 ^ times
  shorter left right := decide (left < right)

/-! ## Attempts in a row -/

open Classical in
/-- How many attempts find the database in use before one does not. -/
noncomputable def leadingBusy (outcomes : ℕ → Attempt) : ℕ∞ :=
  if ends : ∃ number, (outcomes number).foundBusy = false then (Nat.find ends : ℕ∞) else ⊤

theorem le_leadingBusy_iff (outcomes : ℕ → Attempt) (count : ℕ) :
    (count : ℕ∞) ≤ leadingBusy outcomes ↔
      ∀ number < count, (outcomes number).foundBusy = true := by
  unfold leadingBusy
  split
  · next ends => simp [Nat.le_find_iff]
  · next never =>
    have busy : ∀ number, (outcomes number).foundBusy = true := by simpa using never
    simp [busy]

theorem leadingBusy_le_iff (outcomes : ℕ → Attempt) (count : ℕ) :
    leadingBusy outcomes ≤ count ↔ ∃ number ≤ count, (outcomes number).foundBusy = false := by
  rw [← not_lt, ← Order.add_one_le_iff_of_not_isMax (by simp), ← Nat.cast_succ,
    le_leadingBusy_iff]
  simp

/-- The number of attempts that are repeated: those in a row that find the database in use, but
no more than the rule allows. -/
theorem exists_repeats (outcomes : ℕ → Attempt) (retries : ℕ) :
    ∃ repeats : ℕ, (repeats : ℕ∞) = min (leadingBusy outcomes) retries ∧
      (∀ number < repeats, (outcomes number).foundBusy = true) ∧
      ((outcomes repeats).foundBusy = false ∨ repeats = retries) := by
  obtain ⟨repeats, same⟩ := ENat.ne_top_iff_exists.mp
    (ne_top_of_le_ne_top (ENat.natCast_ne_top retries) (min_le_right (leadingBusy outcomes) _))
  have busy := (le_leadingBusy_iff outcomes repeats).mp (same.trans_le (min_le_left _ _))
  refine ⟨repeats, same, busy, ?_⟩
  rcases min_choice (leadingBusy outcomes) retries with all | bounded
  · obtain ⟨number, within, other⟩ :=
      (leadingBusy_le_iff outcomes repeats).mp (all.symm.trans same.symm).le
    rcases within.lt_or_eq with below | rfl
    · simp [busy number below] at other
    · exact .inl other
  · exact .inr (by simpa using same.trans bounded)

/-- The attempt after the repeated ones begins the transaction exactly if the first one that does
not find the database in use may be made and does so. -/
theorem begun_repeats_iff {outcomes : ℕ → Attempt} {retries repeats : ℕ}
    (same : (repeats : ℕ∞) = min (leadingBusy outcomes) retries) :
    outcomes repeats = .ok () ↔ ∃ first : ℕ, leadingBusy outcomes = first ∧ first ≤ retries ∧
      outcomes first = .ok () := by
  constructor
  · intro begun
    have other : (outcomes repeats).foundBusy = false := by
      rw [begun]
      rfl
    have most : leadingBusy outcomes ≤ repeats :=
      (leadingBusy_le_iff outcomes repeats).mpr ⟨repeats, le_rfl, other⟩
    refine ⟨repeats, le_antisymm most (same.trans_le (min_le_left _ _)), ?_, begun⟩
    exact_mod_cast same.trans_le (min_le_right (leadingBusy outcomes) (retries : ℕ∞))
  · rintro ⟨first, leads, allowed, begun⟩
    have equal : repeats = first := by
      rw [leads, min_eq_left (by exact_mod_cast allowed)] at same
      exact_mod_cast same
    rwa [equal]

namespace Backoff

section Steps
variable {δ : Type} [Delay δ]

/-- Everything that is done when a number of attempts are repeated: each is given up and slept
over, and the one after them is the last. -/
def stepsOf (rule : Backoff δ) (repeats : ℕ) : List (WaitStep δ) :=
  (List.range repeats).flatMap rule.repeated ++ [.attempt]

theorem runFrom_eq (rule : Backoff δ) (outcomes : ℕ → Attempt) (left attempt : ℕ) {repeats : ℕ}
    (room : repeats < left) (due : ((attempt + repeats : ℕ) : ℤ) ≤ rule.retries)
    (busy : ∀ number < repeats, (outcomes (attempt + number)).foundBusy = true)
    (last : (outcomes (attempt + repeats)).foundBusy = false ∨
      rule.retries = (attempt + repeats : ℕ)) :
    rule.runFrom outcomes left attempt =
      ⟨(List.range' attempt repeats).flatMap rule.repeated ++ [.attempt],
        outcomes (attempt + repeats)⟩ := by
  -- With each repeated attempt the counter goes up and the number of those due goes down.
  induction repeats generalizing left attempt with
  | zero =>
    obtain ⟨left, rfl⟩ := Nat.exists_eq_succ_of_ne_zero room.ne'
    have stops :
        ((outcomes attempt).foundBusy && decide ((attempt : ℤ) < rule.retries)) = false := by
      rcases last with other | exhausted
      · simp [show (outcomes attempt).foundBusy = false from other]
      · simp [exhausted]
    rw [runFrom, stops]
    rfl
  | succ repeats ih =>
    obtain ⟨left, rfl⟩ := Nat.exists_eq_succ_of_ne_zero (Nat.ne_zero_of_lt room)
    have again :
        ((outcomes attempt).foundBusy && decide ((attempt : ℤ) < rule.retries)) = true := by
      have found := busy 0 (Nat.succ_pos repeats)
      rw [Bool.and_eq_true, decide_eq_true_eq]
      exact ⟨found, by omega⟩
    have next (number : ℕ) : attempt + 1 + number = attempt + (number + 1) := by omega
    rw [runFrom, again, if_pos rfl, ih left (attempt + 1) (Nat.lt_of_succ_lt_succ room)
      (by rwa [next]) (fun number below => by
        rw [next]
        exact busy (number + 1) (Nat.succ_lt_succ below)) (by rwa [next]), next]
    simp [List.range'_succ]

/-- A waiting is what the number of repeated attempts says. -/
theorem run_eq {rule : Backoff δ} {outcomes : ℕ → Attempt} {repeats : ℕ}
    (due : (repeats : ℤ) ≤ rule.retries)
    (busy : ∀ number < repeats, (outcomes number).foundBusy = true)
    (last : (outcomes repeats).foundBusy = false ∨ rule.retries = repeats) :
    rule.run outcomes = ⟨rule.stepsOf repeats, outcomes repeats⟩ := by
  have whole := rule.runFrom_eq outcomes (rule.retries + 1).toNat 0
    (by omega : repeats < _) (by simpa using due) (by simpa using busy) (by simpa using last)
  simpa [run, stepsOf, List.range_eq_range'] using whole

/-- A waiting repeats the attempts in a row that find the database in use, as far as its rule
allows. -/
theorem exists_run (rule : Backoff δ) {retries : ℕ} (allowed : rule.retries = retries)
    (outcomes : ℕ → Attempt) :
    ∃ repeats : ℕ, (repeats : ℕ∞) = min (leadingBusy outcomes) retries ∧
      rule.run outcomes = ⟨rule.stepsOf repeats, outcomes repeats⟩ := by
  obtain ⟨repeats, same, busy, last⟩ := exists_repeats outcomes retries
  have within : repeats ≤ retries := by
    exact_mod_cast same.trans_le (min_le_right (leadingBusy outcomes) (retries : ℕ∞))
  refine ⟨repeats, same, run_eq (by omega) busy (last.imp_right fun bounded => ?_)⟩
  rw [allowed, bounded]

theorem countP_stepsOf (rule : Backoff δ) (repeats : ℕ) {counts : WaitStep δ → Bool} {each : ℕ}
    (repeated : ∀ attempt, (rule.repeated attempt).countP counts = each) :
    (rule.stepsOf repeats).countP counts = repeats * each + [WaitStep.attempt].countP counts := by
  have every : (fun attempt => (rule.repeated attempt).countP counts) = fun _ => each :=
    funext repeated
  simp [stepsOf, List.countP_flatMap, Function.comp_def, every, List.map_const']

theorem attempts_stepsOf (rule : Backoff δ) (repeats : ℕ) :
    (rule.stepsOf repeats).countP WaitStep.isAttempt = repeats + 1 := by
  rw [rule.countP_stepsOf repeats fun _ => rfl, Nat.mul_one]
  rfl

theorem rollbacks_stepsOf (rule : Backoff δ) (repeats : ℕ) :
    (rule.stepsOf repeats).countP WaitStep.isRollback = repeats := by
  rw [rule.countP_stepsOf repeats fun _ => rfl, Nat.mul_one]
  rfl

/-- The delays slept through, in order. -/
theorem delays_stepsOf (rule : Backoff δ) (repeats : ℕ) :
    (rule.stepsOf repeats).filterMap WaitStep.delay? =
      (List.range repeats).map rule.delayAfter := by
  have each (attempt : ℕ) : (rule.repeated attempt).filterMap WaitStep.delay? =
      [rule.delayAfter attempt] := rfl
  have last : [WaitStep.attempt].filterMap (WaitStep.delay? (δ := δ)) = [] := rfl
  simp [stepsOf, List.filterMap_flatMap, each, last, List.map_eq_flatMap]

end Steps

/-- Of the doubled delay and the bound the shorter one is taken. -/
theorem delayAfter_eq_min (rule : Backoff ℚ) (attempt : ℕ) :
    rule.delayAfter attempt = min (rule.base * 2 ^ attempt) rule.bound := by
  simp only [delayAfter, Delay.doubled, Delay.shorter, decide_eq_true_eq]
  split
  · next above => exact (min_eq_right above.le).symm
  · next below => exact (min_eq_left (not_lt.mp below)).symm

/-- A waiting makes as many attempts as find the database in use and one more, but no more than
the rule allows. Between two attempts it gives up the first and sleeps; the delays double up to
the bound. The last attempt decides: the transaction is begun exactly if the first attempt that
does not find the database in use is made and succeeds, and else its own error is the end. -/
theorem run_retries (retries : ℕ) (base bound : ℚ) (outcomes : ℕ → Attempt) :
    let waiting := Backoff.run ⟨retries, base, bound⟩ outcomes
    let repeats := min (leadingBusy outcomes) retries
    waiting.attempts = repeats + 1 ∧ waiting.rollbacks = repeats ∧
      waiting.delays.length = repeats ∧
      (∀ number delay, waiting.delays[number]? = some delay →
        delay = min (base * 2 ^ number) bound) ∧
      (waiting.ending = .ok () ↔ ∃ first : ℕ, leadingBusy outcomes = first ∧ first ≤ retries ∧
        outcomes first = .ok ()) ∧
      waiting.ending = outcomes (waiting.attempts - 1) ∧
      waiting.steps.getLast? = some .attempt := by
  intro waiting repeats
  obtain ⟨count, same, (whole : waiting = _)⟩ :=
    exists_run ⟨retries, base, bound⟩ rfl outcomes
  have made : waiting.attempts = count + 1 := by
    rw [Waiting.attempts, whole, attempts_stepsOf]
  have given : waiting.rollbacks = count := by
    rw [Waiting.rollbacks, whole, rollbacks_stepsOf]
  have slept : waiting.delays = (List.range count).map (delayAfter ⟨retries, base, bound⟩) := by
    rw [Waiting.delays, whole, delays_stepsOf]
  have ends : waiting.ending = outcomes count := by rw [whole]
  have repeated : repeats = count := same.symm
  refine ⟨by rw [made, repeated, Nat.cast_succ], by rw [given, repeated], by simp [slept, repeated],
    ?_, by rw [ends, begun_repeats_iff same], by simp [made, ends], ?_⟩
  · intro number delay slot
    rw [slept, List.getElem?_map] at slot
    obtain ⟨own, found, rfl⟩ := Option.map_eq_some_iff.mp slot
    obtain ⟨-, rfl⟩ := List.getElem?_eq_some_iff.mp found
    simpa using delayAfter_eq_min ⟨retries, base, bound⟩ _
  · rw [whole]
    simp [stepsOf]

example : (run (⟨2, 1 / 10, 3 / 20⟩ : Backoff ℚ) fun _ => .refused "Database is locked").delays =
    [1 / 10, 3 / 20] := by
  decide +kernel

end Backoff
end GraphCache
