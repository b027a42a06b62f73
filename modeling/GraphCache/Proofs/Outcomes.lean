import Mathlib.Tactic.Common

/-! Outcomes that are a result or an error, taken apart step by step, and steps on a state that
end in one. -/
namespace GraphCache

variable {ε ε' σ α β : Type}

/-- What succeeds in two steps has a result in between. -/
theorem except_bind_ok {first : Except ε α} {second : α → Except ε β} {result : β} :
    first.bind second = .ok result ↔ ∃ middle, first = .ok middle ∧ second middle = .ok result := by
  cases first <;> simp [Except.bind]

theorem except_map_ok {outcome : Except ε α} {change : α → β} {result : β} :
    outcome.map change = .ok result ↔ ∃ own, outcome = .ok own ∧ change own = result := by
  cases outcome <;> simp [Except.map]

theorem except_mapError_ok {outcome : Except ε α} {change : ε → ε'} {result : α} :
    outcome.mapError change = .ok result ↔ outcome = .ok result := by
  cases outcome <;> simp [Except.mapError]

theorem except_ok_of_toOption {outcome : Except ε α} {result : α}
    (some : outcome.toOption = some result) : outcome = .ok result := by
  cases outcome <;> simp_all [Except.toOption]

/-! ## Steps on a state -/

/-- A step that keeps an invariant of the state and gives only values with a property. -/
def Preserves (invariant : σ → Prop) (step : StateT σ (Except ε) α) (property : α → Prop) : Prop :=
  ∀ state value after, invariant state → step state = .ok (value, after) →
    invariant after ∧ property value

namespace Preserves

variable {invariant : σ → Prop} {property : α → Prop}

protected theorem pure {value : α} (own : property value) :
    Preserves (ε := ε) invariant (pure value) property := by
  intro state _ _ kept done
  cases done
  exact ⟨kept, own⟩

protected theorem throw (error : ε) :
    Preserves invariant (throw error : StateT σ (Except ε) α) property := by
  intro state value after _ done
  cases done

protected theorem bind {first : StateT σ (Except ε) α} {second : α → StateT σ (Except ε) β}
    {middle : α → Prop} {property : β → Prop} (one : Preserves invariant first middle)
    (two : ∀ value, middle value → Preserves invariant (second value) property) :
    Preserves invariant (first >>= second) property := by
  intro state value after kept done
  obtain ⟨⟨own, next⟩, begun, rest⟩ := except_bind_ok.mp done
  obtain ⟨still, given⟩ := one state own next kept begun
  exact two own given next value after still rest

theorem mono {step : StateT σ (Except ε) α} {weaker : α → Prop}
    (preserves : Preserves invariant step property)
    (implied : ∀ value, property value → weaker value) : Preserves invariant step weaker :=
  fun state value after kept done =>
    (preserves state value after kept done).imp_right (implied value)

protected theorem get : Preserves (ε := ε) invariant (get : StateT σ (Except ε) σ) invariant := by
  intro state value after kept done
  cases done
  exact ⟨kept, kept⟩

protected theorem set {state : σ} (own : invariant state) :
    Preserves invariant (set state : StateT σ (Except ε) PUnit) fun _ => True := by
  intro before value after kept done
  cases done
  exact ⟨own, trivial⟩

protected theorem modify {change : σ → σ} (keeps : ∀ state, invariant state → invariant (change state)) :
    Preserves invariant (modify change : StateT σ (Except ε) PUnit) fun _ => True := by
  intro before value after kept done
  cases done
  exact ⟨keeps before kept, trivial⟩

theorem lift (outcome : Except ε α) :
    Preserves invariant (liftM outcome : StateT σ (Except ε) α) fun _ => True := by
  intro before value after kept done
  obtain ⟨own, -, rest⟩ := except_bind_ok.mp done
  cases rest
  exact ⟨kept, trivial⟩

theorem forM {items : List α} {each : α → StateT σ (Except ε) PUnit}
    (keeps : ∀ item ∈ items, Preserves invariant (each item) fun _ => True) :
    Preserves invariant (items.forM each) fun _ => True := by
  induction items with
  | nil => exact .pure trivial
  | cons item rest ih =>
    obtain ⟨own, others⟩ := List.forall_mem_cons.mp keeps
    exact own.bind fun _ _ => ih others

theorem mapM {items : List α} {each : α → StateT σ (Except ε) β}
    (keeps : ∀ item, Preserves invariant (each item) fun _ => True) :
    Preserves invariant (items.mapM each) fun _ => True := by
  induction items with
  | nil => exact .pure trivial
  | cons item rest ih =>
    rw [List.mapM_cons]
    exact (keeps item).bind fun _ _ => ih.bind fun _ _ => .pure trivial

theorem foldlM {items : List α} {each : β → α → StateT σ (Except ε) β} {property : β → Prop}
    (keeps : ∀ value item, property value → Preserves invariant (each value item) property)
    {start : β} (own : property start) :
    Preserves invariant (items.foldlM each start) property := by
  induction items generalizing start with
  | nil => exact .pure own
  | cons item rest ih =>
    rw [List.foldlM_cons]
    exact (keeps start item own).bind fun value given => ih given

end Preserves
end GraphCache
