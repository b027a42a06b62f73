import GraphCache.Proofs.WriteHistory

/-! Runs of a store through its own operations: answers are filed, everything is dropped, the
clock is set. Filing an answer writes the batch of that answer or changes nothing at all, so
what a run leaves behind is told by the batches that it has written. -/
namespace GraphCache

/-- What is done to a store: an answer is filed, everything is dropped, or its clock is set,
forwards or backwards. -/
inductive FilingEvent (τ : Type) where
  | file (deposit : Deposit τ)
  | clear
  | clock (now : τ)

variable {τ : Type} [Instant τ]

/-- The batch in which an answer is filed at an instant. -/
def Deposit.batchAt (deposit : Deposit τ) (settings : StoreSettings τ) (now : τ) :
    Except Malformed (Batch τ) :=
  (deposit.filing settings now).batchOf deposit.prototype deposit.data

/-- The world after an event. What fails changes nothing. -/
def World.after (settings : StoreSettings τ) (world : World τ) : FilingEvent τ → World τ
  | .file deposit =>
    match world.store.deposit settings world.now deposit with
    | .ok (store, _) => { world with store := store }
    | .error _ => world
  | .clear =>
    match world.store.clear with
    | .ok store => { world with store := store }
    | .error _ => world
  | .clock now => { world with now := now }

/-- The world after some events. -/
def World.afterAll (settings : StoreSettings τ) : World τ → List (FilingEvent τ) → World τ
  | world, [] => world
  | world, event :: rest => (world.after settings event).afterAll settings rest

/-- What events change, from an instant on: an answer that can be filed is a write of its
batch. -/
def changesOf (settings : StoreSettings τ) : (now : τ) → List (FilingEvent τ) → List (Change τ)
  | _, [] => []
  | now, .file deposit :: rest =>
    match deposit.batchAt settings now with
    | .ok batch => .write batch :: changesOf settings now rest
    | .error _ => changesOf settings now rest
  | now, .clear :: rest => .clear :: changesOf settings now rest
  | _, .clock now :: rest => .clock now :: changesOf settings now rest

/-- An answer that can be filed is filed as its batch. -/
theorem Store.deposit_made {store : Store τ} (ready : store.Open) {settings : StoreSettings τ}
    {now : τ} {deposit : Deposit τ} {batch : Batch τ}
    (made : deposit.batchAt settings now = .ok batch) :
    ∃ after, store.deposit settings now deposit = .ok (after, batch) ∧
      store.write now batch = .ok after := by
  obtain ⟨⟨after, filed⟩, done⟩ := Store.deposit_ok ready made
  obtain ⟨same, written⟩ := Store.deposit_writes done
  cases made.symm.trans same
  exact ⟨after, done, written⟩

/-- An answer that has no batch fails with the same cause. -/
theorem Store.deposit_malformed (store : Store τ) {settings : StoreSettings τ} {now : τ}
    {deposit : Deposit τ} {cause : Malformed} (made : deposit.batchAt settings now = .error cause) :
    store.deposit settings now deposit = .error (.malformed cause) := by
  rw [Deposit.batchAt] at made
  simp [Store.deposit, made, Except.mapError, bind, Except.bind]

/-- All that an event can do: it writes the batch of an answer, leaves everything as it is
because an answer cannot be filed, drops everything, or sets the clock. -/
theorem World.after_cases {world : World τ} (ready : world.store.Open)
    (settings : StoreSettings τ) (event : FilingEvent τ) :
    (∃ deposit batch store, event = .file deposit ∧ deposit.batchAt settings world.now = .ok batch ∧
      world.store.write world.now batch = .ok store ∧
      world.after settings event = ⟨store, world.now⟩) ∨
    (∃ deposit cause, event = .file deposit ∧
      deposit.batchAt settings world.now = .error cause ∧ world.after settings event = world) ∨
    (event = .clear ∧ world.after settings event = ⟨world.store.kind.empty, world.now⟩) ∨
    (∃ now, event = .clock now ∧ world.after settings event = ⟨world.store, now⟩) := by
  cases event with
  | file deposit =>
    cases made : deposit.batchAt settings world.now with
    | ok batch =>
      obtain ⟨store, done, written⟩ := Store.deposit_made ready made
      exact .inl ⟨deposit, batch, store, rfl, made, written, by simp [World.after, done]⟩
    | error cause =>
      refine .inr (.inl ⟨deposit, cause, rfl, made, ?_⟩)
      simp [World.after, Store.deposit_malformed world.store made]
  | clear => exact .inr (.inr (.inl ⟨rfl, by simp [World.after, Store.clear_ok ready]⟩))
  | clock now => exact .inr (.inr (.inr ⟨now, rfl, rfl⟩))

theorem World.after_open {world : World τ} (ready : world.store.Open) (settings : StoreSettings τ)
    (event : FilingEvent τ) : (world.after settings event).store.Open := by
  obtain ⟨_, _, _, _, _, written, same⟩ | ⟨_, _, _, _, same⟩ | ⟨_, same⟩ | ⟨_, _, same⟩ :=
    World.after_cases ready settings event
  · rw [same]
    exact ready.write written
  · rwa [same]
  · rw [same]
    exact Keeping.open_empty _
  · rwa [same]

/-- A run makes the changes of its events. -/
theorem World.run_changesOf {world : World τ} (ready : world.store.Open)
    (settings : StoreSettings τ) (events : List (FilingEvent τ)) :
    world.run (changesOf settings world.now events) = .ok (world.afterAll settings events) := by
  induction events generalizing world with
  | nil => rfl
  | cons event rest ih =>
    have later := ih (World.after_open ready settings event)
    rw [World.afterAll]
    obtain ⟨deposit, batch, store, rfl, made, written, same⟩ | ⟨deposit, cause, rfl, made, same⟩ |
      ⟨rfl, same⟩ | ⟨now, rfl, same⟩ := World.after_cases ready settings event
    · rw [same] at later ⊢
      simpa [changesOf, made, World.run, World.change, written, bind, Except.bind, pure,
        Except.pure] using later
    · rw [same] at later ⊢
      simpa [changesOf, made] using later
    · rw [same] at later ⊢
      simpa [changesOf, World.run, World.change, Store.clear_ok ready, bind, Except.bind, pure,
        Except.pure] using later
    · rw [same] at later ⊢
      simpa [changesOf, World.run, World.change, bind, Except.bind] using later

/-- After events an empty store of a kind holds what they have filed since the last clear. -/
theorem World.afterAll_holds (kind : Keeping) (settings : StoreSettings τ) (start : τ)
    (events : List (FilingEvent τ)) :
    ((World.mk kind.empty start).afterAll settings events).store.Holds kind
      (batchesSince [] start (changesOf settings start events)) := by
  have empty : (World.mk kind.empty start).store.Holds kind [] := Store.holds_empty kind
  obtain ⟨last, ran, holds⟩ := World.run_holds empty (changesOf settings start events)
  cases ran.symm.trans (World.run_changesOf empty.ready settings events)
  exact holds

end GraphCache
