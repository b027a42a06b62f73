import GraphCache.Proofs.Filings
import GraphCache.Proofs.OrderedDoubles

/-! An index entry never outlasts the records it names. Both expire a lifetime after they were
written; a record is written together with every entry that names it, and whatever writes it
again later moves its deadline on, as long as all lifetimes are the store's own and the clock
does not go back. So a lookup finds nothing, or everything that the last entry names. -/
namespace GraphCache

/-- A lifetime that keeps earlier instants from later ones: after it, and as a table keeps them,
the earlier ones are no later, and a deadline is reached no later than the ones after it.
Nothing needs to be exact. -/
structure Instant.Steady {τ : Type} [Preorder τ] [Instant τ] (lifetime : τ) : Prop where
  after_le {earlier later : τ} (ordered : earlier ≤ later) :
    Instant.after earlier lifetime ≤ Instant.after later lifetime
  kept_le {earlier later : τ} (ordered : earlier ≤ later) :
    Instant.kept earlier ≤ Instant.kept later
  reached_of_le {earlier later now : τ} (ordered : earlier ≤ later) :
    Instant.reached later now = true → Instant.reached earlier now = true

/-- Exact lifetimes are steady. -/
theorem Instant.steady_exact (lifetime : Int) : Instant.Steady lifetime where
  after_le ordered := Int.add_le_add_right ordered lifetime
  kept_le ordered := ordered
  reached_of_le ordered reached := by
    simp only [Instant.reached, decide_eq_true_eq] at reached ⊢
    omega

/-- Lifetimes that are finite in double precision are steady, too. -/
theorem Instant.steady_seconds {lifetime : Seconds} {negative : Bool} {mantissa : Nat}
    {exponent : Int} (finite : lifetime.toReal = .finite negative mantissa exponent) :
    Instant.Steady lifetime where
  after_le ordered := Seconds.add_le_add ordered finite
  kept_le ordered := Seconds.toReal_le ordered
  reached_of_le ordered reached := by
    obtain rfl | below := Seconds.le_exact ordered
    · exact reached
    · exact Binary64.lessEqual_trans below reached

/-- From an instant on, the clock is never set back. -/
def Forward {τ : Type} [LE τ] : (now : τ) → List (FilingEvent τ) → Prop
  | _, [] => True
  | now, .clock next :: rest => now ≤ next ∧ Forward next rest
  | now, .file _ :: rest => Forward now rest
  | now, .clear :: rest => Forward now rest

variable {τ : Type} [Instant τ]

/-! ## Writing -/

namespace Keeping

/-- The last of the records that are written under a key gives the deadline of what is held
there. -/
theorem recordAfter_expiresAt (kind : Keeping) (key : String) (now : τ) {deadline : Option τ}
    {records : List (Record τ)} (same : ∀ record ∈ records, record.expiresAt = deadline)
    (written : records ≠ []) (held : Option (Record τ)) :
    ∃ record, kind.recordAfter key now held records = some record ∧
      record.expiresAt = kind.keeps deadline := by
  induction records generalizing held with
  | nil => exact absurd rfl written
  | cons record rest ih =>
    obtain ⟨own, others⟩ := List.forall_mem_cons.mp same
    by_cases last : rest = []
    · subst last
      exact ⟨_, rfl, by rw [kind.rewritten_expiresAt, own]⟩
    · exact ih others last _

/-- A record stays under its own key. -/
theorem recordAfter_key (kind : Keeping) {key : String} {now : τ} {records : List (Record τ)}
    (own : ∀ record ∈ records, record.key = key) (held : Option (Record τ))
    (before : ∀ record, held = some record → record.key = key) :
    ∀ record, kind.recordAfter key now held records = some record → record.key = key := by
  refine kind.recordAfter_induction (fun record member _ _ => ?_) before
  cases kind with
  | memory => exact own record member
  | tables => rfl

end Keeping

/-- A batch of which everything expires at one time, with records under their own keys and an
index that names no others. -/
structure Batch.Simultaneous (batch : Batch τ) (deadline : τ) : Prop where
  keyed : batch.Keyed
  records : ∀ entry ∈ batch.entities, entry.2.expiresAt = some deadline
  entries : ∀ entry ∈ batch.queries, entry.expiresAt = some deadline
  names : ∀ entry ∈ batch.queries, ∀ name ∈ entry.entityKeys,
    (OrderedMap.get? batch.entities name).isSome

omit [Instant τ] in
theorem Batch.mem_writesOf {batch : Batch τ} {key : String} {record : Record τ}
    (member : record ∈ batch.writesOf key) : (key, record) ∈ batch.entities := by
  obtain ⟨entry, inside, picked⟩ := List.mem_filterMap.mp member
  split at picked
  · rename_i same
    cases picked
    exact same ▸ inside
  · cases picked

omit [Instant τ] in
theorem Batch.writesOf_ne_nil {batch : Batch τ} {key : String}
    (held : (OrderedMap.get? batch.entities key).isSome) : batch.writesOf key ≠ [] := by
  obtain ⟨record, found⟩ := Option.isSome_iff_exists.mp held
  refine List.ne_nil_of_mem (a := record) (List.mem_filterMap.mpr ⟨(key, record), ?_, by simp⟩)
  exact OrderedMap.mem_of_get?_eq_some found

/-- So is every batch of an answer. -/
theorem Deposit.batchAt_simultaneous {deposit : Deposit τ} {settings : StoreSettings τ} {now : τ}
    {batch : Batch τ} (made : deposit.batchAt settings now = .ok batch) :
    batch.Simultaneous (Instant.after now (deposit.lifetime.getD settings.lifetime)) := by
  obtain ⟨fields, _, _, holds, all⟩ := Filing.exists_batchOf_filed made
  refine ⟨holds.keyed, holds.expires, fun entry member => ?_, fun entry member name named =>
    holds.names all member named⟩
  obtain ⟨_, _, indexed⟩ := exists_related all member
  exact indexed.expires

section Steady
variable [Preorder τ]

/-- A store at an instant whose entries name only records that are held under their own keys, and
have been written no earlier than the entry itself. -/
structure Store.Complete (store : Store τ) (lifetime now : τ) : Prop where
  ready : store.Open
  keyed : ∀ key record, store.record? key = some record → record.key = key
  written : ∀ label index, store.index? label = some index → ∃ time ≤ now,
    index.expiresAt = store.kind.keeps (some (Instant.after time lifetime)) ∧
    ∀ name ∈ index.entityKeys, ∃ record later, store.record? name = some record ∧ time ≤ later ∧
      record.expiresAt = store.kind.keeps (some (Instant.after later lifetime))

theorem Store.complete_empty (kind : Keeping) (lifetime now : τ) :
    (kind.empty : Store τ).Complete lifetime now where
  ready := kind.open_empty
  keyed := by cases kind <;> rintro _ _ ⟨⟩
  written := by cases kind <;> rintro _ _ ⟨⟩

/-- A store stays so as time passes. -/
theorem Store.Complete.later {store : Store τ} {lifetime now next : τ}
    (complete : store.Complete lifetime now) (passed : now ≤ next) :
    store.Complete lifetime next where
  ready := complete.ready
  keyed := complete.keyed
  written := by
    intro label index indexed
    obtain ⟨time, before, rest⟩ := complete.written label index indexed
    exact ⟨time, le_trans before passed, rest⟩

/-- A batch that is written now moves the deadlines of its records on. -/
theorem Store.Complete.write {store after : Store τ} {lifetime now : τ}
    (complete : store.Complete lifetime now) {batch : Batch τ}
    (filed : batch.Simultaneous (Instant.after now lifetime))
    (done : store.write now batch = .ok after) : after.Complete lifetime now where
  ready := complete.ready.write done
  keyed := by
    intro key record held
    rw [record?_write done] at held
    refine store.kind.recordAfter_key (fun own member => ?_) _ (complete.keyed key) record held
    exact filed.keyed _ (Batch.mem_writesOf member)
  written := by
    have moved (name : String) (fresh : batch.writesOf name ≠ []) :
        ∃ record, after.record? name = some record ∧
          record.expiresAt = store.kind.keeps (some (Instant.after now lifetime)) := by
      rw [record?_write done]
      exact store.kind.recordAfter_expiresAt name now
        (fun record member => filed.records _ (Batch.mem_writesOf member)) fresh _
    intro label index indexed
    rw [index?_write_kept done] at indexed
    rw [kind_write done]
    cases found : store.entryFor? batch.queries label with
    | some entry =>
      rw [found] at indexed
      cases indexed
      have member := List.mem_reverse.mp (List.mem_of_find?_eq_some found)
      have deadline : store.kind.keeps entry.expiresAt =
          store.kind.keeps (some (Instant.after now lifetime)) := by
        rw [filed.entries entry member]
      refine ⟨now, le_refl now, deadline, fun name named => ?_⟩
      obtain ⟨record, held, expires⟩ := moved name
        (Batch.writesOf_ne_nil (filed.names entry member name named))
      exact ⟨record, now, held, le_refl now, expires⟩
    | none =>
      rw [found] at indexed
      obtain ⟨time, before, expires, names⟩ := complete.written label index indexed
      refine ⟨time, before, expires, fun name named => ?_⟩
      by_cases fresh : batch.writesOf name = []
      · obtain ⟨record, later, held, order, deadline⟩ := names name named
        refine ⟨record, later, ?_, order, deadline⟩
        rw [record?_write done, fresh, held]
        rfl
      · obtain ⟨record, held, deadline⟩ := moved name fresh
        exact ⟨record, now, held, before, deadline⟩

/-- Every event keeps a store so that files with the store's own lifetime and does not set the
clock back. -/
theorem World.after_complete {settings : StoreSettings τ} {world : World τ}
    (complete : world.store.Complete settings.lifetime world.now) {event : FilingEvent τ}
    (default : ∀ deposit, event = .file deposit → deposit.lifetime = none)
    (forward : Forward world.now [event]) :
    (world.after settings event).store.Complete settings.lifetime (world.after settings event).now := by
  obtain ⟨deposit, batch, store, filing, made, written, same⟩ | ⟨_, _, _, _, same⟩ | ⟨_, same⟩ |
    ⟨next, setting, same⟩ := World.after_cases complete.ready settings event
  · have filed := Deposit.batchAt_simultaneous made
    rw [default deposit filing, Option.getD_none] at filed
    rw [same]
    exact complete.write filed written
  · rwa [same]
  · rw [same]
    exact Store.complete_empty _ _ _
  · rw [setting, Forward] at forward
    rw [same]
    exact complete.later forward.1

theorem World.forward_after (settings : StoreSettings τ) (world : World τ) {event : FilingEvent τ}
    {rest : List (FilingEvent τ)} (forward : Forward world.now (event :: rest)) :
    Forward world.now [event] ∧ Forward (world.after settings event).now rest := by
  cases event with
  | file deposit =>
    refine ⟨trivial, ?_⟩
    rw [World.after]
    split <;> exact forward
  | clear =>
    refine ⟨trivial, ?_⟩
    rw [World.after]
    split <;> exact forward
  | clock next => exact ⟨⟨forward.1, trivial⟩, forward.2⟩

theorem World.afterAll_complete {settings : StoreSettings τ} {world : World τ}
    (complete : world.store.Complete settings.lifetime world.now) {events : List (FilingEvent τ)}
    (default : ∀ deposit, .file deposit ∈ events → deposit.lifetime = none)
    (forward : Forward world.now events) :
    (world.afterAll settings events).store.Complete settings.lifetime
      (world.afterAll settings events).now := by
  induction events generalizing world with
  | nil => exact complete
  | cons event rest ih =>
    obtain ⟨first, later⟩ := World.forward_after settings world forward
    have kept := World.after_complete complete
      (fun deposit same => default deposit (same ▸ List.mem_cons_self)) first
    exact ih kept (fun deposit member => default deposit (List.mem_cons_of_mem _ member)) later

/-! ## Reading -/

/-- What is written later expires no earlier. -/
theorem Keeping.expired_of_le (kind : Keeping) {earlier later lifetime now : τ}
    (steady : Instant.Steady lifetime) (ordered : earlier ≤ later)
    (gone : hasExpired (kind.keeps (some (Instant.after later lifetime))) now = true) :
    hasExpired (kind.keeps (some (Instant.after earlier lifetime))) now = true := by
  have deadlines := steady.after_le ordered
  cases kind with
  | memory => exact steady.reached_of_le deadlines gone
  | tables => exact steady.reached_of_le (steady.kept_le deadlines) gone

/-- In such a store every record that an entry names is there at least as long as the entry. -/
theorem Store.Complete.outlasts {store : Store τ} {lifetime now : τ}
    (complete : store.Complete lifetime now) (steady : Instant.Steady lifetime) {label : Label}
    {index : Index τ} (indexed : store.index? label = some index) {name : String} (named : name ∈ index.entityKeys) :
    ∃ record, store.record? name = some record ∧ record.key = name ∧
      ∀ time, hasExpired record.expiresAt time = true → hasExpired index.expiresAt time = true := by
  obtain ⟨time, _, expires, names⟩ := complete.written label index indexed
  obtain ⟨record, later, held, order, deadline⟩ := names name named
  refine ⟨record, held, complete.keyed name record held, fun moment gone => ?_⟩
  rw [deadline] at gone
  rw [expires]
  exact store.kind.expired_of_le steady order gone

/-- A lookup in such a store finds nothing, or all that the entry names. -/
theorem Store.Complete.lookup {store : Store τ} {lifetime now : τ}
    (complete : store.Complete lifetime now) (steady : Instant.Steady lifetime) (time : τ)
    (key : String) :
    ∃ records, store.lookup time key = .ok records ∧ (records = [] ∨
      ∃ index, store.index? (.text key) = some index ∧ records.map Record.key = index.entityKeys) := by
  rw [lookup_shows complete.ready]
  refine ⟨_, rfl, ?_⟩
  cases indexed : store.index? (.text key) with
  | none => exact .inl rfl
  | some index =>
    by_cases gone : hasExpired index.expiresAt time = true
    · exact .inl (by simp [gone])
    · refine .inr ⟨index, rfl, ?_⟩
      have each : ∀ name ∈ index.entityKeys,
          ((store.record? name).filter (·.isLive time)).map Record.key = some name := by
        intro name named
        obtain ⟨record, held, keyed, outlasts⟩ := complete.outlasts steady indexed named
        have live : record.isLive time = true := by
          rw [Record.isLive, Bool.not_eq_true']
          exact Bool.eq_false_iff.mpr fun past => gone (outlasts time past)
        simp [held, Option.filter_some, live, keyed]
      simp only [gone, Bool.false_eq_true, ↓reduceIte, List.map_filterMap]
      rw [List.filterMap_congr each, List.filterMap_some]

/-- Where every answer is filed with the store's own steady lifetime and the clock never goes back,
a lookup at any time finds nothing, or one record for each key of the entry that was written
last, in its order: no record that an entry names expires before the entry. -/
theorem World.lookup_complete (kind : Keeping) (settings : StoreSettings τ) (start : τ)
    (events : List (FilingEvent τ)) (steady : Instant.Steady settings.lifetime)
    (default : ∀ deposit, .file deposit ∈ events → deposit.lifetime = none)
    (forward : Forward start events) :
    ∃ store, ((World.mk kind.empty start).afterAll settings events).store = store ∧
      (∀ now key, ∃ records, store.lookup now key = .ok records ∧ (records = [] ∨
        ∃ entry, kind.lastEntry? (batchesSince [] start (changesOf settings start events)) key =
          some entry ∧ records.map Record.key = entry.entityKeys)) ∧
      ∀ label index, store.index? label = some index → ∀ name ∈ index.entityKeys,
        ∃ record, store.record? name = some record ∧ ∀ now,
          hasExpired record.expiresAt now = true → hasExpired index.expiresAt now = true := by
  have opened : (World.mk kind.empty start).store.Complete settings.lifetime start :=
    Store.complete_empty kind settings.lifetime start
  have complete := World.afterAll_complete opened default forward
  have holds := World.afterAll_holds kind settings start events
  refine ⟨_, rfl, fun now key => ?_, fun label index indexed name named => ?_⟩
  · obtain ⟨records, found, shown⟩ := complete.lookup steady now key
    refine ⟨records, found, shown.imp_right ?_⟩
    rintro ⟨index, indexed, keys⟩
    rw [holds.indices key, Option.map_eq_some_iff] at indexed
    obtain ⟨entry, written, rfl⟩ := indexed
    exact ⟨entry, written, keys⟩
  · obtain ⟨record, held, _, outlasts⟩ := complete.outlasts steady indexed named
    exact ⟨record, held, outlasts⟩

end Steady

/-- A list in which one country stands twice is filed, and filed again ten seconds later. -/
private def repeatedCountries : List (FilingEvent Seconds) :=
  [.file ⟨Countries.document.expanded none, .object [("countries", Countries.value)], [], [], false,
    none, none⟩, .clock (.real (.ofInt 10)),
   .file ⟨Countries.document.expanded none, .object [("countries", Countries.value)], [], [], false,
    none, none⟩]

/-- When the first entry would have expired, the second one still shows both countries. -/
theorem World.lookup_complete_countries :
    ∃ store records entry,
      ((World.mk Keeping.tables.empty (.real (.ofInt 0))).afterAll ⟨.whole 600, none⟩
        repeatedCountries).store = store ∧
      Keeping.tables.lastEntry? (batchesSince [] (.real (.ofInt 0))
        (changesOf ⟨.whole 600, none⟩ (.real (.ofInt 0)) repeatedCountries)) "countries" =
          some entry ∧
      store.lookup (.real (.ofInt 605)) "countries" = .ok records ∧ records ≠ [] ∧
      records.map Record.key = entry.entityKeys := by
  have finite : (Seconds.whole 600).toReal = .finite false 5277655813324800 (-43) := by decide
  obtain ⟨store, same, complete, _⟩ := World.lookup_complete .tables ⟨.whole 600, none⟩
    (.real (.ofInt 0)) repeatedCountries (Instant.steady_seconds finite) (by
      intro deposit member
      simp only [repeatedCountries, List.mem_cons, FilingEvent.file.injEq, reduceCtorEq,
        List.not_mem_nil, or_false, false_or, or_self] at member
      rw [member])
    ⟨.real (by decide), trivial⟩
  obtain ⟨records, found, shape⟩ := complete (.real (.ofInt 605)) "countries"
  have shown : records ≠ [] := by
    intro none
    rw [← same, none] at found
    have absent := congrArg (fun result => (Except.toOption result).map List.length) found
    revert absent
    decide +kernel
  obtain ⟨entry, written, keys⟩ := shape.resolve_left shown
  exact ⟨store, records, entry, same, written, found, shown, keys⟩

end GraphCache
