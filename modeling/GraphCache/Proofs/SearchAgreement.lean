import GraphCache.Proofs.Addresses
import GraphCache.Proofs.CompleteEntries

/-! Searching a store in memory and one in tables after the same events. Both hold a record under
the same keys, with the same data until the same time. Only its names differ: memory has the
type and the identifier that were written last, a table keeps those that were written first
since everything was dropped. A search goes by these names, so the stores find the same exactly
if every key that is shown was written under the same names first and last. -/
namespace GraphCache

section Plain
variable {τ : Type}

/-- A record under the names of another one. -/
def Record.namedAs (record other : Record τ) : Record τ :=
  { record with typeName := other.typeName, entityId := other.entityId }

/-- Two records that every search takes for the same: their names are the same, or both have types
that no search asks for, because it asks in lower case. -/
def Record.NamedAlike (first last : Record τ) : Prop :=
  first.typeName = last.typeName ∧ first.entityId = last.entityId ∨
    ¬Text.Lowered first.typeName ∧ ¬Text.Lowered last.typeName

end Plain

variable {τ : Type} [Instant τ]

/-- A batch whose deadlines stay as they are in a table. -/
def Batch.Kept (batch : Batch τ) : Prop :=
  ∀ entry ∈ batch.entities, Keeping.tables.keeps entry.2.expiresAt = entry.2.expiresAt

/-! ## What is held -/

namespace Keeping

variable (key : String) {writes : List (KeyWrite τ)}

/-- Memory holds a record under the names of its last write, and until its deadline. -/
theorem recordFrom_memory {last : KeyWrite τ} (ended : writes.getLast? = some last) :
    ∃ record, memory.recordFrom key writes = some record ∧ record.key = last.record.key ∧
      record.typeName = last.record.typeName ∧ record.entityId = last.record.entityId ∧
      record.expiresAt = last.record.expiresAt := by
  obtain ⟨earlier, rfl⟩ := List.getLast?_eq_some_iff.mp ended
  exact ⟨_, recordFrom_snoc last, rfl, rfl, rfl, rfl⟩

/-- Tables hold the same record under the names of its first write. -/
theorem recordFrom_tables {first : KeyWrite τ} (begun : writes.head? = some first)
    (own : ∀ write ∈ writes, write.record.key = key ∧
      tables.keeps write.record.expiresAt = write.record.expiresAt) :
    tables.recordFrom key writes =
      (memory.recordFrom key writes).map fun record => record.namedAs first.record := by
  induction writes using List.reverseRecOn with
  | nil => cases begun
  | append_singleton earlier write ih =>
    obtain ⟨keyed, kept⟩ := own write (by simp)
    rw [recordFrom_snoc, recordFrom_snoc, Option.map_some]
    cases earlier with
    | nil =>
      cases begun
      simp only [keeps] at kept
      simp only [recordFrom, List.foldl_nil, rewritten, Record.namedAs, Option.getD_none, kept,
        keyed]
    | cons start rest =>
      obtain rfl : start = first := Option.some.inj begun
      obtain ⟨held, found⟩ : ∃ held, memory.recordFrom key (start :: rest) = some held := by
        cases last : (start :: rest).getLast? with
        | none => simp at last
        | some last' => exact ⟨_, (recordFrom_memory key last).choose_spec.1⟩
      rw [ih rfl fun other member => own other (List.mem_append_left _ member), found]
      simp only [keeps] at kept
      simp only [rewritten, Option.map_some, Option.getD_some, Record.namedAs, Record.content, kept,
        keyed]

end Keeping

/-! ## Searches -/

namespace Store

/-- A store that can be searched: every record is held once, and under its own key. -/
structure Searchable (store : Store τ) : Prop where
  ready : store.Open
  unique : store.heldKeys.Nodup
  own : ∀ key record, store.record? key = some record → record.key = key

/-- The searches of two stores find the same at an instant, in some order. -/
def FindsAlike (one two : Store τ) (now : τ) : Prop :=
  ∀ typeName identifier, ∃ left right, one.find now typeName identifier = .ok left ∧
    two.find now typeName identifier = .ok right ∧ left.Perm right

namespace Searchable

variable {store : Store τ} (searchable : store.Searchable) {now : τ} {typeName : String}
  {identifier : Option String} {found : List (Record τ)}
include searchable

/-- A search finds what is held and live with its names. -/
theorem mem_find (searched : store.find now typeName identifier = .ok found) (record : Record τ) :
    record ∈ found ↔ (∃ key, store.record? key = some record) ∧ record.isLive now = true ∧
      record.typeName = Text.lowercase typeName ∧ ∀ name ∈ identifier, record.entityId = name := by
  rw [find_shows searchable.ready searchable.unique] at searched
  cases searched
  have held : record ∈ store.heldKeys.filterMap store.record? ↔
      ∃ key, store.record? key = some record := by
    rw [List.mem_filterMap]
    refine exists_congr fun key => and_iff_right_of_imp fun held => ?_
    rw [mem_heldKeys, held]
    rfl
  have named : identifier.all (record.entityId == ·) = true ↔
      ∀ name ∈ identifier, record.entityId = name := by
    cases identifier <;> simp
  rw [List.mem_filter, held, Bool.and_eq_true, Bool.and_eq_true, beq_iff_eq, named]
  tauto

/-- It finds nothing twice. -/
theorem find_nodup (searched : store.find now typeName identifier = .ok found) : found.Nodup := by
  rw [find_shows searchable.ready searchable.unique] at searched
  cases searched
  refine (searchable.unique.filterMap fun one two record first second => ?_).filter _
  rw [← searchable.own one record first, searchable.own two record second]

/-- Every search succeeds. -/
theorem find_ok (now : τ) (typeName : String) (identifier : Option String) :
    ∃ found, store.find now typeName identifier = .ok found :=
  ⟨_, find_shows searchable.ready searchable.unique now typeName identifier⟩

/-- A live record whose type is in lower case is what another store holds under its key, if
searches cannot tell the stores apart. -/
theorem eq_of_findsAlike {other : Store τ} (second : other.Searchable)
    (alike : store.FindsAlike other now) {key : String} {shown held : Record τ}
    (shows : store.record? key = some shown) (holds : other.record? key = some held)
    (live : shown.isLive now = true) (lower : Text.Lowered shown.typeName) : held = shown := by
  obtain ⟨left, right, found, searched, same⟩ := alike shown.typeName (some shown.entityId)
  have inside := (searchable.mem_find found shown).mpr
    ⟨⟨key, shows⟩, live, lower.symm, fun name => by simp⟩
  obtain ⟨⟨place, there⟩, _⟩ := (second.mem_find searched shown).mp (same.mem_iff.mp inside)
  rw [← second.own place shown there, searchable.own key shown shows, holds] at there
  exact Option.some.inj there

end Searchable

theorem FindsAlike.symm {one two : Store τ} {now : τ} (alike : one.FindsAlike two now) :
    two.FindsAlike one now := by
  intro typeName identifier
  obtain ⟨left, right, found, searched, same⟩ := alike typeName identifier
  exact ⟨right, left, searched, found, same.symm⟩

end Store

/-! ## What is found -/

/-- What both stores hold under a key that was written: the same record, in memory under the names
of the last write, in tables under those of the first. -/
structure Store.Pair (memory tables : Store τ) (key : String) (first last : KeyWrite τ)
    (record : Record τ) : Prop where
  memory : memory.record? key = some record
  tables : tables.record? key = some (record.namedAs first.record)
  key : record.key = key
  typeName : record.typeName = last.record.typeName
  entityId : record.entityId = last.record.entityId
  expiresAt : record.expiresAt = last.record.expiresAt

/-- Every key that is shown at an instant was written under the same names first and last. -/
def NamedAlike (batches : List (τ × Batch τ)) (now : τ) : Prop :=
  ∀ key first last, (keyWrites batches key).head? = some first →
    (keyWrites batches key).getLast? = some last →
    hasExpired last.record.expiresAt now = false → first.record.NamedAlike last.record

variable {memory tables : Store τ} {batches : List (τ × Batch τ)}

private theorem own_writes (own : ∀ entry ∈ batches, entry.2.Keyed ∧ entry.2.Kept) (key : String) :
    ∀ write ∈ keyWrites batches key, write.record.key = key ∧
      Keeping.tables.keeps write.record.expiresAt = write.record.expiresAt := by
  intro write member
  obtain ⟨batch, inside, written⟩ := List.mem_flatMap.mp member
  obtain ⟨record, filed, rfl⟩ := List.mem_map.mp written
  obtain ⟨keyed, kept⟩ := own batch inside
  exact ⟨keyed _ (Batch.mem_writesOf filed), kept _ (Batch.mem_writesOf filed)⟩

/-- Under every key stands nothing in both stores, or such a pair. -/
private theorem none_or_pair (left : memory.Holds .memory batches)
    (right : tables.Holds .tables batches)
    (own : ∀ entry ∈ batches, entry.2.Keyed ∧ entry.2.Kept) (key : String) :
    keyWrites batches key = [] ∧ memory.record? key = none ∧ tables.record? key = none ∨
      ∃ first last record, (keyWrites batches key).head? = some first ∧
        (keyWrites batches key).getLast? = some last ∧
        Store.Pair memory tables key first last record := by
  by_cases none : keyWrites batches key = []
  · exact .inl ⟨none, by rw [left.records, none]; rfl, by rw [right.records, none]; rfl⟩
  · right
    have begun := List.head?_eq_some_head none
    have ended := List.getLast?_eq_some_getLast none
    have writes := own_writes own key
    obtain ⟨record, held, keyed, type, identifier, deadline⟩ :=
      Keeping.recordFrom_memory key ended
    refine ⟨_, _, record, begun, ended, ?_, ?_, ?_, type, identifier, deadline⟩
    · rw [left.records, held]
    · rw [right.records, Keeping.recordFrom_tables key begun writes, held, Option.map_some]
    · rw [keyed, (writes _ (List.getLast_mem none)).1]

private theorem searchable_pair (left : memory.Holds .memory batches)
    (right : tables.Holds .tables batches)
    (own : ∀ entry ∈ batches, entry.2.Keyed ∧ entry.2.Kept) :
    memory.Searchable ∧ tables.Searchable := by
  refine ⟨⟨left.ready, left.unique, fun key record held => ?_⟩,
    ⟨right.ready, right.unique, fun key record held => ?_⟩⟩
  · obtain ⟨_, none, _⟩ | ⟨_, _, shown, _, _, pair⟩ := none_or_pair left right own key
    · cases none.symm.trans held
    · cases pair.memory.symm.trans held
      exact pair.key
  · obtain ⟨_, _, none⟩ | ⟨_, _, shown, _, _, pair⟩ := none_or_pair left right own key
    · cases none.symm.trans held
    · cases pair.tables.symm.trans held
      exact pair.key

namespace Store.Pair

variable {key : String} {first last : KeyWrite τ} {record : Record τ}
  (pair : Store.Pair memory tables key first last record)
include pair

omit [Instant τ] in
/-- Under the same names it is the same record. -/
theorem same_iff : record.namedAs first.record = record ↔
    first.record.typeName = last.record.typeName ∧
      first.record.entityId = last.record.entityId := by
  rw [← pair.typeName, ← pair.entityId]
  refine ⟨fun same => ?_, fun ⟨type, identifier⟩ => by rw [Record.namedAs, type, identifier]⟩
  have type := congrArg Record.typeName same
  have identifier := congrArg Record.entityId same
  exact ⟨type, identifier⟩

/-- A pair is found by the same searches, if its names are alike as long as it is live. -/
theorem found_iff {now : τ} (alike : hasExpired last.record.expiresAt now = false →
    first.record.NamedAlike last.record) {shown : Record τ} (live : shown.isLive now = true)
    (lower : Text.Lowered shown.typeName) :
    memory.record? key = some shown ↔ tables.record? key = some shown := by
  rw [pair.memory, pair.tables, Option.some.injEq, Option.some.injEq]
  by_cases gone : hasExpired last.record.expiresAt now = true
  · have past : hasExpired record.expiresAt now = true := pair.expiresAt ▸ gone
    refine iff_of_false ?_ ?_ <;> rintro rfl <;> simp [Record.isLive, Record.namedAs, past] at live
  obtain names | ⟨early, late⟩ := alike (by simpa using gone)
  · rw [pair.same_iff.mpr names]
  · refine iff_of_false ?_ ?_
    · rintro rfl
      exact late (pair.typeName ▸ lower)
    · rintro rfl
      exact early lower

/-- Where searches find the same, the names of a live pair are alike. -/
theorem namedAlike (one : memory.Searchable) (two : tables.Searchable) {now : τ}
    (alike : memory.FindsAlike tables now) (live : hasExpired last.record.expiresAt now = false) :
    first.record.NamedAlike last.record := by
  have shown : record.isLive now = true := by
    rw [Record.isLive, pair.expiresAt, live]
    rfl
  by_cases late : Text.Lowered last.record.typeName
  · refine .inl (pair.same_iff.mp ?_)
    exact one.eq_of_findsAlike two alike pair.memory pair.tables shown (pair.typeName ▸ late)
  by_cases early : Text.Lowered first.record.typeName
  · refine .inl (pair.same_iff.mp (Eq.symm ?_))
    exact two.eq_of_findsAlike one alike.symm pair.tables pair.memory shown early
  · exact .inr ⟨early, late⟩

end Store.Pair

/-- Searches find the same in both stores exactly if every key that is shown was written under the
same names first and last. -/
private theorem findsAlike_iff (left : memory.Holds .memory batches)
    (right : tables.Holds .tables batches)
    (own : ∀ entry ∈ batches, entry.2.Keyed ∧ entry.2.Kept) (now : τ) :
    memory.FindsAlike tables now ↔ NamedAlike batches now := by
  obtain ⟨one, two⟩ := searchable_pair left right own
  constructor
  · intro alike key first last begun ended live
    obtain ⟨none, _⟩ | ⟨_, _, record, head, final, pair⟩ := none_or_pair left right own key
    · rw [none] at begun
      cases begun
    · cases head.symm.trans begun
      cases final.symm.trans ended
      exact pair.namedAlike one two alike live
  · intro named typeName identifier
    obtain ⟨found, searched⟩ := one.find_ok now typeName identifier
    obtain ⟨rows, read⟩ := two.find_ok now typeName identifier
    refine ⟨found, rows, searched, read, ?_⟩
    refine (List.perm_ext_iff_of_nodup (one.find_nodup searched) (two.find_nodup read)).mpr
      fun shown => ?_
    rw [one.mem_find searched, two.mem_find read]
    refine and_congr_left fun ⟨live, sought, _⟩ => exists_congr fun key => ?_
    have lower : Text.Lowered shown.typeName := sought ▸ Text.lowered_lowercase typeName
    obtain ⟨_, first, second⟩ | ⟨first, last, record, begun, ended, pair⟩ :=
      none_or_pair left right own key
    · rw [first, second]
    · exact pair.found_iff (named key first last begun ended) live lower

/-! ## Runs -/

namespace StoreEvent

/-- An event of the store alone: it is no call. -/
def Direct : StoreEvent τ → Prop
  | .call .. => False
  | _ => True

/-- What events of a store change, from an instant on: an answer that can be filed is a write of
its batch. -/
def changes (settings : StoreSettings τ) : (now : τ) → List (StoreEvent τ) → List (Change τ)
  | _, [] => []
  | now, .write batch :: rest => .write batch :: changes settings now rest
  | now, .file deposit :: rest =>
    match deposit.batchAt settings now with
    | .ok batch => .write batch :: changes settings now rest
    | .error _ => changes settings now rest
  | now, .clear :: rest => .clear :: changes settings now rest
  | _, .clock now :: rest => .clock now :: changes settings now rest
  | now, .call .. :: rest => changes settings now rest

/-- Every batch that is written, was written as it is or is that of an answer. -/
theorem keyed_of_mem_changes {settings : StoreSettings τ} {now : τ} {events : List (StoreEvent τ)}
    (keyed : ∀ batch, .write batch ∈ events → batch.Keyed) {batch : Batch τ}
    (member : .write batch ∈ changes settings now events) : batch.Keyed := by
  induction events generalizing now with
  | nil => cases member
  | cons event rest ih =>
    have later {time : τ} : .write batch ∈ changes settings time rest → batch.Keyed :=
      ih fun other inside => keyed other (List.mem_cons_of_mem _ inside)
    cases event with
    | write own =>
      obtain same | inside := List.mem_cons.mp member
      · cases same
        exact keyed batch List.mem_cons_self
      · exact later inside
    | file deposit =>
      rw [changes] at member
      split at member
      · rename_i own made
        obtain same | inside := List.mem_cons.mp member
        · cases same
          exact (Deposit.batchAt_simultaneous made).keyed
        · exact later inside
      · exact later member
    | clear => exact later ((List.mem_cons.mp member).resolve_left (by simp))
    | clock next => exact later ((List.mem_cons.mp member).resolve_left (by simp))
    | call asked delivery arrival => exact later member

end StoreEvent

namespace Client

/-- A run of a store makes the changes of its events. -/
theorem steps_changes (client : Client τ) {world : World τ} (ready : world.store.Open)
    {events : List (StoreEvent τ)} (direct : ∀ event ∈ events, event.Direct) :
    world.run (StoreEvent.changes client.filing world.now events) =
      .ok (client.steps world events).2 := by
  induction events generalizing world with
  | nil => rfl
  | cons event rest ih =>
    obtain ⟨own, others⟩ := List.forall_mem_cons.mp direct
    cases event with
    | write batch =>
      obtain ⟨after, written⟩ := Store.write_ok ready world.now batch
      have next : (World.mk after world.now).store.Open := ready.write written
      have later := ih next others
      simpa [StoreEvent.changes, World.run, World.change, steps, step, written, bind, Except.bind,
        pure, Except.pure] using later
    | file deposit =>
      cases made : deposit.batchAt client.filing world.now with
      | ok batch =>
        obtain ⟨after, done, written⟩ := Store.deposit_made ready made
        have next : (World.mk after world.now).store.Open := ready.write written
        have later := ih next others
        simpa [StoreEvent.changes, made, World.run, World.change, steps, step, written, done, bind,
          Except.bind, pure, Except.pure] using later
      | error cause =>
        have failed := Store.deposit_malformed world.store made
        have later := ih ready others
        simpa [StoreEvent.changes, made, World.run, World.change, steps, step, failed] using later
    | clear =>
      have next : (World.mk world.store.kind.empty world.now).store.Open := Keeping.open_empty _
      have later := ih next others
      simpa [StoreEvent.changes, World.run, World.change, steps, step, Store.clear_ok ready, bind,
        Except.bind, pure, Except.pure] using later
    | clock next =>
      have opened : (World.mk world.store next).store.Open := ready
      have later := ih opened others
      simpa [StoreEvent.changes, World.run, World.change, steps, step, bind, Except.bind]
        using later
    | call asked delivery arrival => exact own.elim

/-- What a run over an empty store of a kind leaves behind. -/
private theorem steps_hold (client : Client τ) (kind : Keeping) (start : τ)
    {events : List (StoreEvent τ)} (direct : ∀ event ∈ events, event.Direct) :
    (client.steps ⟨kind.empty, start⟩ events).2.store.Holds kind
      (batchesSince [] start (StoreEvent.changes client.filing start events)) := by
  have empty : (World.mk kind.empty start).store.Holds kind [] := Store.holds_empty kind
  obtain ⟨last, ran, holds⟩ :=
    World.run_holds empty (StoreEvent.changes client.filing start events)
  cases ran.symm.trans (client.steps_changes empty.ready direct)
  exact holds

/-- After the same writes, filed answers, clears and clock moves a search of a store in memory and
one of a store in tables find the same at an instant, the names of the records included, exactly
if every key that is shown was written under the same names first and last since everything was
dropped. -/
theorem findsAlike_iff_namedAlike (client : Client τ) (place : StorePlace) (start : τ)
    {events : List (StoreEvent τ)} (direct : ∀ event ∈ events, event.Direct)
    (keyed : ∀ batch, .write batch ∈ events → batch.Keyed)
    (kept : ∀ batch, .write batch ∈ StoreEvent.changes client.filing start events → batch.Kept)
    (now : τ) :
    (client.steps ⟨.memory .empty, start⟩ events).2.store.FindsAlike
        ((client.at place).steps ⟨.tables (some .empty), start⟩ events).2.store now ↔
      NamedAlike (batchesSince [] start (StoreEvent.changes client.filing start events)) now := by
  refine findsAlike_iff (client.steps_hold .memory start direct)
    ((client.at place).steps_hold .tables start direct) (fun entry member => ?_) now
  obtain before | written := mem_batchesSince member
  · cases before
  · exact ⟨StoreEvent.keyed_of_mem_changes keyed written, kept entry.2 written⟩

end Client

namespace Colliding

/-- Peru under names of its own. -/
def written (typeName identifier : String) : Batch Int :=
  ⟨[(entityKey typeName identifier, ⟨entityKey typeName identifier, typeName, identifier,
    [("name", .string "Peru")], false, some 10⟩)], []⟩

/-- Peru is written twice under the same names, the second time when the first record has
expired. -/
def rewritten : List (StoreEvent Int) :=
  [.write (written "country" "1"), .clock 10, .write (written "country" "1"), .clock 5]

def document : Document :=
  ⟨[.operation ⟨.query, none, [], [], [.relation ⟨none, "country", [⟨"id", .int "1"⟩], []⟩
    [.leaf ⟨none, "id", [], []⟩, .leaf ⟨none, "name", [], []⟩]]⟩]⟩

/-- A country that is filed under a type of its own. -/
def deposit (typeName : String) (identifier : Json) (name : String) : Deposit Int :=
  ⟨(document.compile none).prototype,
    .object [("country", .object [("id", identifier), ("name", .string name)])],
    [("country", .string typeName)], [], false, none, none⟩

/-- Two countries whose types and identifiers make the same key. -/
def events : List (StoreEvent Int) :=
  [.file (deposit "a--b" (.int 1) "Peru"), .file (deposit "a" (.string "b--1") "Lima")]

end Colliding

open Colliding in
/-- Peru is found in both stores. -/
theorem Client.findsAlike_rewritten :
    (Client.standard.steps ⟨.memory .empty, 0⟩ rewritten).2.store.FindsAlike
      ((Client.standard.at (.file "cache.db")).steps ⟨.tables (some .empty), 0⟩ rewritten).2.store
      5 := by
  refine (Client.standard.findsAlike_iff_namedAlike (.file "cache.db") 0 ?_ ?_ ?_ 5).mpr ?_
  · simp [rewritten, StoreEvent.Direct]
  · simp [rewritten, written, Batch.Keyed]
  · simp [rewritten, written, StoreEvent.changes, Batch.Kept, Keeping.keeps, Instant.kept]
  · intro key first last begun ended _
    have writes : first.record = last.record := by
      by_cases same : entityKey "country" "1" = key
      · simp [rewritten, written, StoreEvent.changes, batchesSince, keyWrites, Batch.writesOf,
          same] at begun ended
        rw [← begun, ← ended]
      · simp [rewritten, written, StoreEvent.changes, batchesSince, keyWrites, Batch.writesOf,
          same] at begun
    exact .inl ⟨by rw [writes], by rw [writes]⟩

open Colliding in
/-- Lima is found by its type in memory only: the table still has the names of Peru. -/
theorem Client.not_findsAlike_colliding :
    (∀ event ∈ events, event.Direct) ∧ (∀ batch, .write batch ∈ events → batch.Keyed) ∧
      ¬(Client.standard.steps ⟨.memory .empty, 0⟩ events).2.store.FindsAlike
        ((Client.standard.at (.file "cache.db")).steps ⟨.tables (some .empty), 0⟩ events).2.store
        0 := by
  refine ⟨by simp [events, StoreEvent.Direct], by simp [events], fun alike => ?_⟩
  obtain ⟨left, right, memory, tables, same⟩ := alike "a" (some "b--1")
  have found : (Client.standard.steps ⟨.memory .empty, 0⟩ events).2.store.find 0 "a"
      (some "b--1") = .ok [⟨"a--b--1", "a", "b--1",
        [("id", .string "b--1"), ("name", .string "Lima")], false, some 600⟩] :=
    except_ok_of_toOption (by decide +kernel)
  have missed : ((Client.standard.at (.file "cache.db")).steps ⟨.tables (some .empty), 0⟩
      events).2.store.find 0 "a" (some "b--1") = .ok [] :=
    except_ok_of_toOption (by decide +kernel)
  cases memory.symm.trans found
  cases tables.symm.trans missed
  simpa using same.length_eq

end GraphCache
