import GraphCache.Proofs.CompleteEntries

/-! What a lookup tells of the answers that were filed. A root that is null leaves no entry behind,
so the entry of an earlier answer stays: a lookup goes by the last value under its key that is
not null. As long as nothing expires it shows one record for every object of that value that
can be addressed, in their order, each with all that any answer said of it last. This is what
the last answer said exactly if that was not null, or there was nothing to show before. -/
namespace GraphCache

/-! ## Answers -/

/-- An answer as it was filed. -/
structure Answered (τ : Type) where
  time : τ
  filing : Filing τ
  prototype : Prototype
  fields : OrderedMap String Json

/-- What an answer gives for a root, null included. -/
structure Given (τ : Type) where
  filing : Filing τ
  fieldKey : String
  node : Node
  value : Json

section Plain
variable {τ : Type}

namespace Given

/-- Whether a store of a kind looks the root up under a text. -/
def isUnder (kind : Keeping) (key : String) (given : Given τ) : Bool :=
  match given.node.queryKey given.filing.custom with
  | .ok label => decide (kind.filedAs label = .text key)
  | .error _ => false

/-- The objects of the value that can be addressed, in its order, each with its key. -/
def identified (given : Given τ) : List (String × Occurrence) :=
  (objectsOf given.value).filterMap fun object =>
    (given.filing.keyOf? ⟨given.fieldKey, given.node, object⟩).map fun key =>
      (key, ⟨given.fieldKey, given.node, object⟩)

end Given

/-- What an answer gives for the roots that it carries. -/
def Answered.given (answered : Answered τ) : List (Given τ) :=
  answered.prototype.filterMap fun root =>
    (OrderedMap.get? answered.fields root.1).map fun value =>
      ⟨answered.filing, root.1, root.2, value⟩

/-- What was given last for a root that is looked up under a text. -/
def lastUnder? (kind : Keeping) (key : String) (given : List (Given τ)) : Option (Given τ) :=
  given.reverse.find? (Given.isUnder kind key)

/-- What the answers gave last under a text, be it null. -/
def lastAnswer? (kind : Keeping) (answers : List (Answered τ)) (key : String) : Option (Given τ) :=
  lastUnder? kind key (answers.flatMap Answered.given)

/-- What the answers gave last under a text, nulls left out. -/
def lastValue? (kind : Keeping) (answers : List (Answered τ)) (key : String) : Option (Given τ) :=
  lastUnder? kind key ((answers.flatMap Answered.given).filter fun given => !given.value.isNull)

/-- The value of a field in the last object of all answers that has a key, carries the field and was
asked for it. -/
def latestField? (answers : List (Answered τ)) (key field : String) : Option Json :=
  answers.reverse.findSome? fun answered =>
    answered.filing.lastCarried? (answered.prototype.occurrences answered.fields) key field

/-- A record that tells an object: it has its key and every field that it carries, each with the
value that was answered last. -/
structure Record.Tells (record : Record τ) (answers : List (Answered τ))
    (object : String × Occurrence) : Prop where
  key : record.key = object.1
  carries : ∀ field, (object.2.carried? field).isSome →
    (OrderedMap.get? record.data field).isSome
  latest : ∀ field, OrderedMap.get? record.data field = latestField? answers object.1 field

/-- The objects of what was given that can be addressed. Nothing has none. -/
def identifiedIn (given : Option (Given τ)) : List (String × Occurrence) :=
  given.elim [] Given.identified

/-- Records that tell, one by one, the objects of what was given that can be addressed. -/
def Shown (answers : List (Answered τ)) (given : Option (Given τ)) (records : List (Record τ)) :
    Prop :=
  List.Forall₂ (fun object record => record.Tells answers object) (identifiedIn given) records

/-! ## Roots and entries -/

/-- An answer that was filed in a batch at its time. -/
structure Answered.FiledIn (answered : Answered τ) (batch : τ × Batch τ) : Prop where
  time : batch.1 = answered.time
  holds : answered.filing.Holds (answered.prototype.occurrences answered.fields) batch.2.entities
  indexed : List.Forall₂ answered.filing.Indexes (answered.prototype.carriedRoots answered.fields)
    batch.2.queries

/-- An entry that stands for what was given. -/
def Given.Entered (given : Given τ) (entry : IndexEntry τ) : Prop :=
  given.filing.Indexes (given.fieldKey, given.node, given.value) entry

/-- The roots that are given a value have entries. -/
theorem Answered.given_carried (answered : Answered τ) :
    (answered.given.filter fun given => !given.value.isNull) =
      (answered.prototype.carriedRoots answered.fields).map fun root =>
        ⟨answered.filing, root.1, root.2.1, root.2.2⟩ := by
  rw [given, Prototype.carriedRoots, List.filter_filterMap, List.map_filterMap]
  refine List.filterMap_congr fun root _ => ?_
  cases OrderedMap.get? answered.fields root.1 with
  | none => rfl
  | some value => cases value <;> rfl

/-- So all values that were given, nulls left out, have all the entries, one by one. -/
theorem entered {answers : List (Answered τ)} {batches : List (τ × Batch τ)}
    (filed : List.Forall₂ Answered.FiledIn answers batches) :
    List.Forall₂ Given.Entered
      ((answers.flatMap Answered.given).filter fun given => !given.value.isNull)
      (batches.flatMap fun batch => batch.2.queries) := by
  induction filed with
  | nil => exact .nil
  | cons own others ih =>
    rw [List.flatMap_cons, List.flatMap_cons, List.filter_append, Answered.given_carried]
    refine List.rel_append (List.forall₂_map_left_iff.mpr ?_) ih
    exact own.indexed

theorem Given.Entered.isUnder {given : Given τ} {entry : IndexEntry τ}
    (entered : given.Entered entry) (kind : Keeping) (key : String) :
    given.isUnder kind key = decide (kind.filedAs entry.key = .text key) := by
  rw [Given.isUnder, entered.key]

theorem Given.Entered.entityKeys {given : Given τ} {entry : IndexEntry τ}
    (entered : given.Entered entry) : entry.entityKeys = given.identified.map Prod.fst := by
  rw [Filing.Indexes.entityKeys entered, Filing.keysOf, identified, List.map_filterMap]
  refine List.filterMap_congr fun object _ => ?_
  cases given.filing.keyOf? ⟨given.fieldKey, given.node, object⟩ <;> rfl

/-- Where members are related, so are the first ones that are sought. -/
theorem find?_related {α β : Type} {related : α → β → Prop} {left : List α} {right : List β}
    (all : List.Forall₂ related left right) {one : α → Bool} {two : β → Bool}
    (same : ∀ first second, related first second → one first = two second) :
    Option.Rel related (left.find? one) (right.find? two) := by
  induction all with
  | nil => exact .none
  | cons own others ih =>
    rw [List.find?_cons, List.find?_cons, same _ _ own]
    split
    · exact .some own
    · exact ih

private theorem forall₂_filterMap {α β : Type} {related : α → β → Prop} {find? : α → Option β}
    {items : List α}
    (all : ∀ item ∈ items, ∃ result, find? item = some result ∧ related item result) :
    List.Forall₂ related items (items.filterMap find?) := by
  induction items with
  | nil => exact .nil
  | cons item rest ih =>
    obtain ⟨⟨result, found, own⟩, others⟩ := List.forall_mem_cons.mp all
    rw [List.filterMap_cons, found]
    exact .cons own (ih others)

/-- The entry that was written last under a text stands for the value that was given last. -/
theorem lastEntry?_entered {answers : List (Answered τ)} {batches : List (τ × Batch τ)}
    (filed : List.Forall₂ Answered.FiledIn answers batches) (kind : Keeping) (key : String) :
    Option.Rel Given.Entered (lastValue? kind answers key) (kind.lastEntry? batches key) :=
  find?_related (List.forall₂_reverse_iff.mpr (entered filed)) fun _ _ stands =>
    stands.isUnder kind key

/-! ## Objects and records -/

/-- An answer writes one record under a key, or none. -/
private theorem keyWrites_cons {answered : Answered τ} {batch : τ × Batch τ}
    (own : answered.FiledIn batch) (rest : List (τ × Batch τ)) (key : String) :
    keyWrites (batch :: rest) key =
      ((OrderedMap.get? batch.2.entities key).toList.map fun record => ⟨batch.1, record⟩) ++
        keyWrites rest key := by
  rw [keyWrites, List.flatMap_cons, Batch.writesOf_eq own.holds.unique]
  rfl

/-- A write of a key is that of an answer. -/
private theorem answered_of_write {answers : List (Answered τ)} {batches : List (τ × Batch τ)}
    (filed : List.Forall₂ Answered.FiledIn answers batches) {key : String} {write : KeyWrite τ}
    (member : write ∈ keyWrites batches key) :
    write.record.key = key ∧ (OrderedMap.keys write.record.data).Nodup ∧
      ∃ answered ∈ answers, write.time = answered.time ∧
        write.record.expiresAt = answered.filing.expiresAt := by
  induction filed with
  | nil => cases member
  | cons own others ih =>
    rw [keyWrites_cons own, List.mem_append] at member
    obtain here | later := member
    · obtain ⟨record, held, rfl⟩ := List.mem_map.mp here
      have inside := OrderedMap.mem_of_get?_eq_some (Option.mem_toList.mp held)
      exact ⟨own.holds.keyed _ inside, own.holds.fields _ inside, _, List.mem_cons_self, own.time,
        own.holds.expires _ inside⟩
    · obtain ⟨keyed, unique, answered, inside, same⟩ := ih later
      exact ⟨keyed, unique, answered, List.mem_cons_of_mem _ inside, same⟩

/-- The latest write that carries a field has the value that was answered last. -/
private theorem findSome?_writes {answers : List (Answered τ)} {batches : List (τ × Batch τ)}
    (filed : List.Forall₂ Answered.FiledIn answers batches) (key field : String) :
    ((keyWrites batches key).reverse.findSome? fun write =>
      OrderedMap.get? write.record.data field) = latestField? answers key field := by
  induction filed with
  | nil => rfl
  | @cons answered batch _ _ own others ih =>
    have here : ((OrderedMap.get? batch.2.entities key).toList.map fun record =>
          KeyWrite.mk batch.1 record).reverse.findSome? (fun write =>
            OrderedMap.get? write.record.data field) =
        answered.filing.lastCarried? (answered.prototype.occurrences answered.fields) key
          field := by
      rw [← own.holds.carries]
      cases OrderedMap.get? batch.2.entities key <;> simp
    rw [keyWrites_cons own, List.reverse_append, List.findSome?_append, ih, here, latestField?,
      latestField?, List.reverse_cons, List.findSome?_append]
    simp

/-- An object that is given is met in its answer. -/
private theorem met_of_identified {answered : Answered τ} {given : Given τ}
    (carried : given ∈ answered.given.filter fun given => !given.value.isNull)
    {object : String × Occurrence} (identified : object ∈ given.identified) :
    given.filing = answered.filing ∧
      object.2 ∈ answered.prototype.occurrences answered.fields ∧
      answered.filing.keyOf? object.2 = some object.1 := by
  rw [answered.given_carried] at carried
  obtain ⟨root, inside, rfl⟩ := List.mem_map.mp carried
  obtain ⟨fields, member, found⟩ := List.mem_filterMap.mp identified
  obtain ⟨key, keyed, rfl⟩ := Option.map_eq_some_iff.mp found
  refine ⟨rfl, List.mem_flatMap.mpr ⟨root, inside, ?_⟩, keyed⟩
  refine List.mem_flatMap.mpr ⟨fields, member, ?_⟩
  exact List.mem_append_right _ (List.mem_singleton_self _)

/-! ## The last answer and the last value -/

/-- The last answer is the last value unless it is null. -/
private theorem lastValue?_eq {kind : Keeping} {answers : List (Answered τ)} {key : String}
    (carried : ∀ given, lastAnswer? kind answers key = some given → given.value ≠ .null) :
    lastValue? kind answers key = lastAnswer? kind answers key := by
  rw [lastAnswer?, lastUnder?] at carried
  rw [lastValue?, lastAnswer?, lastUnder?, lastUnder?, ← List.filter_reverse, List.find?_filter]
  generalize (answers.flatMap Answered.given).reverse = given at carried ⊢
  induction given with
  | nil => rfl
  | cons first rest ih =>
    rw [List.find?_cons] at carried
    rw [List.find?_cons, List.find?_cons]
    cases under : first.isUnder kind key with
    | false =>
      rw [under] at carried
      simpa using ih carried
    | true =>
      rw [under] at carried
      have value : first.value.isNull = false := by
        have present := carried first rfl
        cases shape : first.value <;> first | rfl | exact absurd shape present
      simp [value]

/-- What tells the last value tells the last answer, too, unless that is null and there is something
to tell. -/
private theorem shown_lastAnswer_iff {kind : Keeping} {answers : List (Answered τ)} {key : String}
    {records : List (Record τ)} (shown : Shown answers (lastValue? kind answers key) records) :
    Shown answers (lastAnswer? kind answers key) records ↔
      ∀ given, lastAnswer? kind answers key = some given → given.value = .null →
        identifiedIn (lastValue? kind answers key) = [] := by
  by_cases null : ∃ given, lastAnswer? kind answers key = some given ∧ given.value = .null
  · obtain ⟨given, answered, null⟩ := null
    have empty : identifiedIn (some given) = [] := by
      simp [identifiedIn, Given.identified, null, objectsOf]
    constructor
    · intro told _ _ _
      rw [Shown, answered, empty, List.forall₂_nil_left_iff] at told
      rw [Shown, told, List.forall₂_nil_right_iff] at shown
      exact shown
    · intro cleared
      rw [Shown, cleared given answered null, List.forall₂_nil_left_iff] at shown
      rw [Shown, answered, empty, shown]
      exact .nil
  · have same := lastValue?_eq fun given answered absent => null ⟨given, answered, absent⟩
    rw [← same]
    refine iff_of_true shown fun given answered absent => ?_
    exact absurd ⟨given, same ▸ answered, absent⟩ null

end Plain

variable {τ : Type} [Instant τ]

/-- Nothing that was filed expires until something else is filed, or before an instant. -/
structure Lasting (kind : Keeping) (answers : List (Answered τ)) (now : τ) : Prop where
  between : answers.Pairwise fun earlier later =>
    hasExpired (kind.keeps earlier.filing.expiresAt) later.time = false
  final : ∀ answered ∈ answers, hasExpired (kind.keeps answered.filing.expiresAt) now = false

section Filed

variable {kind : Keeping} {answers : List (Answered τ)} {batches : List (τ × Batch τ)} {now : τ}
  (filed : List.Forall₂ Answered.FiledIn answers batches)
include filed

/-- Every write of a key finds the ones before it live. -/
private theorem pairwise_lives (between : answers.Pairwise fun earlier later =>
    hasExpired (kind.keeps earlier.filing.expiresAt) later.time = false) (key : String) :
    (keyWrites batches key).Pairwise fun earlier later => kind.Lives earlier later.time := by
  induction filed with
  | nil => exact .nil
  | @cons answered batch _ _ own others ih =>
    obtain ⟨first, rest⟩ := List.pairwise_cons.mp between
    rw [keyWrites_cons own, List.pairwise_append]
    refine ⟨by cases OrderedMap.get? batch.2.entities key <;> simp, ih rest, ?_⟩
    intro earlier here later there
    obtain ⟨record, held, rfl⟩ := List.mem_map.mp here
    have inside := OrderedMap.mem_of_get?_eq_some (Option.mem_toList.mp held)
    obtain ⟨_, _, second, member, time, _⟩ := answered_of_write others there
    rw [Keeping.Lives, own.holds.expires _ inside, time]
    exact first second member

/-- So what is told of a key goes back to its first write. -/
private theorem told_from_first (lasting : Lasting kind answers now) {key : String}
    {record : Record τ} (reflects : kind.Reflects key (keyWrites batches key) record)
    (field : String) : OrderedMap.get? record.data field = latestField? answers key field := by
  have live : kind.LiveFrom (keyWrites batches key) 0 := by
    intro i earlier later _ here next
    obtain ⟨_, rfl⟩ := List.getElem?_eq_some_iff.mp here
    obtain ⟨_, rfl⟩ := List.getElem?_eq_some_iff.mp next
    exact List.pairwise_iff_getElem.mp (pairwise_lives filed lasting.between key) i (i + 1) _ _
      (Nat.lt_succ_self i)
  obtain ⟨first, ⟨⟨inside, _⟩, lowest⟩, fields⟩ := reflects.fields
  have begins : first = 0 := Nat.le_zero.mp (lowest ⟨by omega, live⟩)
  rw [fields, begins, List.drop_zero, findSome?_writes filed]

/-- An object that is given is told by the record that is shown under its key. -/
private theorem tells_of_given (lasting : Lasting kind answers now) {store : Store τ}
    {shown? : String → Option (Record τ)} (shows : store.Shows kind batches now shown?)
    {answered : Answered τ} (member : answered ∈ answers) {given : Given τ}
    (carried : given ∈ answered.given.filter fun given => !given.value.isNull)
    {object : String × Occurrence} (identified : object ∈ given.identified) :
    ∃ record, shown? object.1 = some record ∧ record.Tells answers object := by
  obtain ⟨_, met, keyed⟩ := met_of_identified carried identified
  have flipped : List.Forall₂ (fun batch answered => Answered.FiledIn answered batch) _ _ :=
    List.Forall₂.flip filed
  obtain ⟨batch, inside, own⟩ := exists_related flipped member
  obtain ⟨written, held⟩ := Option.isSome_iff_exists.mp (own.holds.present _ met _ keyed)
  have wrote : keyWrites batches object.1 ≠ [] := by
    refine List.ne_nil_of_mem (a := ⟨batch.1, written⟩) (List.mem_flatMap.mpr ⟨batch, inside, ?_⟩)
    rw [Batch.writesOf_eq own.holds.unique, held]
    exact List.mem_singleton_self _
  have ended := List.getLast?_eq_some_getLast wrote
  obtain ⟨named, _, last, there, _, expires⟩ :=
    answered_of_write filed (List.getLast_mem wrote)
  obtain ⟨record, shown⟩ := Option.isSome_iff_exists.mp ((shows.exposed object.1).mpr
    ⟨_, ended, by rw [Keeping.Lives, expires]; exact lasting.final last there⟩)
  have reflects := shows.reflects _ _ shown
  have latest := told_from_first filed lasting reflects
  refine ⟨record, shown, ?_, fun field has => ?_, latest⟩
  · have names := reflects.names
    cases kind with
    | memory =>
      obtain ⟨last', ended', key, _⟩ := names
      cases ended.symm.trans ended'
      exact key.trans named
    | tables => exact names.1
  · rw [latest, latestField?, List.findSome?_isSome_iff]
    refine ⟨answered, List.mem_reverse.mpr member, ?_⟩
    refine answered.filing.lastCarried?_isSome met ?_
    rw [Filing.left?, if_pos keyed]
    exact has

/-- A lookup shows the objects of the last value. -/
private theorem lookup_shown (lasting : Lasting kind answers now) {store : Store τ}
    {shown? : String → Option (Record τ)} (shows : store.Shows kind batches now shown?)
    (key : String) : ∃ records, store.lookup now key = .ok records ∧
      Shown answers (lastValue? kind answers key) records := by
  refine ⟨_, shows.lookup key, ?_⟩
  have related := lastEntry?_entered filed kind key
  generalize kind.lastEntry? batches key = entry at related ⊢
  cases found : lastValue? kind answers key with
  | none =>
    rw [found] at related
    cases related
    exact .nil
  | some given =>
    have carried := List.mem_reverse.mp (List.mem_of_find?_eq_some found)
    rw [List.filter_flatMap, List.mem_flatMap] at carried
    obtain ⟨answered, member, carried⟩ := carried
    rw [found] at related
    cases related with
    | @some _ entry stands =>
      have filing : given.filing = answered.filing := by
        rw [answered.given_carried] at carried
        obtain ⟨root, _, rfl⟩ := List.mem_map.mp carried
        rfl
      have live : hasExpired (kind.keeps entry.expiresAt) now = false := by
        rw [stands.expires, filing]
        exact lasting.final answered member
      simp only [live, Bool.false_eq_true, ↓reduceIte, stands.entityKeys, List.filterMap_map]
      exact forall₂_filterMap fun object inside =>
        tells_of_given filed lasting shows member carried inside

end Filed

/-! ## Runs -/

/-- What is filed of an answer at an instant, if it can be filed. -/
def Deposit.answered? (deposit : Deposit τ) (settings : StoreSettings τ) (now : τ) :
    Option (Answered τ) :=
  match deposit.batchAt settings now with
  | .ok _ => some ⟨now, deposit.filing settings now, deposit.prototype,
      (dataFields deposit.data).toOption.getD []⟩
  | .error _ => none

/-- The answers that have been filed since everything was dropped last, after some that had been
filed before. -/
def answersSince (settings : StoreSettings τ) : (earlier : List (Answered τ)) → (now : τ) →
    List (FilingEvent τ) → List (Answered τ)
  | earlier, _, [] => earlier
  | earlier, now, .file deposit :: rest =>
    answersSince settings (earlier ++ (deposit.answered? settings now).toList) now rest
  | _, now, .clear :: rest => answersSince settings [] now rest
  | earlier, _, .clock now :: rest => answersSince settings earlier now rest

private theorem Deposit.filedIn {deposit : Deposit τ} {settings : StoreSettings τ} {now : τ}
    {batch : Batch τ} (made : deposit.batchAt settings now = .ok batch) :
    ∃ answered, deposit.answered? settings now = some answered ∧ answered.FiledIn (now, batch) := by
  refine ⟨_, by rw [answered?, made], ?_⟩
  rw [batchAt] at made
  by_cases empty : deposit.prototype = []
  · rw [empty] at made ⊢
    cases made
    exact ⟨rfl, Filing.holds_nil _, .nil⟩
  · have read : ∃ fields, dataFields deposit.data = .ok fields := by
      have nonempty : deposit.prototype.isEmpty = false := by simpa using empty
      simp only [Filing.batchOf, nonempty, Bool.false_eq_true, ↓reduceIte, bind,
        except_bind_ok] at made
      obtain ⟨fields, read, _⟩ := made
      exact ⟨fields, read⟩
    obtain ⟨fields, read⟩ := read
    obtain ⟨holds, indexed⟩ := Filing.batchOf_holds read made
    rw [read]
    exact ⟨rfl, holds, indexed⟩

/-- The answers of a run are filed in the batches that it writes, one by one. -/
private theorem filed_since (settings : StoreSettings τ) {answers : List (Answered τ)}
    {batches : List (τ × Batch τ)} (filed : List.Forall₂ Answered.FiledIn answers batches) (now : τ)
    (events : List (FilingEvent τ)) :
    List.Forall₂ Answered.FiledIn (answersSince settings answers now events)
      (batchesSince batches now (changesOf settings now events)) := by
  induction events generalizing answers batches now with
  | nil => exact filed
  | cons event rest ih =>
    cases event with
    | file deposit =>
      rw [answersSince, changesOf]
      cases made : deposit.batchAt settings now with
      | ok batch =>
        obtain ⟨answered, same, own⟩ := Deposit.filedIn made
        rw [same]
        exact ih (List.rel_append filed (.cons own .nil)) now
      | error cause =>
        rw [Deposit.answered?, made, Option.toList_none, List.append_nil]
        exact ih filed now
    | clear => exact ih .nil now
    | clock next => exact ih filed next

/-- A lookup that shows, at an instant, what was given for a root. -/
def Store.Retells (store : Store τ) (now : τ) (key : String) (answers : List (Answered τ))
    (given : Option (Given τ)) : Prop :=
  ∃ records, store.lookup now key = .ok records ∧ Shown answers given records

/-- Whatever answers are filed one after another, in a store of either kind: as long as nothing
expires, a lookup retells the last value under its key that was not null. It retells the last
answer, be it null, exactly if that was not null or the last value has no objects that can be
addressed. -/
theorem World.lookup_retells_last_value (kind : Keeping) (settings : StoreSettings τ) (start : τ)
    (events : List (FilingEvent τ)) {answers : List (Answered τ)}
    (given : answersSince settings [] start events = answers) {now : τ}
    (lasting : Lasting kind answers now) (key : String) :
    ∃ store, ((World.mk kind.empty start).afterAll settings events).store = store ∧
      store.Retells now key answers (lastValue? kind answers key) ∧
      (store.Retells now key answers (lastAnswer? kind answers key) ↔
        ∀ given, lastAnswer? kind answers key = some given → given.value = .null →
          identifiedIn (lastValue? kind answers key) = []) := by
  subst given
  have filed := filed_since settings .nil start events
  have holds := World.afterAll_holds kind settings start events
  have mapped : ∀ entry ∈ batchesSince [] start (changesOf settings start events),
      entry.2.Mapped := by
    intro batch member
    obtain ⟨answered, _, own⟩ := exists_related filed member
    exact own.holds.fields
  obtain ⟨records, found, shown⟩ := lookup_shown filed lasting (holds.shows mapped now) key
  refine ⟨_, rfl, ⟨records, found, shown⟩, ?_⟩
  rw [← shown_lastAnswer_iff shown, Store.Retells, found]
  exact ⟨fun ⟨_, same, told⟩ => Except.ok.inj same ▸ told, fun told => ⟨records, rfl, told⟩⟩

namespace Vanished

def document : Document :=
  ⟨[.operation ⟨.query, none, [], [], [.relation ⟨none, "country", [⟨"id", .int "1"⟩], []⟩
    [.leaf ⟨none, "id", [], []⟩, .leaf ⟨none, "name", [], []⟩]]⟩]⟩

/-- An answer to the question for a country. -/
def deposit (country : Json) : Deposit Int :=
  ⟨(document.compile none).prototype, .object [("country", country)], [], [], false, none, none⟩

def peru (name : String) : Json := .object [("id", .int 1), ("name", .string name)]

/-- The country is renamed. -/
def renamed : List (FilingEvent Int) :=
  [.file (deposit (peru "Peru")), .clock 10, .file (deposit (peru "Perú"))]

/-- The country is gone. -/
def gone : List (FilingEvent Int) :=
  [.file (deposit (peru "Peru")), .clock 10, .file (deposit .null)]

end Vanished

open Vanished in
/-- The new name is found, and it is what was answered last. -/
theorem World.lookup_retells_renamed :
    ∃ store record, ((World.mk Keeping.tables.empty 0).afterAll ⟨600, none⟩ renamed).store = store ∧
      store.lookup 20 "country--1" = .ok [record] ∧
      OrderedMap.get? record.data "name" = some (.string "Perú") ∧
      store.Retells 20 "country--1" (answersSince ⟨600, none⟩ [] 0 renamed)
        (lastAnswer? .tables (answersSince ⟨600, none⟩ [] 0 renamed) "country--1") := by
  have lasting : Lasting .tables (answersSince ⟨600, none⟩ [] 0 renamed) 20 :=
    ⟨by decide +kernel, by decide +kernel⟩
  obtain ⟨store, same, _, last⟩ := World.lookup_retells_last_value .tables ⟨600, none⟩ 0 renamed rfl
    lasting "country--1"
  have present : (lastAnswer? .tables (answersSince ⟨600, none⟩ [] 0 renamed) "country--1").map
      (fun given => given.value.isNull) = some false := by decide +kernel
  have found : ((World.mk Keeping.tables.empty 0).afterAll ⟨600, none⟩ renamed).store.lookup 20
      "country--1" = .ok [⟨"country--1", "country", "1",
        [("id", .int 1), ("name", .string "Perú")], false, some 610⟩] :=
    except_ok_of_toOption (by decide +kernel)
  refine ⟨store, _, same, same ▸ found, rfl, last.mpr fun given answered null => ?_⟩
  rw [answered, Option.map_some, null] at present
  cases present

open Vanished in
/-- The last answer is that there is no such country, and yet it is found. -/
theorem World.lookup_not_retells_gone :
    Lasting .memory (answersSince ⟨600, none⟩ [] 0 gone) 20 ∧
      (lastAnswer? .memory (answersSince ⟨600, none⟩ [] 0 gone) "country--1").map Given.value =
        some .null ∧
      ¬((World.mk Keeping.memory.empty 0).afterAll ⟨600, none⟩ gone).store.Retells 20 "country--1"
        (answersSince ⟨600, none⟩ [] 0 gone)
        (lastAnswer? .memory (answersSince ⟨600, none⟩ [] 0 gone) "country--1") := by
  have null : (lastAnswer? .memory (answersSince ⟨600, none⟩ [] 0 gone) "country--1").map
      Given.value = some .null := by decide +kernel
  refine ⟨⟨by decide +kernel, by decide +kernel⟩, null, ?_⟩
  rintro ⟨records, found, shown⟩
  have kept : ((World.mk Keeping.memory.empty 0).afterAll ⟨600, none⟩ gone).store.lookup 20
      "country--1" = .ok [⟨"country--1", "country", "1",
        [("id", .int 1), ("name", .string "Peru")], false, some 600⟩] :=
    except_ok_of_toOption (by decide +kernel)
  cases found.symm.trans kept
  obtain ⟨given, answered, value⟩ := Option.map_eq_some_iff.mp null
  rw [Shown, answered, identifiedIn, Option.elim_some, Given.identified, value] at shown
  cases shown

end GraphCache
