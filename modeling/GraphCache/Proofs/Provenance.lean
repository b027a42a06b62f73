import GraphCache.Proofs.FaithfulAnswer
import GraphCache.Proofs.Filling

/-! Which field a cached value was answered for. Records keep the values of an answer under its
response keys, so a value that fills a leaf of a later answer was answered under the same key.
It belongs to the same field if the two documents use the key for one field only; renamed
fields, and fields with different arguments, are not told apart below the roots. -/
namespace GraphCache

/-! ## Fields that a document selects -/

/-- One field: the same name, and the same arguments in any order. -/
structure FieldHead.Same (head other : FieldHead) : Prop where
  name : head.name = other.name
  arguments : head.arguments.Perm other.arguments

namespace Document

/-- A field that is selected under response keys, also through fragments. -/
inductive SelectsIn (document : Document) : List Selection → List String → FieldHead → Prop where
  | leaf {selections : List Selection} {head : FieldHead} (member : .leaf head ∈ selections) :
      SelectsIn document selections [head.responseKey] head
  | relation {selections below : List Selection} {head : FieldHead}
      (member : .relation head below ∈ selections) :
      SelectsIn document selections [head.responseKey] head
  | inner {selections below : List Selection} {head inner : FieldHead} {path : List String}
      (member : .relation head below ∈ selections) (inside : SelectsIn document below path inner) :
      SelectsIn document selections (head.responseKey :: path) inner
  | spread {selections : List Selection} {shared : Fragment} {directives : List Directive}
      {path : List String} {inner : FieldHead} (member : .spread shared.name directives ∈ selections)
      (defined : shared ∈ document.fragments)
      (inside : SelectsIn document shared.selections path inner) :
      SelectsIn document selections path inner
  | inline {selections below : List Selection} {condition : Option String}
      {directives : List Directive} {path : List String} {inner : FieldHead}
      (member : .inlineFragment condition directives below ∈ selections)
      (inside : SelectsIn document below path inner) : SelectsIn document selections path inner

/-- A field that is selected under response keys which begin with that of a root. -/
def Selects (document : Document) (path : List String) (head : FieldHead) : Prop :=
  document.SelectsIn document.rootSelections path head

/-- A field that is selected below a root. -/
def Inner (document : Document) (head : FieldHead) : Prop :=
  ∃ path, 2 ≤ path.length ∧ document.Selects path head

/-- Below their roots the documents use every response key for one field. -/
def Consistent (document other : Document) : Prop :=
  ∀ head inner, document.Inner head → other.Inner inner → head.responseKey = inner.responseKey →
    head.Same inner

/-- A field is selected under its own response key. -/
theorem SelectsIn.path_eq {document : Document} {selections : List Selection} {path : List String}
    {head : FieldHead} (selects : document.SelectsIn selections path head) :
    ∃ front, path = front ++ [head.responseKey] := by
  induction selects with
  | leaf => exact ⟨[], rfl⟩
  | relation => exact ⟨[], rfl⟩
  | inner _ _ ih =>
    obtain ⟨front, rfl⟩ := ih
    exact ⟨_ :: front, rfl⟩
  | spread _ _ _ ih => exact ih
  | inline _ _ ih => exact ih

/-- Documents in which no field below a root is renamed or has arguments are consistent. -/
theorem consistent_of_bare {document other : Document}
    (own : ∀ head, document.Inner head → head.aliasName = none ∧ head.arguments = [])
    (others : ∀ head, other.Inner head → head.aliasName = none ∧ head.arguments = []) :
    document.Consistent other := by
  intro head inner below beneath same
  obtain ⟨unnamed, none⟩ := own head below
  obtain ⟨unnamed', none'⟩ := others inner beneath
  simp only [FieldHead.responseKey, unnamed, unnamed', Option.getD_none] at same
  exact ⟨same, by rw [none, none']⟩

/-- Fields at the end of the same keys below a root are the same field. -/
theorem Consistent.same {document other : Document} (consistent : document.Consistent other)
    {path start keys : List String} (inside : path ≠ []) (within : start ≠ []) (named : keys ≠ [])
    {head inner : FieldHead} (selects : document.Selects (path ++ keys) head)
    (again : other.Selects (start ++ keys) inner) : head.Same inner := by
  have long (before : List String) (some : before ≠ []) : 2 ≤ (before ++ keys).length := by
    have one := List.length_pos_iff.mpr some
    have two := List.length_pos_iff.mpr named
    rw [List.length_append]
    omega
  refine consistent head inner ⟨_, long path inside, selects⟩ ⟨_, long start within, again⟩ ?_
  obtain ⟨front, first⟩ := selects.path_eq
  obtain ⟨back, second⟩ := again.path_eq
  have one := congrArg List.getLast? first
  have two := congrArg List.getLast? second
  rw [List.getLast?_append_of_ne_nil _ named, List.getLast?_concat] at one two
  exact Option.some.inj (one.symm.trans two)

end Document

/-- The last relation under a response key is selected, with everything that is selected in it. -/
theorem Document.selectsIn_of_last? {document : Document} {selections : List Selection}
    {key : String} {field : FieldHead × List Selection}
    (last : Selection.last? selections key = some field) {keys : List String} {inner : FieldHead}
    (below : document.SelectsIn field.2 keys inner) :
    document.SelectsIn selections (key :: keys) inner := by
  obtain ⟨rfl, member⟩ := Selection.mem_branches.mp (Selection.mem_of_last? last)
  exact .inner member below

/-- A leaf of a field without spreads is the response key of a leaf. -/
private theorem FieldHead.mem_leafKeys {head : FieldHead} {custom : Option String}
    {selections : List Selection} (plain : Selection.anySpreads selections = false) {key : String}
    (field : isReserved key = false)
    (requested : OrderedMap.get? (head.node custom selections) key = some .requested) :
    key ∈ Selection.leafKeys selections := by
  rw [head.get?_node custom plain field] at requested
  cases last : Selection.last? selections key with
  | some found =>
    rw [last] at requested
    cases requested
  | none =>
    rw [last] at requested
    split at requested
    · assumption
    · cases requested

/-- What is requested of a field is selected below it, where no fragments are spread. -/
private theorem Node.LeafAt.selected (document : Document) {node : Node} {place : List Step}
    {keys : List String} (leaf : node.LeafAt place keys) {custom : Option String} {head : FieldHead}
    {selections : List Selection} (plain : Selection.anySpreads selections = false)
    (own : node = head.node custom selections) :
    ∃ inner, document.SelectsIn selections keys inner := by
  induction leaf generalizing head selections with
  | leaf field requested =>
    have member := FieldHead.mem_leafKeys plain field (own ▸ requested)
    obtain ⟨selection, inside, named⟩ := List.mem_filterMap.mp member
    cases selection <;> cases named
    exact ⟨_, .leaf inside⟩
  | object field relation _ ih =>
    obtain ⟨found, last, same⟩ := (Node.get?_withRelations_relation
      (head.flat_opening custom selections)).mp (own ▸ relation)
    obtain ⟨inner, selects⟩ := ih (Selection.plain_of_last? plain last) same.symm
    exact ⟨inner, Document.selectsIn_of_last? last selects⟩
  | item field relation _ ih =>
    obtain ⟨found, last, same⟩ := (Node.get?_withRelations_relation
      (head.flat_opening custom selections)).mp (own ▸ relation)
    obtain ⟨inner, selects⟩ := ih (Selection.plain_of_last? plain last) same.symm
    exact ⟨inner, Document.selectsIn_of_last? last selects⟩

/-- In a document without fragments every leaf of the roots is a field that is selected. Where
fragments are spread this can fail: a spread of a fragment that is missing is taken for a leaf. -/
theorem Document.selects_of_leafAt {document : Document} {custom : Option String}
    (eligible : (document.compile custom).route = .query) (shared : document.fragments = [])
    (plain : Selection.anySpreads document.rootSelections = false) {root : String}
    {place : List Step} {keys : List String}
    (leaf : (document.expanded custom).LeafAt root place keys) :
    ∃ inner, document.Selects (root :: keys) inner := by
  obtain ⟨node, place, asked, leaf⟩ : ∃ node place,
      OrderedMap.get? (document.expanded custom) root = some node ∧ node.LeafAt place keys := by
    cases leaf with
    | object asked leaf => exact ⟨_, _, asked, leaf⟩
    | item asked leaf => exact ⟨_, _, asked, leaf⟩
  rw [expanded_eq eligible shared, get?_translatedRoots, Option.map_eq_some_iff] at asked
  obtain ⟨field, last, same⟩ := asked
  obtain ⟨inner, selects⟩ := leaf.selected document (Selection.plain_of_last? plain last) same.symm
  exact ⟨inner, Document.selectsIn_of_last? last selects⟩

/-! ## Objects of an answer -/

private theorem reaches_of_mem_objectsOf {value : Json} {object : OrderedMap String Json}
    (member : object ∈ objectsOf value) : Json.Reaches value [] (.object object) := by
  cases value with
  | object fields =>
    obtain rfl := List.mem_singleton.mp member
    exact .here _
  | array items =>
    obtain ⟨item, inside, picked⟩ := List.mem_filterMap.mp member
    cases item <;> cases picked
    exact .item inside (.here _)
  | _ => cases member

mutual

private theorem reaches_below (key : String) (object : OrderedMap String Json) (entry : Entry)
    {occurrence : Occurrence} (met : occurrence ∈ entry.occurrences key object) :
    ∃ path, Json.Reaches (.object object) (key :: path) (.object occurrence.object) := by
  match entry with
  | .requested => cases met
  | .literal value => cases met
  | .relation entries =>
    simp only [Entry.occurrences, List.mem_flatMap, List.mem_append, List.mem_singleton] at met
    obtain ⟨inner, member, met⟩ := met
    have reached := reaches_of_mem_objectsOf member
    cases found : OrderedMap.get? object key with
    | none =>
      rw [found] at member
      cases member
    | some value =>
      rw [found, Option.getD_some] at reached
      obtain below | rfl := met
      · obtain ⟨path, _, inside⟩ := reaches_inside inner entries below
        exact ⟨path, .field found (reached.trans inside)⟩
      · exact ⟨[], .field found reached⟩

private theorem reaches_inside (object : OrderedMap String Json) (entries : List (String × Entry))
    {occurrence : Occurrence} (met : occurrence ∈ Entry.occurrencesIn object entries) :
    ∃ path, path ≠ [] ∧ Json.Reaches (.object object) path (.object occurrence.object) := by
  match entries with
  | [] => cases met
  | (key, entry) :: rest =>
    obtain own | later := List.mem_append.mp met
    · split at own
      · cases own
      · obtain ⟨path, reached⟩ := reaches_below key object entry own
        exact ⟨_, List.cons_ne_nil _ _, reached⟩
    · exact reaches_inside object rest later

end

/-- Every object that is filed is reached in the data. -/
theorem Prototype.reaches_occurrence {prototype : Prototype} {data : OrderedMap String Json}
    {occurrence : Occurrence} (met : occurrence ∈ prototype.occurrences data) :
    ∃ path, path ≠ [] ∧ Json.Reaches (.object data) path (.object occurrence.object) := by
  obtain ⟨⟨root, node, value⟩, carried, met⟩ := List.mem_flatMap.mp met
  obtain ⟨entry, _, picked⟩ := List.mem_filterMap.mp carried
  have found : OrderedMap.get? data root = some value := by
    split at picked <;> cases picked
    assumption
  obtain ⟨object, member, met⟩ := List.mem_flatMap.mp met
  have reached := reaches_of_mem_objectsOf member
  obtain below | own := List.mem_append.mp met
  · obtain ⟨path, _, inside⟩ := reaches_inside object node below
    exact ⟨root :: path, List.cons_ne_nil _ _, .field found (reached.trans inside)⟩
  · rw [List.mem_singleton.mp own]
    exact ⟨[root], List.cons_ne_nil _ _, .field found reached⟩

/-! ## Where a record has its values from -/

section Plain
variable {τ : Type}

/-- An object carries a value under keys of which the first is requested of it. -/
def Occurrence.Carries (occurrence : Occurrence) (keys : List String) (value : Json) : Prop :=
  ∃ field rest inner, keys = field :: rest ∧ occurrence.carried? field = some inner ∧
    inner.Reaches rest value

/-- An answer brings a value: an object that is reached under a path is filed under the key and
carries the value under the keys. -/
def Filing.Brings (filing : Filing τ) (prototype : Prototype) (data : OrderedMap String Json)
    (key : String) (path keys : List String) (value : Json) : Prop :=
  ∃ occurrence ∈ prototype.occurrences data, filing.keyOf? occurrence = some key ∧
    Json.Reaches (.object data) path (.object occurrence.object) ∧ occurrence.Carries keys value

/-- A store had a value already, and the answer brings nothing for the field it stands in. -/
def Filing.Leaves (filing : Filing τ) (prototype : Prototype) (data : OrderedMap String Json)
    (store : Store τ) (key : String) (keys : List String) (value : Json) : Prop :=
  (∃ record, store.record? key = some record ∧ Json.Reaches (.object record.data) keys value) ∧
    ∀ occurrence ∈ prototype.occurrences data, filing.keyOf? occurrence = some key →
      ∀ field ∈ keys.head?, occurrence.carried? field = none

end Plain

variable {τ : Type} [Instant τ]

/-- A field of a record that was put over what was held is the record's own, or the record has
none and it was held. -/
private theorem get?_over_cases {record : Record τ} (unique : (OrderedMap.keys record.data).Nodup)
    {now : τ} {held : Option (Record τ)} {field : String} {value : Json}
    (found : OrderedMap.get? (record.over now (held.map Record.content)).data field = some value) :
    OrderedMap.get? record.data field = some value ∨
      OrderedMap.get? record.data field = none ∧
        ∃ old, held = some old ∧ OrderedMap.get? old.data field = some value := by
  cases held with
  | none => exact .inl found
  | some old =>
    rw [Option.map_some, Record.over] at found
    split at found
    · exact .inl found
    · rw [OrderedMap.get?_overlay_of_nodup unique] at found
      cases own : OrderedMap.get? record.data field with
      | some value => exact .inl (by simpa [own] using found)
      | none =>
        refine .inr ⟨rfl, old, rfl, ?_⟩
        rw [own, Option.none_or] at found
        exact found

/-- A value in a record after the write was brought by the answer, or was left from before. -/
theorem Store.write_origin {store after : Store τ} {filing : Filing τ} {prototype : Prototype}
    {data : OrderedMap String Json} {batch : Batch τ} {now : τ}
    (holds : filing.Holds (prototype.occurrences data) batch.entities)
    (written : store.write now batch = .ok after) {key : String} {record : Record τ}
    (found : after.record? key = some record) {keys : List String} (named : keys ≠ []) {value : Json}
    (reaches : Json.Reaches (.object record.data) keys value) :
    filing.Leaves prototype data store key keys value ∨
      ∃ path, path ≠ [] ∧ filing.Brings prototype data key path keys value := by
  obtain ⟨field, rest, rfl⟩ := List.exists_cons_of_ne_nil named
  obtain ⟨inner, own, below⟩ := Json.reaches_object.mp reaches
  rw [record?_write written, Batch.writesOf_eq holds.unique] at found
  cases filed : OrderedMap.get? batch.entities key with
  | none =>
    rw [filed] at found
    refine .inl ⟨⟨record, found, reaches⟩, fun occurrence met keyed => ?_⟩
    have present := holds.present occurrence met key keyed
    rw [filed] at present
    cases present
  | some written =>
    rw [filed] at found
    obtain rfl := Option.some.inj found
    rw [Keeping.rewritten_data] at own
    have member := OrderedMap.mem_of_get?_eq_some filed
    have carries := holds.carries key field
    rw [filed, Option.bind_some] at carries
    obtain fresh | ⟨none, old, held, kept⟩ := get?_over_cases (holds.fields _ member) own
    · rw [fresh] at carries
      obtain ⟨occurrence, met, left⟩ := List.exists_of_findSome?_eq_some carries.symm
      rw [Filing.left?] at left
      split at left
      · rename_i keyed
        have met := List.mem_reverse.mp met
        obtain ⟨path, inside, reached⟩ := Prototype.reaches_occurrence met
        exact .inr ⟨path, inside, occurrence, met, keyed, reached, field, rest, inner, rfl, left, below⟩
      · cases left
    · refine .inl ⟨⟨old, held, .field kept below⟩, fun occurrence met keyed other same => ?_⟩
      obtain rfl := Option.mem_some_iff.mp same
      rw [none, eq_comm, Filing.lastCarried?, List.findSome?_eq_none_iff] at carries
      have left := carries occurrence (List.mem_reverse.mpr met)
      simpa [Filing.left?, keyed] using left

private theorem Memory.held_of_lookup (state : Memory τ) {now : τ} {label : Label}
    {record : Record τ} (member : record ∈ state.lookup now label) :
    ∃ key, OrderedMap.get? state.entities key = some record := by
  rw [Memory.lookup] at member
  split at member
  · cases member
  split at member
  · obtain ⟨key, _, found⟩ := List.mem_filterMap.mp (List.mem_of_mem_filter member)
    exact ⟨key, found⟩
  · cases member

private theorem Table.held_of_lookup (state : Table τ) {now : τ} {text : String}
    {record : Record τ} (member : record ∈ state.lookup now text) :
    ∃ key, (OrderedMap.get? state.entities key).map (Table.toRecord key) = some record := by
  rw [Table.lookup] at member
  split at member
  · cases member
  split at member
  · cases member
  obtain ⟨key, _, found⟩ := List.mem_filterMap.mp member
  split at found
  · rename_i row held
    split at found
    · cases found
    · exact ⟨key, by rw [held]; exact found⟩
  · cases found

/-- What is recalled is held under some key. -/
theorem Store.record?_of_recall {store : Store τ} {now : τ} {label : Label}
    {records : List (Record τ)} (recalled : store.recall now label = .ok records) :
    ∀ record ∈ records, ∃ key, store.record? key = some record := by
  cases store with
  | memory state =>
    cases label with
    | text key =>
      cases recalled
      exact fun _ member => state.held_of_lookup member
    | displaced mark =>
      simp only [Store.recall, bind, except_bind_ok, pure, Except.pure, Except.ok.injEq] at recalled
      obtain ⟨label, _, rfl⟩ := recalled
      exact fun _ member => state.held_of_lookup member
  | tables state =>
    cases state with
    | none => cases label <;> cases recalled
    | some state =>
      cases label with
      | text key =>
        cases recalled
        exact fun _ member => state.held_of_lookup member
      | displaced mark =>
        rw [Store.recall] at recalled
        split at recalled
        · cases recalled
          exact fun _ member => state.held_of_lookup member
        · cases recalled

omit [Instant τ] in
/-- What a batch holds is what the objects of the data leave behind. -/
theorem Filing.batchOf_entities {filing : Filing τ} {prototype : Prototype} {data : Json}
    {batch : Batch τ} (filed : filing.batchOf prototype data = .ok batch) :
    filing.Holds (prototype.occurrences (objectFields (some data))) batch.entities := by
  obtain ⟨fields, rfl | read, _, holds, _⟩ := exists_batchOf_filed filed
  · exact holds
  · rwa [objectFields_of_dataFields read]

/-! ## Two calls -/

namespace Client

variable {client : Client τ} {asked next : Call} {settings changed : Settings}
  {document other : Document}

/-- A call with a document that can be cached, and a second one after it. A leaf of the second
result that its answer lacks is null, or it stands under the same response keys in a record
that was found for its root. Every such value was in the store before the first call, which
brought nothing for its field, or it is from an object of the first answer that was filed
under the key of the record. In documents that use every response key for one field, the first
document selects there what the second one selects at the leaf. -/
theorem filled_from_same_field (first : client.Queries asked settings document)
    (second : client.Queries next changed other) {store : Store τ} {early now later last : τ}
    {opening reopening : Opening τ} {delivery redelivery : Delivery}
    {answer response returned completed : Answer}
    (begun : (client.begin asked store early).result = .ok opening)
    (delivered : delivery.answer opening.request.endpoint = .ok answer)
    (finished : (client.finish opening delivery store now).result = .ok returned)
    {after : Store τ} (left : after = (client.finish opening delivery store now).store)
    (resumed : (client.begin next after later).result = .ok reopening)
    (redelivered : redelivery.answer reopening.request.endpoint = .ok response)
    (done : (client.finish reopening redelivery after last).result = .ok completed)
    {root : String} {place : List Step} {keys : List String} {value : Json}
    (leaf : (other.expanded changed.cache.custom).LeafAt root place keys)
    (shown : (dataOf completed).at? (.field root :: place) = some value)
    (absent : (dataOf response).at? (.field root :: place) = none) :
    ∃ cached, lookupRoots after later (client.lookupName changed)
        (other.expanded changed.cache.custom) = .ok cached ∧
      (value = .null ∨ ∃ record ∈ (OrderedMap.get? cached root).getD [],
        Json.Reaches (.object record.data) keys value) ∧
      ∀ record ∈ (OrderedMap.get? cached root).getD [], ∀ held,
        Json.Reaches (.object record.data) keys held →
        ∃ key, after.record? key = some record ∧
          let data := objectFields (some (dataOf answer))
          let filing := client.filingOf settings asked document data now
          let prototype := document.expanded settings.cache.custom
          (filing.Leaves prototype data store key keys held ∨
            ∃ path, filing.Brings prototype data key path keys held ∧
              (document.Consistent other → ∀ head inner, document.Selects (path ++ keys) head →
                other.Selects (root :: keys) inner → head.Same inner)) := by
  obtain ⟨earlier, _, rfl⟩ := (begin_ok_iff first).mp begun
  obtain ⟨answer', batch, delivered', stored, _⟩ := finish_ok finished
  cases Except.ok.inj (delivered'.symm.trans delivered)
  rw [← left] at stored
  obtain ⟨filed, written⟩ := Store.deposit_writes stored
  obtain ⟨cached, looked, rfl⟩ := (begin_ok_iff second).mp resumed
  obtain ⟨response', _, redelivered', _, merged⟩ := finish_ok done
  cases Except.ok.inj (redelivered'.symm.trans redelivered)
  have unique := Document.expanded_keys_nodup second.eligible
  refine ⟨cached, looked, complete_fills unique merged leaf shown absent, ?_⟩
  intro record member held reaches
  obtain ⟨node, inside⟩ : ∃ node, (root, node) ∈ other.expanded changed.cache.custom := by
    cases leaf with
    | object found _ => exact ⟨_, OrderedMap.mem_of_get?_eq_some found⟩
    | item found _ => exact ⟨_, OrderedMap.mem_of_get?_eq_some found⟩
  obtain ⟨label, _, recalled⟩ := lookupRoots_finds unique looked (root, node) inside
  obtain ⟨key, found⟩ := Store.record?_of_recall recalled record member
  refine ⟨key, found, ?_⟩
  obtain old | ⟨path, within, brought⟩ := Store.write_origin (Filing.batchOf_entities filed) written
    found leaf.keys_ne_nil reaches
  · exact .inl old
  · exact .inr ⟨path, brought, fun consistent head inner selects again =>
      consistent.same within (List.cons_ne_nil root []) leaf.keys_ne_nil selects again⟩

end Client

/-! ## A name that is left out -/

namespace Countries

def record : Record Int :=
  ⟨"countries--1", "countries", "1",
    [("capital", .string "Lima"), ("id", .int 1), ("name", .string "Republic of Peru")], false,
    some 601⟩

/-- The second time the name is left out. -/
def partly : Delivery :=
  .answered 200 (Json.print Json.bodyStyle (.object [("data", .object [("countries",
    .array [.object [("id", .int 1)]])])]))

def reopening : Opening Int :=
  ⟨Client.request .standard call "POST",
    Client.queryPlan .standard call document [("countries", [record, record])]⟩

theorem consistent : document.Consistent document := by
  have bare : ∀ head, document.Inner head → head.aliasName = none ∧ head.arguments = [] := by
    rintro head ⟨path, long, selects⟩
    have roots : document.rootSelections = operation.selections := rfl
    rw [Document.Selects, roots] at selects
    cases selects with
    | inner member inside =>
      obtain ⟨rfl, rfl⟩ : _ ∧ _ := by simpa [operation] using member
      cases inside with
      | leaf member =>
        obtain rfl | rfl : _ ∨ _ := by simpa using member
        all_goals exact ⟨rfl, rfl⟩
      | relation member => simp at member
      | inner member => simp at member
      | spread member => simp at member
      | inline member => simp at member
    | leaf member => simp [operation] at member
    | relation => simp at long
    | spread member => simp [operation] at member
    | inline member => simp [operation] at member
  exact Document.consistent_of_bare bare bare

end Countries

open Countries in
/-- The name that the second answer leaves out is filled with that of the first one, which was
brought for the same field. -/
theorem Client.filled_name_of_countries :
    ∃ key path, (Client.standard.filingOf .standard call document [("countries", value)] 1).Brings
        (document.expanded none) [("countries", value)] key path ["name"]
        (.string "Republic of Peru") ∧
      ∀ head inner, document.Selects (path ++ ["name"]) head →
        document.Selects ["countries", "name"] inner → head.Same inner := by
  have again : lookupRoots filled 2 (Client.standard.lookupName .standard)
      (document.expanded none) = .ok [("countries", [record, record])] :=
    except_ok_of_toOption (by decide +kernel)
  have redelivered : partly.answer reopening.request.endpoint =
      .ok [("data", .object [("countries", .array [.object [("id", .int 1)]])])] :=
    except_ok_of_toOption (by decide +kernel)
  have done : (Client.standard.finish reopening partly filled 3).result =
      .ok [("data", .object [("countries",
        .array [.object [("id", .int 1), ("name", .string "Republic of Peru")]])])] :=
    except_ok_of_toOption (by decide +kernel)
  have leaf : (document.expanded none).LeafAt "countries" [.item 0, .field "name"] ["name"] :=
    .item (show OrderedMap.get? (document.expanded none) "countries" = some node by rfl)
      (.leaf (by decide) (by rfl))
  obtain ⟨cached, found, shown, held⟩ := filled_from_same_field queries queries
    begun delivered finished rfl
    ((begin_ok_iff queries).mpr ⟨_, again, rfl⟩) redelivered done leaf
    (show _ = some (Json.string "Republic of Peru") by rfl) (by rfl)
  obtain none | ⟨record, member, reaches⟩ := shown
  · cases none
  · obtain ⟨key, _, older | ⟨path, brought, same⟩⟩ := held record member _ reaches
    · -- The one record that was there before has no name.
      obtain ⟨⟨before, there, reached⟩, _⟩ := older
      obtain ⟨_, named, _⟩ := Json.reaches_object.mp reached
      simp only [store, Store.record?] at there
      cases List.mem_singleton.mp (OrderedMap.mem_of_get?_eq_some there)
      cases named
    · exact ⟨key, path, brought, same consistent⟩

/-! ## A field under the name of another one -/

namespace Renamed

def endpoint : String := "https://api.example.test/graphql"

def call : Call :=
  ⟨endpoint, "\x7b country(id: 1) \x7b id name: capital \x7d \x7d", [], [], [], []⟩

def next : Call := ⟨endpoint, "\x7b country(id: 1) \x7b id name \x7d \x7d", [], [], [], []⟩

def country : FieldHead := ⟨none, "country", [⟨"id", .int "1"⟩], []⟩

def capital : FieldHead := ⟨some "name", "capital", [], []⟩

def name : FieldHead := ⟨none, "name", [], []⟩

/-- The country with its identifier and one more field. -/
def asking (head : FieldHead) : Document :=
  ⟨[.operation ⟨.query, none, [], [], [.relation country [.leaf ⟨none, "id", [], []⟩, .leaf head]]⟩]⟩

def data : OrderedMap String Json :=
  [("country", .object [("id", .int 1), ("name", .string "Lima")])]

def answered (data : OrderedMap String Json) : Delivery :=
  .answered 200 (Json.print Json.bodyStyle (.object [("data", .object data)]))

def store : Store Int := .memory .empty

def record : Record Int :=
  ⟨"country--1", "country", "1", [("id", .int 1), ("name", .string "Lima")], false, some 601⟩

def opening : Opening Int :=
  ⟨Client.request .standard call "POST", Client.queryPlan .standard call (asking capital) []⟩

def filled : Store Int := (Client.standard.finish opening (answered data) store 1).store

def reopening : Opening Int :=
  ⟨Client.request .standard next "POST",
    Client.queryPlan .standard next (asking name) [("country", [record])]⟩

set_option maxRecDepth 4000 in
theorem queries : Client.standard.Queries call .standard (asking capital) :=
  ⟨rfl, by cbv, by decide⟩

set_option maxRecDepth 4000 in
theorem nextQueries : Client.standard.Queries next .standard (asking name) :=
  ⟨rfl, by cbv, by decide⟩

/-- Below the country the field is selected under its response key. -/
theorem selects (head : FieldHead) : (asking head).Selects ["country", head.responseKey] head := by
  have root : Selection.relation country [.leaf ⟨none, "id", [], []⟩, .leaf head] ∈
      (asking head).rootSelections := List.mem_singleton_self _
  exact .inner root (.leaf (List.mem_cons_of_mem _ (List.mem_singleton_self _)))

end Renamed

open Renamed in
/-- The capital that was asked for under the name of the name is given as the name. -/
theorem Client.capital_stands_for_name :
    Client.standard.Queries call .standard (asking capital) ∧
      Client.standard.Queries next .standard (asking name) ∧
      (Client.standard.begin call store 0).result = .ok opening ∧
      (answered data).answer endpoint = .ok [("data", .object data)] ∧
      (Client.standard.finish opening (answered data) store 1).result =
        .ok [("data", .object data)] ∧
      (Client.standard.begin next filled 2).result = .ok reopening ∧
      (answered [("country", .object [("id", .int 1)])]).answer endpoint =
        .ok [("data", .object [("country", .object [("id", .int 1)])])] ∧
      (Client.standard.finish reopening (answered [("country", .object [("id", .int 1)])]) filled
        3).result = .ok [("data", .object data)] ∧
      (Json.object data).at? [.field "country", .field "name"] = some (.string "Lima") ∧
      (Json.object [("country", .object [("id", .int 1)])]).at? [.field "country", .field "name"] =
        none ∧
      (asking capital).Selects ["country", "name"] capital ∧
      (asking name).Selects ["country", "name"] name ∧ ¬capital.Same name := by
  refine ⟨queries, nextQueries,
    (begin_ok_iff queries).mpr ⟨[], except_ok_of_toOption (by decide +kernel), rfl⟩,
    except_ok_of_toOption (by decide +kernel), except_ok_of_toOption (by decide +kernel),
    (begin_ok_iff nextQueries).mpr ⟨[("country", [record])],
      except_ok_of_toOption (by decide +kernel), rfl⟩,
    except_ok_of_toOption (by decide +kernel), except_ok_of_toOption (by decide +kernel),
    rfl, rfl, selects capital, selects name, ?_⟩
  exact fun same => absurd same.name (by decide)

end GraphCache
