import GraphCache.Proofs.Filling
import GraphCache.Proofs.RoundTrip

/-! The shape of a root that is answered twice. A store keeps only the keys of the entities that
a root was answered with, so the second call takes its guess from the request: one object if
the root names an identifier, a list if it does not. Where the guess is right, the second
answer keeps the shape of the first one and is filled from it, whatever it leaves out; where
it is wrong, an answer that leaves out the root has the wrong shape. -/
namespace GraphCache

/-! ## Merging by shape -/

/-- An object that shows what a content has in each requested field that a fresh object lacks. -/
def Node.FilledFrom (custom : Option String) (node : Node) (fresh content shown :
    OrderedMap String Json) : Prop :=
  ∀ key entry, isReserved key = false → OrderedMap.get? node key = some entry →
    OrderedMap.get? fresh key = none →
    OrderedMap.get? shown key = some (entry.merge custom none (OrderedMap.get? content key))

namespace Node

variable {custom : Option String} {node : Node}

theorem filledFrom_mergeFields (fresh content : OrderedMap String Json) :
    node.FilledFrom custom fresh content (Entry.mergeFields custom fresh content node) := by
  intro key entry plain requested absent
  rw [Entry.get?_mergeFields, plain, requested, absent]
  rfl

/-- A fresh value that is no list is completed from an object to an object, or it is null. -/
theorem merge_object {fresh : Option Json} (single : ∀ items, fresh ≠ some (.array items))
    (content : OrderedMap String Json) :
    node.merge custom fresh (some (.object content)) = .null ∨
      ∃ fields, node.merge custom fresh (some (.object content)) = .object fields := by
  cases fresh with
  | none => exact .inr ⟨_, rfl⟩
  | some value =>
    cases value with
    | null => exact .inl rfl
    | array items => exact absurd rfl (single items)
    | bool value => exact .inr ⟨_, rfl⟩
    | int value => exact .inr ⟨_, rfl⟩
    | float value => exact .inr ⟨_, rfl⟩
    | string value => exact .inr ⟨_, rfl⟩
    | object fields => exact .inr ⟨_, rfl⟩

/-- A fresh value that is nothing, null or a list is completed from a list to a list, or it is
null. -/
theorem merge_array {fresh : Option Json}
    (listed : ∀ value, fresh = some value → value = .null ∨ ∃ items, value = .array items)
    (contents : List Json) :
    node.merge custom fresh (some (.array contents)) = .null ∨
      ∃ items, node.merge custom fresh (some (.array contents)) = .array items := by
  cases fresh with
  | none => exact .inr ⟨_, rfl⟩
  | some value =>
    obtain rfl | ⟨items, rfl⟩ := listed value rfl
    · exact .inl rfl
    · exact .inr ⟨_, rfl⟩

end Node

/-- What is written for the items of a cached list, item by item. -/
private theorem mem_identified {custom : Option String} {contents : List (OrderedMap String Json)}
    {identifier : String} {item : Json} :
    (identifier, item) ∈ (contents.map Json.object).filterMap (fun item => do
      let fields ← item.fields?
      let identifier ← entityIdOf fields custom
      if identifier.isEmpty then none else some (identifier, item)) ↔
    ∃ content ∈ contents, entityIdOf content custom = some identifier ∧ identifier ≠ "" ∧
      item = .object content := by
  simp only [List.filterMap_map, List.mem_filterMap, Function.comp_apply, Json.fields?, bind,
    Option.bind_some, Option.bind_eq_some_iff, Option.ite_none_left_eq_some, Option.some.injEq,
    Prod.mk.injEq, String.isEmpty_iff]
  constructor
  · rintro ⟨content, member, own, named, given, rfl, rfl⟩
    exact ⟨content, member, named, given, rfl⟩
  · rintro ⟨content, member, named, given, rfl⟩
    exact ⟨content, member, identifier, named, given, rfl, rfl⟩

/-- Of the cached items with an identifier one is known under it. -/
theorem get?_identifiedItems {custom : Option String} {contents : List (OrderedMap String Json)}
    {content : OrderedMap String Json} {identifier : String} (member : content ∈ contents)
    (named : entityIdOf content custom = some identifier) (given : identifier ≠ "") :
    ∃ filler ∈ contents, entityIdOf filler custom = some identifier ∧
      OrderedMap.get? (identifiedItems custom (contents.map .object)) identifier =
        some (.object filler) := by
  have written := mem_identified.mpr ⟨content, member, named, given, rfl⟩
  rw [identifiedItems]
  obtain ⟨item, found⟩ := Option.isSome_iff_exists.mp ((OrderedMap.get?_isSome_iff
    (OrderedMap.ofList _) identifier).mpr ((OrderedMap.mem_keys_overlay [] _ identifier).mpr
      (.inr (List.mem_map_of_mem (f := Prod.fst) written))))
  obtain none | own := OrderedMap.mem_of_mem_overlay (OrderedMap.mem_of_get?_eq_some found)
  · cases none
  · obtain ⟨filler, inside, same, _, rfl⟩ := mem_identified.mp own
    exact ⟨filler, inside, same, found⟩

/-- What is cached for a root that names no identifier is a list. -/
theorem cachedRoot_unnamed {τ : Type} {node : Node} (unnamed : node.identifier = .null)
    {records : List (Record τ)} (found : records ≠ []) :
    cachedRoot node records = some (.array ((records.map Record.data).map .object)) := by
  cases records with
  | nil => exact absurd rfl found
  | cons first rest => simp [cachedRoot, unnamed, Json.isNull]

/-- What is cached for a root that names one is an object. -/
theorem cachedRoot_named {τ : Type} {node : Node} (named : node.identifier ≠ .null)
    (first : Record τ) (rest : List (Record τ)) :
    cachedRoot node (first :: rest) = some (.object first.data) := by
  have given : node.identifier.isNull = false := by
    cases same : node.identifier <;> first | rfl | exact absurd same named
  simp [cachedRoot, given]

/-! ## One call -/

namespace Client

variable {τ : Type} [Instant τ]

omit [Instant τ] in
/-- What an answer has for a root. -/
def rootValue? (answer : Answer) (root : String) : Option Json :=
  OrderedMap.get? (objectFields (some (dataOf answer))) root

/-- A call over a store at a time is answered with `fresh` and returns `completed`. -/
def Completes (client : Client τ) (call : Call) (store : Store τ) (time : τ)
    (fresh completed : Answer) : Prop :=
  ∃ opening delivery arrival, (client.begin call store time).result = .ok opening ∧
    delivery.answer opening.request.endpoint = .ok fresh ∧
    (client.finish opening delivery store arrival).result = .ok completed

/-- However such a call is answered, short of a list for the root: the root is null or one object,
and an object for the root is filled from the content. -/
def KeepsObject (client : Client τ) (call : Call) (store : Store τ) (time : τ)
    (custom : Option String) (root : String) (node : Node) (content : Content τ) : Prop :=
  ∀ fresh completed, client.Completes call store time fresh completed →
    (∀ items, rootValue? fresh root ≠ some (Json.array items)) →
    (rootValue? completed root = some .null ∨
      ∃ shown, rootValue? completed root = some (Json.object shown)) ∧
    ∀ fields, rootValue? fresh root = some (Json.object fields) →
      ∃ shown, rootValue? completed root = some (Json.object shown) ∧
        node.FilledFrom custom fields content.data shown

/-- However such a call is answered, short of anything but a list for the root: the root is null or
a list, and every object in a list for the root is filled from a content with its identifier,
if there is one. -/
def KeepsItems (client : Client τ) (call : Call) (store : Store τ) (time : τ)
    (custom : Option String) (root : String) (node : Node) (contents : List (Content τ)) : Prop :=
  ∀ fresh completed, client.Completes call store time fresh completed →
    (∀ value, rootValue? fresh root = some value → value = .null ∨ ∃ items, value = .array items) →
    (rootValue? completed root = some .null ∨
      ∃ shown, rootValue? completed root = some (Json.array shown)) ∧
    ∀ items : List Json, rootValue? fresh root = some (Json.array items) →
      ∃ shown : List Json, rootValue? completed root = some (Json.array shown) ∧
        shown.length = items.length ∧
        ∀ (place : Nat) (fields : OrderedMap String Json) (identifier : String),
          items[place]? = some (Json.object fields) →
          entityIdOf fields custom = some identifier → identifier ≠ "" →
          (∃ content ∈ contents, entityIdOf content.data custom = some identifier) →
          ∃ filler ∈ contents, entityIdOf filler.data custom = some identifier ∧
            ∃ own, shown[place]? = some (Json.object own) ∧
              node.FilledFrom custom fields filler.data own

variable {client : Client τ} {call : Call} {settings : Settings} {document : Document}

/-- A root for which records were found is merged with them. -/
theorem Completes.root (queries : client.Queries call settings document) {store : Store τ} {time : τ}
    {cached : OrderedMap String (List (Record τ))}
    (looked : lookupRoots store time (client.lookupName settings)
      (document.expanded settings.cache.custom) = .ok cached)
    {root : String} {node : Node} (member : (root, node) ∈ document.expanded settings.cache.custom)
    {records : List (Record τ)} (found : OrderedMap.get? cached root = some records)
    {fresh completed : Answer} (completes : client.Completes call store time fresh completed) :
    rootValue? completed root = some (node.merge settings.cache.custom (rootValue? fresh root)
      (cachedRoot node records)) := by
  obtain ⟨opening, delivery, arrival, begun, delivered, finished⟩ := completes
  obtain ⟨again, same, rfl⟩ := (begin_ok_iff queries).mp begun
  cases looked.symm.trans same
  obtain ⟨answer, _, delivered', _, merged⟩ := finish_ok finished
  cases Except.ok.inj (delivered'.symm.trans delivered)
  have unique := Document.expanded_keys_nodup queries.eligible
  have nonempty : cached.isEmpty = false := by
    cases cached with
    | nil => cases found
    | cons _ _ => rfl
  simp only [complete, nonempty, Bool.false_eq_true, ↓reduceIte, bind, except_bind_ok, pure,
    Except.pure, Except.ok.injEq] at merged
  obtain ⟨fields, read, rfl⟩ := merged
  rw [rootValue?, rootValue?, dataOf_wrap, objectFields_of_dataFields read, objectFields,
    Prototype.get?_merge _ unique, OrderedMap.get?_eq_some_of_mem unique member, found]
  rfl

/-- A call is completed also when nothing is said to it. -/
theorem exists_completes_silence (queries : client.Queries call settings document) {store : Store τ}
    {time : τ} {cached : OrderedMap String (List (Record τ))}
    (looked : lookupRoots store time (client.lookupName settings)
      (document.expanded settings.cache.custom) = .ok cached) :
    ∃ completed, client.Completes call store time [("data", .null)] completed := by
  obtain ⟨completed, finished⟩ := client.finish_silence settings call document cached
    (request settings call "POST") store time
  exact ⟨completed, _, .silence, time, (begin_ok_iff queries).mpr ⟨cached, looked, rfl⟩,
    Delivery.silence_answer _, finished⟩

section Found
variable (queries : client.Queries call settings document) {store : Store τ} {time : τ}
  {cached : OrderedMap String (List (Record τ))}
  (looked : lookupRoots store time (client.lookupName settings)
    (document.expanded settings.cache.custom) = .ok cached)
  {root : String} {node : Node} (member : (root, node) ∈ document.expanded settings.cache.custom)
include queries looked member

/-- A root of which one record is found keeps the shape of an object exactly if it names an
identifier. -/
theorem keepsObject_iff {record : Record τ} (found : OrderedMap.get? cached root = some [record]) :
    client.KeepsObject call store time settings.cache.custom root node record.content ↔
      node.identifier ≠ .null := by
  constructor
  · intro keeps guessed
    obtain ⟨completed, completes⟩ := exists_completes_silence queries looked
    have shape := (keeps _ _ completes nofun).1
    rw [completes.root queries looked member found,
      cachedRoot_unnamed guessed (List.cons_ne_nil _ _)] at shape
    obtain shown | ⟨_, shown⟩ := shape <;> cases shown
  · intro named fresh completed completes single
    have shown := completes.root queries looked member found
    rw [cachedRoot_named named] at shown
    constructor
    · rw [shown]
      exact (Node.merge_object single _).imp (congrArg some) fun ⟨fields, same⟩ =>
        ⟨fields, congrArg some same⟩
    · intro fields given
      rw [given] at shown
      exact ⟨_, shown, Node.filledFrom_mergeFields fields record.data⟩

/-- A root of which records are found keeps the shape of a list exactly if it names no
identifier. -/
theorem keepsItems_iff {records : List (Record τ)}
    (found : OrderedMap.get? cached root = some records) (some : records ≠ []) :
    client.KeepsItems call store time settings.cache.custom root node
        (records.map Record.content) ↔ node.identifier = .null := by
  constructor
  · intro keeps
    by_contra named
    obtain ⟨completed, completes⟩ := exists_completes_silence queries looked
    have shape := (keeps _ _ completes nofun).1
    obtain ⟨first, rest, rfl⟩ := List.exists_cons_of_ne_nil some
    rw [completes.root queries looked member found, cachedRoot_named named] at shape
    obtain shown | ⟨_, shown⟩ := shape <;> cases shown
  · intro unnamed fresh completed completes listed
    have shown := completes.root queries looked member found
    rw [cachedRoot_unnamed unnamed some] at shown
    constructor
    · rw [shown]
      exact (Node.merge_array listed _).imp (congrArg Option.some) fun ⟨items, same⟩ =>
        ⟨items, congrArg Option.some same⟩
    · intro items given
      rw [given] at shown
      refine ⟨_, shown, by simp, fun place fields identifier here named present inside => ?_⟩
      obtain ⟨content, among, alike⟩ := inside
      obtain ⟨record, held, rfl⟩ := List.mem_map.mp among
      obtain ⟨filler, kept, same, paired⟩ := get?_identifiedItems
        (List.mem_map_of_mem (f := Record.data) held) alike present
      obtain ⟨own, stands, rfl⟩ := List.mem_map.mp kept
      refine ⟨own.content, List.mem_map_of_mem stands, same, _, ?_,
        Node.filledFrom_mergeFields fields own.data⟩
      simp only [List.getElem?_map, here, Option.map_some, listItems, pairedItem?, named,
        Option.bind_some, paired]
      rfl

end Found

omit [Instant τ] in
/-- Of one object that is kept, one record was found. -/
private theorem single_of_kept {related : Occurrence → Content τ → Prop} {occurrence : Occurrence}
    {found : Option (List (Record τ))}
    (kept : List.Forall₂ related [occurrence] ((found.getD []).map Record.content)) :
    ∃ record, found = some [record] := by
  obtain ⟨content, nothing, _, none, same⟩ := List.forall₂_cons_left_iff.mp kept
  cases List.forall₂_nil_left_iff.mp none
  cases found with
  | none => cases same
  | some records =>
    obtain ⟨record, rfl, _⟩ := List.map_eq_singleton_iff.mp same
    exact ⟨record, rfl⟩

section Exact
variable [LinearOrder τ] [Add τ] [Instant.Exact τ]

/-- A root that was answered with objects, seen by the same call made again within the lifetime
of the answer. An object that can be addressed keeps its shape, however the second answer
comes short of it, exactly if the root names an identifier; a list with such objects keeps it
exactly if the root names none. -/
theorem root_keeps_shape_iff (queries : client.Queries call settings document) {store : Store τ}
    {early now later : τ} {opening : Opening τ} {delivery : Delivery} {answer returned : Answer}
    {data : OrderedMap String Json}
    (begun : (client.begin call store early).result = .ok opening)
    (delivered : delivery.answer opening.request.endpoint = .ok answer)
    (object : dataOf answer = .object data)
    (finished : (client.finish opening delivery store now).result = .ok returned)
    (soon : later < now + Instant.ofSeconds settings.cache.lifetime)
    {before rest : List (String × Node × Json)} {root : String} {node : Node} {value : Json}
    (place : (document.expanded settings.cache.custom).carriedRoots data =
      before ++ (root, node, value) :: rest)
    (last : ∀ other ∈ rest, ∀ key label, node.queryKey (client.lookupName settings) = .ok key →
      other.2.1.queryKey (client.lookupName settings) = .ok label →
      store.filedAs label = store.filedAs key →
      (client.filingOf settings call document data now).keysOf other.1 other.2.1 other.2.2 =
        (client.filingOf settings call document data now).keysOf root node value) :
    ∃ contents,
      List.Forall₂
        ((client.filingOf settings call document data now).Keeps
          ((document.expanded settings.cache.custom).occurrences data))
        (node.identified root (client.lookupName settings) value) contents ∧
      (∀ fields, value = .object fields →
        (entityIdOf fields (client.lookupName settings)).isSome →
        ∃ content, contents = [content] ∧
          (client.KeepsObject call (client.finish opening delivery store now).store later
            settings.cache.custom root node content ↔ node.identifier ≠ .null)) ∧
      (∀ items, value = .array items →
        node.identified root (client.lookupName settings) value ≠ [] →
        (client.KeepsItems call (client.finish opening delivery store now).store later
          settings.cache.custom root node contents ↔ node.identifier = .null)) := by
  obtain ⟨cached, second⟩ := looks_again queries begun finished later
  have kept := root_found_again queries begun delivered object finished soon second place last
  have carried : (root, node, value) ∈
      (document.expanded settings.cache.custom).carriedRoots data := by
    rw [place]
    exact List.mem_append_right _ List.mem_cons_self
  have member : (root, node) ∈ document.expanded settings.cache.custom :=
    Prototype.mem_of_carried carried
  refine ⟨_, kept, ?_, ?_⟩
  · rintro fields rfl named
    have single : node.identified root (client.lookupName settings) (.object fields) =
        [⟨root, node, fields⟩] := by
      simp [Node.identified, objectsOf, named]
    rw [single] at kept
    obtain ⟨record, found⟩ := single_of_kept kept
    rw [found]
    exact ⟨record.content, rfl, keepsObject_iff queries second member found⟩
  · rintro items rfl given
    cases found : OrderedMap.get? cached root with
    | none =>
      rw [found] at kept
      exact absurd (List.forall₂_nil_right_iff.mp kept) given
    | some records =>
      rw [found] at kept
      refine keepsItems_iff queries second member found ?_
      rintro rfl
      exact given (List.forall₂_nil_right_iff.mp kept)

end Exact

end Client

open Countries in
/-- The countries that a root without an identifier was answered with stay a list. -/
theorem Client.countries_keep_shape :
    ∃ contents,
      List.Forall₂
        ((Client.standard.filingOf .standard call document [("countries", value)] 1).Keeps
          ((document.expanded none).occurrences [("countries", value)]))
        (node.identified "countries" none value) contents ∧
      Client.standard.KeepsItems call (Client.standard.finish opening delivery store 1).store 600
        none "countries" node contents := by
  obtain ⟨contents, kept, _, listed⟩ := root_keeps_shape_iff queries begun delivered rfl finished
    (show (600 : Int) < 1 + 600 by decide) (show _ = [] ++ ("countries", node, value) :: [] by rfl)
    (fun _ inside => absurd inside List.not_mem_nil)
  exact ⟨contents, kept, (listed _ rfl (List.cons_ne_nil _ _)).mpr rfl⟩

/-! ## One object without an identifier in the request -/

namespace Myself

def call : Call :=
  ⟨"https://api.example.test/graphql", "\x7b me \x7b id name \x7d \x7d", [], [], [], []⟩

def document : Document :=
  ⟨[.operation ⟨.query, none, [], [], [.relation ⟨none, "me", [], []⟩
    [.leaf ⟨none, "id", [], []⟩, .leaf ⟨none, "name", [], []⟩]]⟩]⟩

def node : Node :=
  [("id", .requested), ("name", .requested), ("__id", .literal .null),
   ("__type", .literal (.string "me")), ("__alias", .literal .null), ("__args", .literal .null)]

def ada : OrderedMap String Json := [("id", .int 1), ("name", .string "Ada")]

def answered (data : OrderedMap String Json) : Delivery :=
  .answered 200 (Json.print Json.bodyStyle (.object [("data", .object data)]))

def opening : Opening Int :=
  ⟨Client.request .standard call "POST", Client.queryPlan .standard call document []⟩

def filled : Store Int :=
  (Client.standard.finish opening (answered [("me", .object ada)]) (.memory .empty) 1).store

set_option maxRecDepth 4000 in
theorem queries : Client.standard.Queries call .standard document := ⟨rfl, by cbv, by decide⟩

def record : Record Int := ⟨"me--1", "me", "1", ada, false, some 601⟩

def reopening : Opening Int :=
  ⟨Client.request .standard call "POST",
    Client.queryPlan .standard call document [("me", [record])]⟩

theorem reopened : (Client.standard.begin call filled 2).result = .ok reopening :=
  (Client.begin_ok_iff queries).mpr
    ⟨[("me", [record])], except_ok_of_toOption (by decide +kernel), rfl⟩

end Myself

open Myself in
/-- One object comes back without its name when the second answer leaves the name out, and as a
list when it leaves out the object. -/
theorem Client.myself_loses_shape :
    Client.standard.Queries call .standard document ∧
      document.expanded none = [("me", node)] ∧
      (Client.standard.begin call (.memory .empty) 0).result = .ok opening ∧
      (answered [("me", .object ada)]).answer call.endpoint =
        .ok [("data", .object [("me", .object ada)])] ∧
      (Client.standard.finish opening (answered [("me", .object ada)]) (.memory .empty) 1).result =
        .ok [("data", .object [("me", .object ada)])] ∧
      Client.standard.Completes call filled 2 [("data", .object [("me", .object [("id", .int 1)])])]
        [("data", .object [("me", .object [("id", .int 1), ("name", .null)])])] ∧
      Client.standard.Completes call filled 2 [("data", .object [])]
        [("data", .object [("me", .array [.object ada])])] ∧
      ¬Client.standard.KeepsObject call filled 2 none "me" node record.content := by
  have omitted : Client.standard.Completes call filled 2 [("data", .object [])]
      [("data", .object [("me", .array [.object ada])])] :=
    ⟨reopening, answered [], 3, reopened, except_ok_of_toOption (by decide +kernel),
      except_ok_of_toOption (by decide +kernel)⟩
  refine ⟨queries, rfl, ?_, ?_, ?_, ?_, omitted, ?_⟩
  · exact (begin_ok_iff queries).mpr ⟨[], except_ok_of_toOption (by decide +kernel), rfl⟩
  · exact except_ok_of_toOption (by decide +kernel)
  · exact except_ok_of_toOption (by decide +kernel)
  · exact ⟨reopening, answered [("me", .object [("id", .int 1)])], 3, reopened,
      except_ok_of_toOption (by decide +kernel), except_ok_of_toOption (by decide +kernel)⟩
  · intro keeps
    obtain ⟨shown | ⟨_, shown⟩, _⟩ := keeps _ _ omitted nofun
    · cases shown
    · cases shown

end GraphCache
