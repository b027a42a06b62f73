import GraphCache.Proofs.LeadingAnswers
import GraphCache.Proofs.RenamedRelations
import Mathlib.Logic.Equiv.Basic

/-! Whether aliases matter to where records are filed. An object keeps its identifier when the
relation that leads to it is renamed, and the type of its node. Its category is that of the type
if the type is mapped, and else it is looked up under the response key. So for all data the
entities of an answer keep their keys exactly if no node finds another category under its new
response key; for a node whose category changes, an answer that leads to one object tells the
difference. -/
namespace GraphCache

namespace Node

theorem at?_append (node : Node) (first second : List String) :
    node.at? (first ++ second) = (node.at? first).bind fun below => below.at? second := by
  induction first generalizing node with
  | nil => rfl
  | cons key rest ih =>
    ext result
    rw [List.cons_append, at?_cons_eq_some, Option.bind_eq_some_iff]
    constructor
    · rintro ⟨below, relation, found⟩
      rw [ih, Option.bind_eq_some_iff] at found
      obtain ⟨middle, early, late⟩ := found
      exact ⟨middle, at?_cons_eq_some.mpr ⟨below, relation, early⟩, late⟩
    · rintro ⟨middle, early, late⟩
      obtain ⟨below, relation, found⟩ := at?_cons_eq_some.mp early
      exact ⟨below, relation, by rw [ih, found, Option.bind_some, late]⟩

end Node

/-- On the way to a node stands a node. -/
theorem Prototype.at?_prefix {prototype : Prototype} {first second : List String}
    (some : first ≠ []) {node : Node} (found : prototype.at? (first ++ second) = .some node) :
    ∃ above, prototype.at? first = .some above := by
  cases first with
  | nil => exact absurd rfl some
  | cons root rest =>
    obtain ⟨top, held, deeper⟩ : ∃ top, OrderedMap.get? prototype root = .some top ∧
        top.at? (rest ++ second) = .some node := Option.bind_eq_some_iff.mp found
    rw [Node.at?_append] at deeper
    obtain ⟨above, early, _⟩ := Option.bind_eq_some_iff.mp deeper
    exact ⟨above, Option.bind_eq_some_iff.mpr ⟨top, held, early⟩⟩

theorem Selection.Within.mem_headsOf {head : FieldHead} {inner selections : List Selection}
    (within : (Selection.relation head inner).Within selections) :
    head ∈ Selection.headsOf selections := by
  induction within with
  | here member => exact Selection.mem_headsOf.mpr ⟨_, member, List.mem_cons_self⟩
  | inside member _ ih =>
    exact Selection.mem_headsOf.mpr ⟨_, member, List.mem_cons_of_mem _ ih⟩

/-- Without marks among the names every path to a node is plain. -/
theorem Document.Unmarked.plain_path {document : Document} {custom : Option String}
    (unmarked : document.Unmarked) (clear : (document.compile custom).obstacle = none)
    {path : List String} {node : Node} (found : (document.expanded custom).at? path = some node) :
    path.any isReserved = false := by
  rw [List.any_eq_false]
  intro key member
  obtain ⟨early, late, rfl⟩ := List.append_of_mem member
  rw [List.append_cons] at found
  obtain ⟨above, reached⟩ := Prototype.at?_prefix (by simp) found
  obtain ⟨head, _, ⟨definition, defined, within⟩, last, _⟩ := exists_relates_of_at? clear reached
  rw [List.getLast?_concat, Option.some.injEq] at last
  rw [last, unmarked.plain clear definition defined head within.mem_headsOf]
  exact Bool.false_ne_true

/-! ## Answers that tell a category -/

/-- Of an answer that leads along a path to one object, every object on the way leads on. -/
theorem Json.mem_objectsAt_leadingTo {names path other : List String}
    {object : OrderedMap String Json}
    (met : object ∈ (Json.object (leadingTo (ones names) path)).objectsAt other) :
    (other = path ∧ object = ones names) ∨ ∃ key inner, object = [(key, .object inner)] := by
  induction path generalizing other with
  | nil =>
    cases other with
    | nil => exact .inl ⟨rfl, List.mem_singleton.mp met⟩
    | cons key rest =>
      have leaf (value : Json) (none : objectsOf value = []) : value.objectsAt rest = [] := by
        cases rest <;> simp [objectsAt, none]
      rw [objectsAt, objectsOf, List.flatMap_singleton, leadingTo, get?_ones, leaf] at met
      · cases met
      · split <;> rfl
  | cons first path ih =>
    cases other with
    | nil => exact .inr ⟨first, _, List.mem_singleton.mp met⟩
    | cons key rest =>
      rw [objectsAt, objectsOf, List.flatMap_singleton, leadingTo] at met
      by_cases same : first = key
      · subst same
        rw [OrderedMap.get?, if_pos rfl, Option.getD_some] at met
        obtain ⟨rfl, own⟩ | passing := ih met
        · exact .inl ⟨rfl, own⟩
        · exact .inr passing
      · rw [OrderedMap.get?, if_neg same, OrderedMap.get?_nil, Option.getD_none] at met
        cases rest <;> cases met

theorem Json.objectsAt_leadingTo (object : OrderedMap String Json) (path : List String) :
    (Json.object (leadingTo object path)).objectsAt path = [object] := by
  induction path with
  | nil => rfl
  | cons key rest ih =>
    rw [objectsAt, objectsOf, List.flatMap_singleton, leadingTo, OrderedMap.get?, if_pos rfl,
      Option.getD_some, ih]

namespace Filing
variable {τ : Type} {filing : Filing τ} {prototype : Prototype} {path : List String}
  {name : String} {node : Node} {category : String}

/-- An answer that leads to one object is filed under the category that the object has, and under no
other one. -/
theorem filesUnder_leadingTo (called : List String → String → String)
    (found : prototype.at? (path ++ [name]) = some node)
    (plain : (path ++ [name]).any isReserved = false)
    (categorized : filing.categoryOf (called path name) node = .ok (.text category))
    (other : String) :
    filing.FilesUnder called prototype (.object (leadingTo (ones []) (path ++ [name])))
        (entityKey other "1") ↔
      Text.lowercase other = Text.lowercase category := by
  constructor
  · rintro ⟨path', name', node', object, category', identifier, _, found', met, own⟩
    obtain ⟨categorized', identified, keyed⟩ := own
    -- an object on the way has no identifier that ends like this one
    obtain ⟨same, rfl⟩ | passing := Json.mem_objectsAt_leadingTo met
    · obtain ⟨rfl, rfl⟩ := List.append_singleton_inj.mp same
      cases found.symm.trans found'
      cases categorized.symm.trans categorized'
      rw [entityIdOf_ones] at identified
      cases identified
      have texts := congrArg String.toList keyed
      simp only [entityKey, String.toList_append, List.append_cancel_right_eq] at texts
      exact String.toList_inj.mp texts
    · refine absurd ?_ (filing.keyOf?_passing
        (show Occurrence.Passing ⟨called path' name', node', object⟩ from passing) other)
      exact keyOf?_eq_some_iff.mpr ⟨category', identifier, categorized', identified, keyed⟩
  · intro same
    refine ⟨path, name, node, ones [], category, "1", ?_, found, ?_, categorized,
      entityIdOf_ones [] _, by rw [entityKey, entityKey, same]⟩
    · cases whole : path ++ [name] with
      | nil => rfl
      | cons root rest =>
        rw [whole, List.any_cons, Bool.or_eq_false_iff] at plain
        exact plain.2
    · rw [Json.objectsAt_leadingTo]
      exact List.mem_singleton_self _

/-! ## Categories under two response keys -/

/-- The categories that a node has under two response keys are written alike in keys of entities. -/
def SameCategory (filing : Filing τ) (one two : String) (node : Node) : Prop :=
  ∃ category category', filing.categoryOf one node = .ok (.text category) ∧
    filing.categoryOf two node = .ok (.text category') ∧
    Text.lowercase category = Text.lowercase category'

theorem SameCategory.symm {one two : String} (same : filing.SameCategory one two node) :
    filing.SameCategory two one node := by
  obtain ⟨category, category', first, second, equal⟩ := same
  exact ⟨category', category, second, first, equal.symm⟩

/-- Objects are filed alike under names with the same categories. -/
theorem filesUnder_congr {called called' : List String → String → String} {data : Json}
    {key : String} (same : ∀ path name node, prototype.at? (path ++ [name]) = some node →
      filing.SameCategory (called path name) (called' path name) node) :
    filing.FilesUnder called prototype data key ↔ filing.FilesUnder called' prototype data key := by
  have onward {called called' : List String → String → String}
      (same : ∀ path name node, prototype.at? (path ++ [name]) = some node →
        filing.SameCategory (called path name) (called' path name) node)
      (filed : filing.FilesUnder called prototype data key) :
      filing.FilesUnder called' prototype data key := by
    obtain ⟨path, name, node, object, category, identifier, plain, found, placed, own⟩ := filed
    obtain ⟨categorized, identified, keyed⟩ := own
    obtain ⟨first, second, one, two, equal⟩ := same path name node found
    cases one.symm.trans categorized
    refine ⟨path, name, node, object, second, identifier, plain, found, placed, two, identified, ?_⟩
    rw [keyed, entityKey, entityKey, equal]
  exact ⟨onward same, onward fun path name node found => (same path name node found).symm⟩

/-- A category that is the same under two response keys is written alike. -/
theorem SameCategory.of_eq {type : String} (label : node.typeLabel = .text type) {one two : String}
    (same : filing.categoryOf one node = filing.categoryOf two node) :
    filing.SameCategory one two node := by
  obtain ⟨category, categorized⟩ := filing.categoryOf_text one label
  exact ⟨category, category, categorized, same ▸ categorized, rfl⟩

/-- The category of a field is the same under two response keys if its type is mapped, or if both
keys are mapped alike. -/
theorem SameCategory.of_mapped {type : String} (label : node.typeLabel = .text type)
    (named : type ≠ "") {one two : String}
    (maps : (mappedLabel? (labels filing.fieldMap) type).isSome ∨
      mappedLabel? (labels filing.fieldMap) (Text.lowercase one) =
        mappedLabel? (labels filing.fieldMap) (Text.lowercase two)) :
    filing.SameCategory one two node := by
  have chosen : (mappedLabel? (labels filing.fieldMap) type <|>
        mappedLabel? (labels filing.fieldMap) (Text.lowercase one)) =
      (mappedLabel? (labels filing.fieldMap) type <|>
        mappedLabel? (labels filing.fieldMap) (Text.lowercase two)) := by
    obtain own | same := maps
    · obtain ⟨mapped, held⟩ := Option.isSome_iff_exists.mp own
      rw [held]
      rfl
    · rw [same]
  refine .of_eq label ?_
  rw [categoryOf, categoryOf, category, category, label]
  split
  · rename_i empty
    exact absurd (Label.text.inj empty) named
  · simp only [Label.hashable, bind, Except.bind, chosen]

end Filing

/-- All nodes of such a document have the types of their fields. -/
theorem Document.Unmarked.expanded_typed {document : Document} (unmarked : document.Unmarked)
    {custom : Option String} (clear : (document.compile custom).obstacle = none) :
    ∀ root ∈ document.expanded custom, root.2.Typed := fun root member =>
  (unmarked.expanded_ready clear custom root member).1

theorem Document.Unmarked.expanded_formed {document : Document} (unmarked : document.Unmarked)
    {custom : Option String} (clear : (document.compile custom).obstacle = none) :
    (document.expanded custom).Formed := by
  intro root member
  obtain ⟨typed, key, keyed⟩ := unmarked.expanded_ready clear custom root member
  exact ⟨typed.labelled, Node.argumentFields_of_queryKey keyed⟩

section Entities
variable {τ : Type} {custom : Option String} {renames : Renaming custom} {document other : Document}

/-- All data and the renamed data can be filed, and both batches have the keys of the objects in the
data: the one under the old response keys, the other one under the new ones. -/
theorem Document.Renamed.batches (renamed : document.Renamed renames other)
    (clear : (document.compile custom).obstacle = none)
    (clear' : (other.compile custom).obstacle = none)
    (unmarked : document.Unmarked) (unmarked' : other.Unmarked)
    {filing : Filing τ} (own : filing.custom = custom) (data : OrderedMap String Json) :
    ∃ batch batch',
      filing.batchOf (document.expanded custom) (.object data) = .ok batch ∧
      filing.batchOf (other.expanded custom) (renames.value [] (.object data)) = .ok batch' ∧
      (∀ key, key ∈ OrderedMap.keys batch.entities ↔
        filing.FilesUnder (fun _ name => name) (document.expanded custom) (.object data) key) ∧
      ∀ key, key ∈ OrderedMap.keys batch'.entities ↔
        filing.FilesUnder renames.key (document.expanded custom) (.object data) key := by
  obtain ⟨batch, filed, one⟩ :=
    filing.keys_batchOf (expanded_distinct clear) (unmarked.expanded_formed clear) data
  obtain ⟨batch', filed', two⟩ := filing.keys_batchOf (expanded_distinct clear')
    (unmarked'.expanded_formed clear') (renames.fields [] data)
  refine ⟨batch, batch', filed, by rwa [Renaming.value], one, fun key => (two key).trans ?_⟩
  rw [← Renaming.value]
  have expanded := renamed.expanded clear clear'
  exact filing.filesUnder_renamed expanded (unmarked.expanded_typed clear) own

/-- A document and one with other aliases for its relations, and their answers, of which the second
one is renamed in the same way. All data can be filed under both. The entities have the same keys
for all data exactly if the category that each node has under its new response key is written like
the one under its old one. -/
theorem Document.Renamed.entities_same_iff (renamed : document.Renamed renames other)
    (clear : (document.compile custom).obstacle = none)
    (clear' : (other.compile custom).obstacle = none)
    (unmarked : document.Unmarked) (unmarked' : other.Unmarked)
    {filing : Filing τ} (own : filing.custom = custom) :
    (∀ data : OrderedMap String Json, ∃ batch batch',
      filing.batchOf (document.expanded custom) (.object data) = .ok batch ∧
      filing.batchOf (other.expanded custom) (renames.value [] (.object data)) = .ok batch' ∧
      ∀ key, key ∈ OrderedMap.keys batch'.entities ↔ key ∈ OrderedMap.keys batch.entities) ↔
    ∀ path name node, (document.expanded custom).at? (path ++ [name]) = some node →
      filing.SameCategory name (renames.key path name) node := by
  have keys := renamed.batches clear clear' unmarked unmarked' own
  constructor
  · -- an answer that leads to one object at the path tells the category there
    intro same path name node found
    obtain ⟨type, label⟩ := Prototype.typeLabel_of_at? (unmarked.expanded_typed clear) found
    obtain ⟨category, categorized⟩ := filing.categoryOf_text name label
    obtain ⟨category', categorized'⟩ := filing.categoryOf_text (renames.key path name) label
    refine ⟨category, category', categorized, categorized', ?_⟩
    have plain := unmarked.plain_path clear found
    have left := Filing.filesUnder_leadingTo (fun _ name => name) found plain categorized
    have right := Filing.filesUnder_leadingTo renames.key found plain categorized'
    generalize leadingTo (ones []) (path ++ [name]) = object at left right
    obtain ⟨batch, batch', filed, filed', one, two⟩ := keys object
    obtain ⟨both, both', again, again', equal⟩ := same object
    cases filed.symm.trans again
    cases filed'.symm.trans again'
    exact (right category).mp ((two _).mp ((equal _).mpr ((one _).mpr ((left category).mpr rfl))))
  · intro same data
    obtain ⟨batch, batch', filed, filed', one, two⟩ := keys data
    refine ⟨batch, batch', filed, filed', fun key => (two key).trans (.trans ?_ (one key).symm)⟩
    exact filing.filesUnder_congr fun path name node found => (same path name node found).symm

end Entities

/-- One field at one place gets another response key, and whatever has that one gets the old key. -/
def Renaming.at {custom : Option String} (place : List String) (old new : String)
    (plain : ∀ name ∈ [old, new], isReserved name = false)
    (apart : ∀ name ∈ [old, new], ∀ field ∈ (place ++ [name]).tail,
      field ∉ identifierNames custom) : Renaming custom where
  key path name := if path = place then Equiv.swap old new name else name
  injective path := by
    split
    · exact (Equiv.swap old new).injective
    · exact Function.injective_id
  reserved path name marked := by
    split
    · refine Equiv.swap_apply_of_ne_of_ne ?_ ?_
      · rintro rfl
        simp [plain] at marked
      · rintro rfl
        simp [plain] at marked
    · rfl
  identifier path name := by
    rintro ⟨field, member, named⟩
    split
    · rename_i there
      subst there
      refine Equiv.swap_apply_of_ne_of_ne ?_ ?_
      · rintro rfl
        exact apart name (by simp) field member named
      · rintro rfl
        exact apart name (by simp) field member named
    · rfl

/-- Other keys, and keys at other places, stay. -/
theorem Renaming.at_of_ne {custom : Option String} {place path : List String}
    {old new name : String}
    {plain : ∀ name ∈ [old, new], isReserved name = false}
    {apart : ∀ name ∈ [old, new], ∀ field ∈ (place ++ [name]).tail, field ∉ identifierNames custom}
    (elsewhere : path = place → name ≠ old ∧ name ≠ new) :
    (Renaming.at place old new plain apart).key path name = name := by
  simp only [Renaming.at]
  split
  · rename_i there
    exact Equiv.swap_apply_of_ne_of_ne (elsewhere there).1 (elsewhere there).2
  · rfl

namespace Aliased

def capital (aliasName : Option String) : Selection :=
  .relation ⟨aliasName, "capital", [], []⟩ [.leaf ⟨none, "id", [], []⟩]

def countries (aliasName : Option String) : Selection :=
  .relation ⟨none, "countries", [], []⟩ [.leaf ⟨none, "id", [], []⟩, capital aliasName]

/-- Countries with their capitals, under their own name or under another one. -/
def document (aliasName : Option String) : Document where
  definitions := [.operation ⟨.query, none, [], [], [countries aliasName]⟩]

/-- The capital of a country is called its city. -/
def city : Renaming none :=
  .at ["countries"] "capital" "city" (by decide) (by decide)

/-- A country with its capital under some name. -/
def answer (name : String) : OrderedMap String Json :=
  [("countries", .array [.object [("id", .int 1), (name, .object [("id", .int 5)])]])]

def filing (fieldMap : OrderedMap String String) : Filing Int := ⟨fieldMap, [], false, none, none⟩

theorem renamed : (document none).Renamed city (document (some "city")) where
  fragments := rfl
  selections path selections others place := by
    -- there are three places: the roots, a country and its capital
    have places : path = [] ∧ selections = [countries none] ∧ others = [countries (some "city")] ∨
        path = ["countries"] ∧ selections = [.leaf ⟨none, "id", [], []⟩, capital none] ∧
          others = [.leaf ⟨none, "id", [], []⟩, capital (some "city")] ∨
        path = ["countries", "capital"] ∧ selections = [.leaf ⟨none, "id", [], []⟩] ∧
          others = [.leaf ⟨none, "id", [], []⟩] := by
      induction place with
      | roots => exact .inl ⟨rfl, rfl, rfl⟩
      | shared _ _ defined => cases defined
      | relation _ selected ih =>
        obtain ⟨rfl, rfl, rfl⟩ | ⟨rfl, rfl, rfl⟩ | ⟨rfl, rfl, rfl⟩ := ih
        · cases List.mem_singleton.mp selected
          exact .inr (.inl ⟨rfl, rfl, rfl⟩)
        · obtain leaf | relation := List.mem_cons.mp selected
          · cases leaf
          · cases List.mem_singleton.mp relation
            exact .inr (.inr ⟨rfl, rfl, rfl⟩)
        · cases List.mem_singleton.mp selected
    obtain ⟨rfl, rfl, rfl⟩ | ⟨rfl, rfl, rfl⟩ | ⟨rfl, rfl, rfl⟩ := places
    · exact .cons (.relation ⟨rfl, rfl, rfl, by decide⟩) .nil
    · exact .cons (.leaf (by decide)) (.cons (.relation ⟨rfl, rfl, rfl, by decide⟩) .nil)
    · exact .cons (.leaf (by decide)) .nil

theorem clear (aliasName : Option String) (names : aliasName ∈ [none, some "city"]) :
    ((document aliasName).compile none).obstacle = none := by
  revert aliasName
  decide

theorem unmarked (aliasName : Option String) (names : aliasName ∈ [none, some "city"]) :
    (document aliasName).Unmarked := by
  have plain : isReserved "city" = false := by decide
  obtain rfl | rfl := by simpa using names
  all_goals
    simp [Document.Unmarked, Document.heads, document, countries, capital, Definition.selections,
      Selection.headsOf, Selection.heads, plain]

theorem renamed_answer : city.value [] (.object (answer "capital")) = .object (answer "city") := by
  decide +kernel

end Aliased

open Aliased in
/-- Capitals are towns, whatever they are called. -/
theorem Document.towns_same_entities : ∃ batch batch',
    (filing [("capital", "town")]).batchOf ((document none).expanded none)
      (.object (answer "capital")) = .ok batch ∧
    (filing [("capital", "town")]).batchOf ((document (some "city")).expanded none)
      (.object (answer "city")) = .ok batch' ∧
    ∀ key, key ∈ OrderedMap.keys batch'.entities ↔ key ∈ OrderedMap.keys batch.entities := by
  have plain := unmarked none (by simp)
  have own : (filing [("capital", "town")]).custom = none := rfl
  have same := (renamed.entities_same_iff (clear none (by simp)) (clear (some "city") (by simp))
    plain (unmarked (some "city") (by simp)) own).mpr
  rw [← renamed_answer]
  refine same ?_ (answer "capital")
  intro path name node found
  obtain ⟨type, label⟩ :=
    Prototype.typeLabel_of_at? (plain.expanded_typed (clear none (by simp))) found
  by_cases there : path = ["countries"] ∧ (name = "capital" ∨ name = "city")
  · obtain ⟨rfl, rfl | rfl⟩ := there
    · cases found
      cases (show Label.text type = .text "capital" from label.symm)
      exact .of_mapped label (by decide) (.inl (by decide))
    · cases found
  · have kept : city.key path name = name := Renaming.at_of_ne fun same =>
      not_or.mp fun named => there ⟨same, named⟩
    rw [kept]
    exact .of_eq label rfl

open Aliased in
/-- Cities are towns, and capitals that are called cities are towns as well. -/
theorem Document.city_files_apart :
    (document none).Renamed city (document (some "city")) ∧
      ((document none).compile none).obstacle = none ∧
      ((document (some "city")).compile none).obstacle = none ∧
      (document none).Unmarked ∧ (document (some "city")).Unmarked ∧
      city.value [] (.object (answer "capital")) = .object (answer "city") ∧
      ((filing [("city", "town")]).batchOf ((document none).expanded none)
          (.object (answer "capital"))).map (fun batch => OrderedMap.keys batch.entities) =
        .ok ["capital--5", "countries--1"] ∧
      ((filing [("city", "town")]).batchOf ((document (some "city")).expanded none)
          (.object (answer "city"))).map (fun batch => OrderedMap.keys batch.entities) =
        .ok ["town--5", "countries--1"] :=
  ⟨renamed, clear none (by simp), clear (some "city") (by simp), unmarked none (by simp),
    unmarked (some "city") (by simp), renamed_answer, except_ok_of_toOption (by decide +kernel),
    except_ok_of_toOption (by decide +kernel)⟩

end GraphCache
