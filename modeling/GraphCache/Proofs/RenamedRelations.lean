import GraphCache.Proofs.Addresses
import GraphCache.Proofs.FiledRecords
import GraphCache.Proofs.RenamedNodes
import GraphCache.Proofs.RequestKeys

/-! Documents that differ in the aliases of relations. A selection set may be requested at several
places, a fragment wherever it is spread, and every relation in it is renamed at all of them
alike. Then the nodes of the one document stand at the renamed places of the other, and the
answer to the other, which is the renamed answer, has the same objects there with the same
identifiers. What they are filed under can still differ: a category is looked up under the
response key too, where the type of a field is not mapped. -/
namespace GraphCache

/-! ## Documents -/

/-- A field with another alias, or with none, under a new response key. -/
structure FieldHead.Renamed (key : String → String) (head other : FieldHead) : Prop where
  name : other.name = head.name
  arguments : other.arguments = head.arguments
  directives : other.directives = head.directives
  responseKey : other.responseKey = key head.responseKey

/-- Selections at one place of which only relations have other response keys. What is selected below
a relation is at another place. -/
inductive Selection.Renamed (key : String → String) : Selection → Selection → Prop where
  | leaf {head : FieldHead} (kept : key head.responseKey = head.responseKey) :
      Renamed key (.leaf head) (.leaf head)
  | relation {head other : FieldHead} {selections others : List Selection}
      (renamed : head.Renamed key other) :
      Renamed key (.relation head selections) (.relation other others)
  | spread {fragment : String} {directives : List Directive} (kept : key fragment = fragment) :
      Renamed key (.spread fragment directives) (.spread fragment directives)

namespace Document

/-- The selection sets that two documents request below the same path of response keys, given by the
keys of the first one. A leaf with the name of a fragment counts as a spread. -/
inductive Places (document other : Document) :
    List String → List Selection → List Selection → Prop where
  | roots : Places document other [] document.rootSelections other.rootSelections
  | relation {path : List String} {selections others inner inner' : List Selection}
      {head head' : FieldHead} (above : Places document other path selections others)
      (selected : (Selection.relation head inner, Selection.relation head' inner') ∈
        selections.zip others) :
      Places document other (path ++ [head.responseKey]) inner inner'
  | shared {path : List String} {selections others : List Selection} {name : String}
      {shared shared' : Fragment} (above : Places document other path selections others)
      (spread : name ∈ Selection.offered selections)
      (defined : document.fragment? name = some shared)
      (defined' : other.fragment? name = some shared') :
      Places document other path shared.selections shared'.selections

/-- Documents of which the second one has other aliases for relations. At every place its relations
have the new response keys, and it has fragments of the same names. -/
structure Renamed {custom : Option String} (renames : Renaming custom) (document other : Document) :
    Prop where
  fragments : document.fragments.map Fragment.name = other.fragments.map Fragment.name
  selections : ∀ path selections others, document.Places other path selections others →
    List.Forall₂ (Selection.Renamed (renames.key path)) selections others

/-- A name is requested at a place. -/
def Asks (document other : Document) (path : List String) (name : String) : Prop :=
  ∃ selections others, document.Places other path selections others ∧
    name ∈ Selection.offered selections

end Document

/-! ## Compiled nodes -/

/-- In lists that are related one by one the related members stand side by side. -/
private theorem forall₂_zip {α β : Type} {related : α → β → Prop} {left : List α} {right : List β}
    (each : List.Forall₂ related left right) :
    List.Forall₂ (fun one two => related one two ∧ (one, two) ∈ left.zip right) left right := by
  induction each with
  | nil => exact .nil
  | cons own _ ih =>
    exact .cons ⟨own, List.mem_cons_self⟩
      (ih.imp fun _ _ later => ⟨later.1, List.mem_cons_of_mem _ later.2⟩)

variable {custom : Option String} {renames : Renaming custom} {asks : List String → String → Prop}
  {path : List String}

namespace Selection
variable {selections others : List Selection} {key : String → String}

/-- The names that are offered are the same, and stay. -/
theorem offered_renamed (each : List.Forall₂ (Selection.Renamed key) selections others) :
    offered others = offered selections ∧ leafKeys others = leafKeys selections ∧
      ∀ name ∈ offered selections, key name = name := by
  induction each with
  | nil => exact ⟨rfl, rfl, by simp [offered]⟩
  | cons own _ ih =>
    obtain ⟨names, leaves, kept⟩ := ih
    simp only [offered, leafKeys] at names leaves kept ⊢
    cases own with
    | leaf same =>
      simp only [List.filterMap_cons, names, leaves, true_and]
      exact List.forall_mem_cons.mpr ⟨same, kept⟩
    | relation renamed =>
      simp only [List.filterMap_cons, names, leaves, true_and]
      exact kept
    | spread same =>
      simp only [List.filterMap_cons, names, leaves, true_and]
      exact List.forall_mem_cons.mpr ⟨same, kept⟩

/-- The relations correspond, side by side. -/
theorem branches_renamed (each : List.Forall₂ (Selection.Renamed key) selections others) :
    List.Forall₂ (fun branch other => other.1 = key branch.1 ∧ branch.2.1.responseKey = branch.1 ∧
        branch.2.1.Renamed key other.2.1 ∧
        (Selection.relation branch.2.1 branch.2.2, Selection.relation other.2.1 other.2.2) ∈
          selections.zip others)
      (branches selections) (branches others) := by
  have zipped := forall₂_zip each
  generalize selections.zip others = pairs at zipped
  induction zipped with
  | nil => exact .nil
  | cons own _ ih =>
    obtain ⟨renamed, member⟩ := own
    obtain ⟨_, later⟩ := List.forall₂_cons.mp each
    cases renamed with
    | leaf => exact ih later
    | spread => exact ih later
    | relation heads => exact .cons ⟨heads.responseKey, rfl, heads, member⟩ (ih later)

end Selection

/-- Names that stay are the names of the renamed node. -/
private theorem Node.ofNames_renamed {names : List String}
    (asked : ∀ name ∈ names, asks path name ∧ renames.key path name = name) :
    OrderedMap.Along (renames.key path) (Entry.Renamed renames asks path) (Node.ofNames names)
      (Node.ofNames names) := by
  refine .ofList (renames.injective path) ?_
  rw [OrderedMap.Along, List.forall₂_map_left_iff, List.forall₂_map_right_iff, List.forall₂_same]
  intro name member
  obtain ⟨own, kept⟩ := asked name member
  exact ⟨kept.symm, .requested own kept .nil⟩

/-- A field under another alias has the same marks but that one. -/
private theorem FieldHead.Renamed.marks {key : String → String} {head other : FieldHead}
    (renamed : head.Renamed key other) :
    OrderedMap.Along (renames.key path) (Entry.Renamed renames asks path) (head.marks custom)
      (other.marks custom) := by
  have injective := renames.injective path
  have mark (name : String) (value : Json) (reserved : isReserved name = true) :
      name = renames.key path name ∧
        (Entry.literal value).Renamed renames asks path name (.literal value) :=
    ⟨(renames.reserved path name reserved).symm, .literal value .nil⟩
  rw [FieldHead.marks, FieldHead.marks, renamed.name, renamed.arguments]
  -- the identifier is written twice, and the mark for the alias is the only one that differs
  have first := mark Mark.identifier
  refine .overlay (.overlay (.cons (first _ (by decide)) .nil) injective ?_) injective
    (.cons (first _ (by decide)) (.cons (mark Mark.typeName _ (by decide)) (.cons ?_
      (.cons (mark Mark.arguments _ (by decide)) .nil))))
  · rw [OrderedMap.Along, List.forall₂_map_left_iff, List.forall₂_map_right_iff, List.forall₂_same]
    intro entry member
    exact mark _ _ (by simpa using (List.mem_filter.mp member).2)
  · have shape (head : FieldHead) :
        ((head.aliasName.map Json.string).getD .null).isObject = false := by
      cases head.aliasName <;> rfl
    exact ⟨(renames.reserved path Mark.aliasName (by decide)).symm,
      .aliasName ((shape head).trans (shape other).symm) .nil⟩

/-- Relations that are set in renamed nodes, each with its renamed node. -/
private theorem Node.withRelations_renamed {node other : Node}
    (opened : OrderedMap.Along (renames.key path) (Entry.Renamed renames asks path) node other)
    {relations relations' : List (String × Node)}
    (each : OrderedMap.Along (renames.key path)
      (fun name => Node.Renamed renames asks (path ++ [name])) relations relations') :
    (node.withRelations relations).Renamed renames asks path (other.withRelations relations') := by
  rw [Node.renamed_iff, Node.withRelations, Node.withRelations]
  refine opened.overlay (renames.injective path) ?_
  rw [OrderedMap.Along, List.forall₂_map_left_iff, List.forall₂_map_right_iff]
  exact List.Forall₂.imp (fun _ _ own => ⟨own.1, .relation own.2 .nil⟩) each

namespace Document
variable {document other : Document}

/-- At a place the relations of both documents have renamed nodes. -/
theorem Renamed.relations (renamed : document.Renamed renames other) {path : List String}
    {selections others : List Selection} (place : document.Places other path selections others) :
    OrderedMap.Along (renames.key path)
      (fun name => Node.Renamed renames (document.Asks other) (path ++ [name]))
      (Selection.relationsOf custom selections) (Selection.relationsOf custom others) := by
  rw [Selection.relationsOf_eq_map, Selection.relationsOf_eq_map, OrderedMap.Along,
    List.forall₂_map_left_iff, List.forall₂_map_right_iff]
  have branches := Selection.branches_renamed (renamed.selections _ _ _ place)
  refine branches.imp fun branch branch' own => ?_
  obtain ⟨titled, keyed, heads, paired⟩ := own
  have inner := Places.relation place paired
  rw [keyed] at inner
  -- what is selected inside is at the path that is one response key longer
  obtain ⟨names, _, kept⟩ := Selection.offered_renamed (renamed.selections _ _ _ inner)
  refine ⟨titled, ?_⟩
  rw [FieldHead.node, FieldHead.node, FieldHead.opening, FieldHead.opening, names]
  refine Node.withRelations_renamed (.overlay (Node.ofNames_renamed fun name offers => ?_)
    (renames.injective _) heads.marks) (renamed.relations inner)
  exact ⟨⟨_, _, inner, offers⟩, kept name offers⟩
termination_by sizeOf selections
decreasing_by
  have inside := List.sizeOf_lt_of_mem (List.of_mem_zip paired).1
  simp only [Selection.relation.sizeOf_spec] at inside
  omega

/-- Fragments that are spread at a place have renamed nodes there. -/
theorem Renamed.sharedRenamed (renamed : document.Renamed renames other) :
    Node.SharedRenamed renames (document.Asks other) (document.translatedFragments custom)
      (other.translatedFragments custom) := by
  have undefined {any : Document} {name : String} :
      any.fragment? name = none ↔ name ∉ any.fragments.map Fragment.name := by
    rw [fragment?, List.find?_eq_none]
    simp
  rintro path name ⟨selections, others, place, offers⟩
  rw [get?_translatedFragments, get?_translatedFragments]
  cases defined : document.fragment? name with
  | none =>
    have absent := undefined.mp defined
    rw [renamed.fragments] at absent
    rw [undefined.mpr absent]
    exact .none
  | some shared =>
    obtain ⟨shared', defined'⟩ : ∃ shared', other.fragment? name = some shared' := by
      rw [← Option.ne_none_iff_exists', ne_eq, undefined, ← renamed.fragments, ← undefined, defined]
      simp
    have inner := Places.shared place offers defined defined'
    obtain ⟨names, leaves, kept⟩ := Selection.offered_renamed (renamed.selections _ _ _ inner)
    rw [defined', Option.map_some, Option.map_some, Fragment.node, Fragment.node, leaves]
    refine .some (Node.withRelations_renamed (Node.ofNames_renamed fun name leaf => ?_)
      (renamed.relations inner))
    have offers : name ∈ Selection.offered shared.selections :=
      Selection.mem_offered.mpr (.inl leaf)
    exact ⟨⟨_, _, inner, offers⟩, kept name offers⟩

/-- The roots and all nodes below them are renamed when fragments are inlined. -/
theorem Renamed.expanded (renamed : document.Renamed renames other)
    (clear : (document.compile custom).obstacle = none)
    (clear' : (other.compile custom).obstacle = none) :
    (document.expanded custom).Renamed renames (fun _ _ => True) (other.expanded custom) := by
  have roots : (document.translatedRoots custom).Renamed renames (document.Asks other)
      (other.translatedRoots custom) := by
    rw [translatedRoots_eq, translatedRoots_eq]
    exact .ofList (renames.injective []) (renamed.relations .roots)
  have length : (document.translatedFragments custom).length =
      (other.translatedFragments custom).length := by
    have names := List.forall₂_eq_eq_eq ▸ renamed.fragments
    have writes : OrderedMap.Along id (fun _ _ _ => True)
        (document.fragments.map fun shared => (shared.name, shared.node custom))
        (other.fragments.map fun shared => (shared.name, shared.node custom)) := by
      rw [OrderedMap.Along, List.forall₂_map_left_iff, List.forall₂_map_right_iff]
      rw [List.forall₂_map_left_iff, List.forall₂_map_right_iff] at names
      exact names.imp fun _ _ same => ⟨same.symm, trivial⟩
    exact (OrderedMap.Along.ofList Function.injective_id writes).length_eq
  rw [expanded_eq_expand clear, expanded_eq_expand clear']
  exact roots.expand renamed.sharedRenamed length

end Document

/-! ## Keys of entities -/

/-- What stands at a path below typed roots has a text for its type. -/
theorem Prototype.typeLabel_of_at? {prototype : Prototype}
    (typed : ∀ root ∈ prototype, root.2.Typed) {path : List String} {node : Node}
    (found : prototype.at? path = some node) : ∃ type, node.typeLabel = .text type := by
  have inside {top : Node} (typed : top.Typed) {rest : List String}
      (found : top.at? rest = some node) : ∃ type, node.typeLabel = .text type := by
    induction rest generalizing top with
    | nil =>
      cases found
      cases typed with
      | intro label _ => exact ⟨_, label⟩
    | cons key rest ih =>
      obtain ⟨below, relation, deeper⟩ := Node.at?_cons_eq_some.mp found
      cases typed with
      | intro _ each => exact ih (each key below (OrderedMap.mem_of_get?_eq_some relation)) deeper
  cases path with
  | nil => cases found
  | cons root rest =>
    obtain ⟨top, held, deeper⟩ := Option.bind_eq_some_iff.mp found
    exact inside (typed _ (OrderedMap.mem_of_get?_eq_some held)) deeper

namespace Filing
variable {τ : Type} {filing : Filing τ}

/-- An object at some place of the data is filed under a key, if the fields there are called by
these names. -/
def FilesUnder (filing : Filing τ) (called : List String → String → String) (prototype : Prototype)
    (data : Json) (key : String) : Prop :=
  ∃ path name node object category identifier, (path ++ [name]).tail.any isReserved = false ∧
    prototype.at? (path ++ [name]) = some node ∧ object ∈ data.objectsAt (path ++ [name]) ∧
    filing.categoryOf (called path name) node = .ok (.text category) ∧
    entityIdOf object filing.custom = some identifier ∧ key = entityKey category identifier

/-- The keys of a batch are those of the objects, under the response keys of their fields. -/
theorem keys_batchOf (filing : Filing τ) {prototype : Prototype} (distinct : prototype.Distinct)
    (formed : prototype.Formed) (data : OrderedMap String Json) :
    ∃ batch, filing.batchOf prototype (.object data) = .ok batch ∧
      ∀ key, key ∈ OrderedMap.keys batch.entities ↔
        filing.FilesUnder (fun _ name => name) prototype (.object data) key := by
  obtain ⟨batch, filed, _, _, keys, _⟩ := filing.batchOf_records formed data
  refine ⟨batch, filed, fun key => (keys key).trans ?_⟩
  constructor
  · rintro ⟨⟨name, node, object⟩, met, category, identifier, own⟩
    obtain ⟨path, plain, found, placed⟩ := distinct.mem_occurrences_iff.mp met
    exact ⟨path, name, node, object, category, identifier, plain, found, placed, own⟩
  · rintro ⟨path, name, node, object, category, identifier, plain, found, placed, own⟩
    exact ⟨⟨name, node, object⟩, distinct.mem_occurrences_iff.mpr ⟨path, plain, found, placed⟩,
      category, identifier, own⟩

theorem categoryOf_congr (filing : Filing τ) (name : String) {node other : Node}
    (same : other.typeLabel = node.typeLabel) :
    filing.categoryOf name other = filing.categoryOf name node := by
  rw [categoryOf, categoryOf, category, category, same]

/-- Under a renamed prototype the renamed data is filed as the data is under the prototype, with the
new names for the fields. -/
theorem filesUnder_renamed {prototype other : Prototype}
    (renamed : prototype.Renamed renames asks other) (typed : ∀ root ∈ prototype, root.2.Typed)
    (own : filing.custom = custom) {data : Json} {key : String} :
    filing.FilesUnder (fun _ name => name) other (renames.value [] data) key ↔
      filing.FilesUnder renames.key prototype data key := by
  subst own
  have identifier (path : List String) (name : String) (object : OrderedMap String Json) :
      entityIdOf (renames.fields (path ++ [name]) object) filing.custom =
        entityIdOf object filing.custom := renames.entityIdOf_fields (by simp) object
  constructor
  · rintro ⟨path', name', node', object', category, identity, plain', found', placed', own⟩
    -- the place and the object are those of the first prototype and the data, under new keys
    obtain ⟨full, node, titled, found, same⟩ := renamed.of_at? found'
    obtain ⟨path, name, rfl⟩ : ∃ path name, full = path ++ [name] := by
      rcases List.eq_nil_or_concat full with rfl | ⟨path, name, rfl⟩
      · cases found
      · exact ⟨path, name, List.concat_eq_append ..⟩
    rw [← titled, renames.any_isReserved_tail_along] at plain'
    rw [← titled, renames.objectsAt_value, List.nil_append] at placed'
    obtain ⟨object, placed, rfl⟩ := List.mem_map.mp placed'
    rw [renames.along_concat] at titled
    obtain ⟨rfl, rfl⟩ := List.append_singleton_inj.mp titled
    obtain ⟨type, label⟩ := Prototype.typeLabel_of_at? typed found
    obtain ⟨categorized, identified, keyed⟩ := own
    refine ⟨path, name, node, object, category, identity, plain', found, placed, ?_, ?_, keyed⟩
    · rwa [filing.categoryOf_congr _ ((same.typeLabel_eq label).trans label.symm)] at categorized
    · rwa [identifier] at identified
  · rintro ⟨path, name, node, object, category, identity, unmarked, found, placed, own⟩
    obtain ⟨node', found', same⟩ := renamed.at? found
    obtain ⟨type, label⟩ := Prototype.typeLabel_of_at? typed found
    obtain ⟨categorized, identified, keyed⟩ := own
    have placed' := List.mem_map_of_mem (f := renames.fields (path ++ [name])) placed
    have objects := renames.objectsAt_value [] (path ++ [name]) data
    rw [List.nil_append] at objects
    rw [← objects, renames.along_concat] at placed'
    rw [← renames.any_isReserved_tail_along, renames.along_concat] at unmarked
    rw [renames.along_concat] at found'
    refine ⟨renames.along [] path, renames.key path name, node', _, category, identity, unmarked,
      found', placed', ?_, ?_, keyed⟩
    · rwa [filing.categoryOf_congr _ ((same.typeLabel_eq label).trans label.symm)]
    · rwa [identifier]

end Filing
end GraphCache
