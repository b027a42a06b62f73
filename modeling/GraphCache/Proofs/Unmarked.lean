import GraphCache.Proofs.Outlines

/-! Documents in which no field is renamed to look like a mark. Nothing takes the place of a
mark there, neither a selection of the field itself nor a fragment that is inlined: every
node has the type of its own field, before fragments are inlined and after. Such a
document can always be looked up and filed. -/
namespace GraphCache

/-! ## Names of fields -/

mutual

/-- The fields of a selection, with all fields below it. -/
def Selection.heads : Selection → List FieldHead
  | .leaf head => [head]
  | .relation head selections => head :: Selection.headsOf selections
  | .spread .. => []
  | .inlineFragment _ _ selections => Selection.headsOf selections

def Selection.headsOf : List Selection → List FieldHead
  | [] => []
  | selection :: rest => selection.heads ++ Selection.headsOf rest

end

def Definition.selections : Definition → List Selection
  | .operation asked => asked.selections
  | .fragment shared => shared.selections
  | .typeSystem _ => []

/-- All fields of a document. -/
def Document.heads (document : Document) : List FieldHead :=
  document.definitions.flatMap fun definition => Selection.headsOf definition.selections

/-- No field is renamed to look like a mark. -/
def Document.Unmarked (document : Document) : Prop :=
  ∀ head ∈ document.heads, ∀ name, head.aliasName = some name → isReserved name = false

namespace Selection

/-- No response key of a selection set or below it looks like a mark. -/
def Plain (selections : List Selection) : Prop :=
  ∀ head ∈ headsOf selections, isReserved head.responseKey = false

theorem mem_headsOf {selections : List Selection} {head : FieldHead} :
    head ∈ headsOf selections ↔ ∃ selection ∈ selections, head ∈ selection.heads := by
  induction selections with
  | nil => simp [headsOf]
  | cons selection rest ih => simp [headsOf, ih]

theorem Plain.last? {selections : List Selection} (plain : Plain selections) {key : String}
    {field : FieldHead × List Selection} (found : Selection.last? selections key = some field) :
    isReserved key = false ∧ Plain field.2 := by
  obtain ⟨rfl, member⟩ := mem_branches.mp (mem_of_last? found)
  constructor
  · exact plain _ (mem_headsOf.mpr ⟨_, member, List.mem_cons_self⟩)
  · exact fun head below => plain head (mem_headsOf.mpr ⟨_, member, List.mem_cons_of_mem _ below⟩)

theorem Plain.absent {selections : List Selection} (plain : Plain selections) {key : String}
    (reserved : isReserved key = true) : key ∉ responseKeys selections := by
  intro member
  have named : isReserved key = false := by
    obtain leaf | relation := List.mem_append.mp member
    · obtain ⟨selection, inside, picked⟩ := List.mem_filterMap.mp leaf
      cases selection <;> cases picked
      exact plain _ (mem_headsOf.mpr ⟨_, inside, List.mem_singleton_self _⟩)
    · obtain ⟨field, last⟩ := Option.isSome_iff_exists.mp ((last?_isSome_iff ..).mpr relation)
      exact (plain.last? last).1
  rw [named] at reserved
  cases reserved

theorem Plain.unmarked {selections : List Selection} (plain : Plain selections) {key : String}
    (reserved : isReserved key = true) : Selection.last? selections key = none := by
  cases found : Selection.last? selections key with
  | none => rfl
  | some field =>
    rw [(plain.last? found).1] at reserved
    cases reserved

/-- Nothing takes the place of a type mark below fields with plain names. -/
theorem Plain.typed {selections : List Selection} (plain : Plain selections) : Typed selections :=
  .intro (plain.unmarked (by decide)) fun _ _ found => (plain.last? found).2.typed
termination_by sizeOf selections
decreasing_by
  have member := (mem_branches.mp (mem_of_last? found)).2
  have inside := List.sizeOf_lt_of_mem member
  simp only [relation.sizeOf_spec] at inside
  omega

mutual

/-- Every field is visited where no inline fragment is met. -/
private theorem field_visited (selection : Selection)
    (free : Visit.inlineFragment ∉ selection.visits) :
    ∀ head ∈ selection.heads, Visit.field head ∈ selection.visits := by
  match selection with
  | .leaf head => simp [heads, visits]
  | .spread name directives => simp [heads]
  | .inlineFragment condition directives selections => simp [visits] at free
  | .relation head selections =>
    simp only [visits, List.mem_cons, reduceCtorEq, List.mem_append, List.not_mem_nil, or_false,
      false_or] at free
    intro other member
    simp only [heads, List.mem_cons] at member
    obtain rfl | below := member
    · simp [visits]
    · simp [visits, fields_visited selections free other below]

private theorem fields_visited (selections : List Selection)
    (free : Visit.inlineFragment ∉ visitsOf selections) :
    ∀ head ∈ headsOf selections, Visit.field head ∈ visitsOf selections := by
  match selections with
  | [] => simp [headsOf]
  | selection :: rest =>
    simp only [visitsOf, List.mem_append, not_or] at free
    intro head member
    simp only [headsOf, List.mem_append] at member
    simp only [visitsOf, List.mem_append]
    obtain own | later := member
    · exact .inl (field_visited selection free.1 head own)
    · exact .inr (fields_visited rest free.2 head later)

end

end Selection

/-- Every place of a walk that meets no obstacle is passed. -/
private theorem Walk.Passes.step_of_mem {custom : Option String} {walk next : Walk}
    {visits : List Visit} (passes : Walk.Passes custom walk visits next) {visit : Visit}
    (member : visit ∈ visits) : ∃ here after, Walk.step custom here visit = .ok after := by
  induction visits generalizing walk with
  | nil => cases member
  | cons first rest ih =>
    obtain ⟨middle, stepped, later⟩ := Walk.passes_cons.mp passes
    obtain rfl | inside := List.mem_cons.mp member
    · exact ⟨walk, middle, stepped⟩
    · exact ih later inside

namespace Document

variable {document : Document} {custom : Option String}

/-- Only a field with a plain name passes. -/
private theorem unreserved (clear : (document.compile custom).obstacle = none) :
    ∀ head ∈ document.heads, isReserved head.name = false := by
  have passes : Walk.Passes custom Walk.start document.visits
      (Walk.run custom Walk.start document.visits).1 := Prod.ext rfl clear
  intro head member
  obtain ⟨definition, inside, below⟩ := List.mem_flatMap.mp member
  have part : ∀ visit ∈ Selection.visitsOf definition.selections, visit ∈ document.visits := by
    intro visit visited
    refine List.mem_flatMap.mpr ⟨definition, inside, ?_⟩
    cases definition with
    | operation operation => exact List.mem_append_right _ visited
    | fragment shared => exact List.mem_cons_of_mem _ (List.mem_append_left _ visited)
    | typeSystem directives => cases visited
  have free : Visit.inlineFragment ∉ Selection.visitsOf definition.selections := by
    intro met
    obtain ⟨here, after, stepped⟩ := passes.step_of_mem (part _ met)
    cases stepped
  obtain ⟨here, after, stepped⟩ :=
    passes.step_of_mem (part _ (Selection.fields_visited _ free head below))
  by_contra reserved
  simp only [Walk.step, Bool.not_eq_false] at stepped reserved
  simp only [reserved, ↓reduceIte] at stepped
  split at stepped <;> cases stepped

/-- Without marks among the names, no response key looks like a mark. -/
theorem Unmarked.plain (unmarked : document.Unmarked)
    (clear : (document.compile custom).obstacle = none) :
    ∀ definition ∈ document.definitions, Selection.Plain definition.selections := by
  intro definition inside head below
  have member : head ∈ document.heads := List.mem_flatMap.mpr ⟨definition, inside, below⟩
  rw [FieldHead.responseKey]
  cases named : head.aliasName with
  | none => exact unreserved clear head member
  | some name => exact unmarked head member name named

theorem Unmarked.plain_roots (unmarked : document.Unmarked)
    (clear : (document.compile custom).obstacle = none) :
    Selection.Plain document.rootSelections := by
  intro head below
  obtain ⟨selection, member, own⟩ := Selection.mem_headsOf.mp below
  obtain ⟨operation, defined, member⟩ := operation_of_root member
  exact unmarked.plain clear _ defined head (Selection.mem_headsOf.mpr ⟨selection, member, own⟩)

theorem Unmarked.plain_fragment (unmarked : document.Unmarked)
    (clear : (document.compile custom).obstacle = none) :
    ∀ shared ∈ document.fragments, Selection.Plain shared.selections :=
  fun _ inside => unmarked.plain clear _ (definition_of_fragment inside)

end Document

/-! ## Types below a node -/

namespace Node

/-- All relations of a node lead to nodes that are typed throughout. -/
def TypedBelow (node : Node) : Prop :=
  ∀ key entries, (key, Entry.relation entries) ∈ node → Node.Typed entries

/-- Fragments that have no type of their own, and are typed throughout below. -/
def Spread.Untyped (resolve : String → Spread) : Prop :=
  ∀ name fragment, resolve name = .inlined fragment →
    OrderedMap.get? fragment Mark.typeName = none ∧ Node.TypedBelow fragment

private theorem typedBelow_inlineSpreads {resolve : String → Spread}
    (untyped : Spread.Untyped resolve) {node : Node}
    (each : ∀ key entries, (key, Entry.relation entries) ∈ node →
      Node.Typed entries ∧ (Node.inlineSpreads resolve entries).Typed) :
    (node.inlineSpreads resolve).TypedBelow := by
  intro key entries member
  obtain ⟨below, inside, rfl⟩ | ⟨name, fragment, _, _, inlined, inside⟩ :=
    relation_of_mem_inlineSpreads member
  · obtain ⟨own, changed⟩ := each key below inside
    split
    · exact own
    · exact changed
  · exact (untyped name fragment inlined).2 key entries inside

/-- Inlining such fragments keeps a node typed throughout. -/
theorem Typed.inlineSpreads {resolve : String → Spread} (untyped : Spread.Untyped resolve)
    {node : Node} (typed : node.Typed) : (node.inlineSpreads resolve).Typed := by
  induction typed with
  | intro label inside ih =>
    rename_i node name
    have same := get?_inlineSpreads (by decide) (fun name fragment inlined =>
      (untyped name fragment inlined).1) node
    have kept : (node.inlineSpreads resolve).typeLabel = .text name := by
      rw [← label, typeLabel, typeLabel, typeName, typeName, mark, mark, same]
    exact .intro kept (typedBelow_inlineSpreads untyped fun key entries member =>
      ⟨inside key entries member, ih key entries member⟩)

theorem TypedBelow.inlineSpreads {resolve : String → Spread} (untyped : Spread.Untyped resolve)
    {node : Node} (typed : node.TypedBelow) : (node.inlineSpreads resolve).TypedBelow :=
  typedBelow_inlineSpreads untyped fun key entries member =>
    ⟨typed key entries member, (typed key entries member).inlineSpreads untyped⟩

/-- So does inlining fragments that were written so. -/
theorem Typed.expand {fragments : FragmentMap}
    (untyped : ∀ name fragment, OrderedMap.get? fragments name = some fragment →
      OrderedMap.get? fragment Mark.typeName = none ∧ fragment.TypedBelow)
    (depth : Nat) (opened : List String) {node : Node} (typed : node.Typed) :
    (Node.expand fragments depth opened node).Typed := by
  refine (expand_induction (motive := fun written node =>
    (OrderedMap.get? written Mark.typeName = none ∧ written.TypedBelow →
      OrderedMap.get? node Mark.typeName = none ∧ node.TypedBelow) ∧
    (written.Typed → node.Typed)) ?_ depth opened node).2 typed
  intro depth opened node inside
  have kept : Spread.Untyped (Node.spread fragments depth opened) := fun name fragment inlined => by
    obtain ⟨written, found, brought, _⟩ := inside name fragment inlined
    exact brought (untyped name written found)
  refine ⟨fun ⟨unmarked, below⟩ => ⟨?_, below.inlineSpreads kept⟩,
    fun typed => typed.inlineSpreads kept⟩
  rw [get?_inlineSpreads (by decide) fun name fragment inlined => (kept name fragment inlined).1]
  exact unmarked

end Node

namespace Fragment

variable (shared : Fragment) (custom : Option String)

/-- The relations of a fragment are typed throughout if its names are plain. -/
theorem node_typedBelow (plain : Selection.Plain shared.selections) :
    (shared.node custom).TypedBelow := by
  intro key entries member
  obtain ⟨field, last, rfl⟩ := shared.relation_of_mem_node custom member
  exact field.1.node_typed custom (plain.last? last).2.typed

end Fragment

namespace Document

variable {document : Document} {custom : Option String}

/-- The roots of a document without marks among its names can be looked up and filed. -/
theorem Unmarked.ready (unmarked : document.Unmarked)
    (clear : (document.compile custom).obstacle = none) (name : Option String) :
    ∀ root ∈ (document.compile custom).prototype,
      root.2.Typed ∧ ∃ key, root.2.queryKey name = .ok (.text key) := by
  intro root member
  obtain ⟨field, last, same⟩ := root_of_mem clear member
  have plain := ((unmarked.plain_roots clear).last? last).2
  rw [same]
  exact ⟨field.1.node_typed custom plain.typed,
    field.1.queryKey_text custom (plain.unmarked (by decide)) name⟩

/-- So can they when fragments have been inlined. -/
theorem Unmarked.expanded_ready (unmarked : document.Unmarked)
    (clear : (document.compile custom).obstacle = none) (name : Option String) :
    ∀ root ∈ document.expanded custom,
      root.2.Typed ∧ ∃ key, root.2.queryKey name = .ok (.text key) := by
  have written : ∀ name fragment,
      OrderedMap.get? (document.compile custom).fragments name = some fragment →
      ∃ shared : Fragment, Selection.Plain shared.selections ∧ fragment = shared.node custom := by
    intro name fragment found
    obtain ⟨shared, defined, rfl⟩ := fragment_of_compiled clear found
    exact ⟨shared, unmarked.plain_fragment clear shared defined, rfl⟩
  intro root member
  obtain ⟨own, inside, rfl⟩ := List.mem_map.mp member
  obtain ⟨typed, key, keyed⟩ := unmarked.ready clear name own inside
  constructor
  · refine typed.expand (fun name fragment found => ?_) _ _
    obtain ⟨shared, plain, rfl⟩ := written name fragment found
    exact ⟨Fragment.get?_node_absent (plain.absent (by decide)),
      shared.node_typedBelow custom plain⟩
  · refine ⟨key, ?_⟩
    rw [← keyed]
    refine Node.queryKey_congr (fun mark marked =>
      Node.get?_expand (Node.reserved_of_markNames marked) ?_ ..) name
    intro name fragment found
    obtain ⟨shared, plain, rfl⟩ := written name fragment found
    exact Fragment.get?_node_absent (plain.absent (Node.reserved_of_markNames marked))

end Document

theorem Countries.unmarked : Countries.document.Unmarked := by
  simp [Document.Unmarked, Document.heads, Countries.document, Countries.operation,
    Definition.selections, Selection.headsOf, Selection.heads]

end GraphCache
