import GraphCache.Proofs.Eligibility
import GraphCache.Proofs.RequestKeys
import GraphCache.Proofs.Unmarked

/-! What a further identifier name does to a document. The walk uses it in two places: to choose
among the arguments of a field, and to ask whether a selection set has an identifier. In the
second it only lets more pass, so a document that compiles without the name compiles with it. In
the first it changes a single mark, so the trees are the same but for the identifiers of those
nodes that have an argument of the name. An argument that looks like a mark is none of these:
it is an option, and no identifier is taken from it. -/
namespace GraphCache

/-! ## Identifiers by name -/

/-- The value that a node has for an argument of a name. An empty name is none. -/
def Node.named? (node : Node) (name : String) : Option Json :=
  if name.isEmpty then none else node.argument? name

/-- A node with an identifier in place of its own, if one is given. -/
def Node.withIdentifier (node : Node) : Option Json → Node
  | some value => OrderedMap.insert node Mark.identifier (.literal value)
  | none => node

/-- A node whose identifier is its argument of a name, if it has one. -/
def Node.takeIdentifier (name : String) (node : Node) : Node :=
  node.withIdentifier (node.named? name)

mutual

/-- Lets all nodes of an entry take their identifiers from the arguments of a name. -/
def Entry.identifiedBy (name : String) : Entry → Entry
  | .relation entries => .relation (Node.takeIdentifier name (Entry.fieldsIdentifiedBy name entries))
  | .requested => .requested
  | .literal value => .literal value

def Entry.fieldsIdentifiedBy (name : String) : List (String × Entry) → List (String × Entry)
  | [] => []
  | (key, entry) :: rest => (key, entry.identifiedBy name) :: Entry.fieldsIdentifiedBy name rest

end

/-- A node in which, and below which, every node takes its identifier from its argument of a name
if it has one. All else stays. -/
def Node.identifiedBy (name : String) (node : Node) : Node :=
  Node.takeIdentifier name (Entry.fieldsIdentifiedBy name node)

/-- The nodes of a prototype, or of fragments, identified by a name. -/
def Prototype.identifiedBy (name : String) (prototype : Prototype) : Prototype :=
  prototype.map fun entry => (entry.1, entry.2.identifiedBy name)

theorem Entry.fieldsIdentifiedBy_eq (name : String) (entries : List (String × Entry)) :
    Entry.fieldsIdentifiedBy name entries =
      entries.map fun entry => (entry.1, entry.2.identifiedBy name) := by
  induction entries with
  | nil => rfl
  | cons entry rest ih => rw [Entry.fieldsIdentifiedBy, ih, List.map_cons]

/-- Without relations nothing stands below a node. -/
theorem Node.Flat.fieldsIdentifiedBy {node : Node} (flat : node.Flat) (name : String) :
    Entry.fieldsIdentifiedBy name node = node := by
  rw [Entry.fieldsIdentifiedBy_eq]
  refine (List.map_congr_left fun entry member => ?_).trans (List.map_id node)
  obtain ⟨key, entry⟩ := entry
  cases entry with
  | relation entries => exact absurd rfl (flat _ member entries)
  | requested => rfl
  | literal value => rfl

/-- Relations that are set in a node are below it. -/
theorem Node.fieldsIdentifiedBy_withRelations {node : Node} (flat : node.Flat) (name : String)
    (relations : List (String × Node)) :
    Entry.fieldsIdentifiedBy name (node.withRelations relations) =
      node.withRelations (Prototype.identifiedBy name relations) := by
  rw [Entry.fieldsIdentifiedBy_eq, withRelations, withRelations, ← OrderedMap.overlay_map,
    ← Entry.fieldsIdentifiedBy_eq name node, flat.fieldsIdentifiedBy, Prototype.identifiedBy,
    List.map_map, List.map_map]
  rfl

/-! ## Compiled nodes -/

section Nodes
variable (name : String)

theorem Node.named?_congr {one two : Node}
    (same : OrderedMap.get? one Mark.arguments = OrderedMap.get? two Mark.arguments) :
    one.named? name = two.named? name := by
  rw [named?, named?, argument?, argument?, arguments, arguments, mark, mark, same]

/-- A further name is asked for first. -/
theorem firstIdentifier?_some {α : Type} (entries : OrderedMap String α) :
    firstIdentifier? entries (some name) =
      (if name.isEmpty then none else entries.get? name).or (firstIdentifier? entries none) := by
  rw [firstIdentifier?, firstIdentifier?, identifierNames, identifierNames]
  cases name.isEmpty with
  | true => rfl
  | false =>
    rw [if_neg Bool.false_ne_true, if_neg Bool.false_ne_true, List.findSome?_cons]
    cases entries.get? name <;> rfl

/-- The identifier is written before the other marks of a field, and nothing else among them depends
on the name. -/
private theorem FieldHead.marks_eq (head : FieldHead) : ∃ written above : Node,
    Mark.identifier ∉ OrderedMap.keys above ∧ ∀ custom, head.marks custom =
      OrderedMap.overlay (OrderedMap.insert written Mark.identifier
        (.literal ((firstIdentifier? head.given custom).getD .null))) above :=
  ⟨_, [(Mark.typeName, _), (Mark.aliasName, _), (Mark.arguments, _)],
    show Mark.identifier ∉ [Mark.typeName, Mark.aliasName, Mark.arguments] by decide, fun _ => rfl⟩

/-- The marks of a field with a further name differ in the identifier only. -/
theorem FieldHead.marks_some (head : FieldHead) :
    head.marks (some name) = Node.takeIdentifier name (head.marks none) := by
  have named : Node.named? (head.marks none) name =
      if name.isEmpty then none else OrderedMap.get? head.given name := by
    rw [Node.named?, argument?_marks]
  obtain ⟨written, above, absent, marks⟩ := head.marks_eq
  rw [Node.takeIdentifier, named, marks, marks, firstIdentifier?_some]
  cases (if name.isEmpty then none else OrderedMap.get? head.given name) with
  | none => rfl
  | some value =>
    have present (entry : Entry) :
        Mark.identifier ∈ OrderedMap.keys (OrderedMap.insert written Mark.identifier entry) :=
      (OrderedMap.mem_keys_insert ..).mpr (.inl rfl)
    rw [Option.some_or, Option.getD_some, Node.withIdentifier,
      ← OrderedMap.overlay_insert_of_mem (present _) absent, OrderedMap.insert_insert_self]

/-- So do the names that it requests, under these marks. -/
theorem FieldHead.opening_some (head : FieldHead) (selections : List Selection) :
    head.opening (some name) selections =
      Node.takeIdentifier name (head.opening none selections) := by
  have same : OrderedMap.get? (head.opening none selections) Mark.arguments =
      OrderedMap.get? (head.marks none) Mark.arguments := by
    obtain ⟨value, marked, _⟩ := head.get?_marks_arguments none
    rw [opening, OrderedMap.get?_overlay_of_nodup (head.keys_marks_nodup none), marked]
    rfl
  rw [opening, marks_some, Node.takeIdentifier, Node.takeIdentifier, Node.named?_congr name same]
  cases Node.named? (head.marks none) name with
  | none => rfl
  | some value => exact OrderedMap.overlay_insert _ (head.keys_marks_nodup none) _ _

/-- Setting relations under plain keys leaves it to identify a node before or after. -/
theorem Node.takeIdentifier_withRelations {node : Node} {relations : List (String × Node)}
    (plain : ∀ relation ∈ relations, isReserved relation.1 = false)
    (marked : node.named? name ≠ none → Mark.identifier ∈ OrderedMap.keys node) :
    (node.withRelations relations).takeIdentifier name =
      (node.takeIdentifier name).withRelations relations := by
  have absent {key : String} (reserved : isReserved key = true) :
      key ∉ OrderedMap.keys
        (relations.map fun relation => (relation.1, Entry.relation relation.2)) := by
    intro member
    simp only [OrderedMap.keys, List.map_map, List.mem_map, Function.comp_apply] at member
    obtain ⟨relation, inside, rfl⟩ := member
    rw [plain relation inside] at reserved
    cases reserved
  have same : OrderedMap.get? (node.withRelations relations) Mark.arguments =
      OrderedMap.get? node Mark.arguments := by
    have unwritten := @absent Mark.arguments (by decide)
    rw [← List.mem_reverse, OrderedMap.keys, ← List.map_reverse, ← OrderedMap.keys,
      ← OrderedMap.get?_eq_none_iff] at unwritten
    rw [withRelations, OrderedMap.get?_overlay, unwritten, Option.none_or]
  rw [takeIdentifier, takeIdentifier, named?_congr name same]
  cases named : node.named? name with
  | none => rfl
  | some value =>
    exact (OrderedMap.overlay_insert_of_mem (marked (by simp [named])) (absent (by decide)) _).symm

/-- A node with relations under plain keys is identified where it stands and below. -/
theorem Node.identifiedBy_withRelations {node : Node} (flat : node.Flat)
    {relations : List (String × Node)}
    (plain : ∀ relation ∈ relations, isReserved relation.1 = false)
    (marked : node.named? name ≠ none → Mark.identifier ∈ OrderedMap.keys node) :
    (node.withRelations relations).identifiedBy name =
      (node.takeIdentifier name).withRelations (Prototype.identifiedBy name relations) := by
  rw [identifiedBy, fieldsIdentifiedBy_withRelations flat]
  refine takeIdentifier_withRelations name (fun relation member => ?_) marked
  obtain ⟨own, inside, rfl⟩ := List.mem_map.mp member
  exact plain own inside

theorem Selection.Plain.relationsOf {selections : List Selection} (plain : Plain selections)
    (custom : Option String) :
    ∀ relation ∈ Selection.relationsOf custom selections, isReserved relation.1 = false := by
  intro relation member
  rw [relationsOf_eq_map] at member
  obtain ⟨⟨_, head, below⟩, branch, rfl⟩ := List.mem_map.mp member
  obtain ⟨rfl, inside⟩ := mem_branches.mp branch
  exact plain head (mem_headsOf.mpr ⟨_, inside, List.mem_cons_self⟩)

mutual

private theorem Selection.relations_some (selection : Selection)
    (plain : ∀ head ∈ selection.heads, isReserved head.responseKey = false) :
    selection.relations (some name) = Prototype.identifiedBy name (selection.relations none) := by
  match selection with
  | .leaf head => rfl
  | .spread fragment directives => rfl
  | .inlineFragment condition directives selections => rfl
  | .relation head selections =>
    have below : Selection.Plain selections :=
      fun inner member => plain inner (List.mem_cons_of_mem _ member)
    have marked : Mark.identifier ∈ OrderedMap.keys (head.opening none selections) := by
      obtain ⟨written, above, _, marks⟩ := head.marks_eq
      rw [FieldHead.opening, OrderedMap.mem_keys_overlay, marks, OrderedMap.mem_keys_overlay,
        OrderedMap.mem_keys_insert]
      exact .inr (.inl (.inl rfl))
    rw [Selection.relations, Selection.relations, Prototype.identifiedBy, List.map_singleton,
      Node.identifiedBy_withRelations name (head.flat_opening none selections)
        (below.relationsOf none) fun _ => marked,
      ← head.opening_some name, Selection.relationsOf_some selections below]

/-- The relations of a selection set with plain names differ in identifiers only. -/
theorem Selection.relationsOf_some (selections : List Selection) (plain : Plain selections) :
    Selection.relationsOf (some name) selections =
      Prototype.identifiedBy name (Selection.relationsOf none selections) := by
  match selections with
  | [] => rfl
  | selection :: rest =>
    have own : ∀ head ∈ selection.heads, isReserved head.responseKey = false :=
      fun head member => plain head (List.mem_append_left _ member)
    have later : Plain rest := fun head member => plain head (List.mem_append_right _ member)
    rw [Selection.relationsOf, Selection.relationsOf, Selection.relations_some selection own,
      Selection.relationsOf_some rest later, Prototype.identifiedBy, Prototype.identifiedBy,
      Prototype.identifiedBy, List.map_append]

end

/-- So does a fragment with plain names, which has no arguments of its own. -/
theorem Fragment.node_some (shared : Fragment) (plain : Selection.Plain shared.selections) :
    shared.node (some name) = (shared.node none).identifiedBy name := by
  have bare : Node.named? (Node.ofNames (Selection.leafKeys shared.selections)) name = none := by
    have none :
        Node.argument? (Node.ofNames (Selection.leafKeys shared.selections)) name = none := by
      rw [Node.argument?, Node.arguments, Node.mark, Node.get?_ofNames]
      split <;> rfl
    rw [Node.named?, none, ite_self]
  rw [node, node, Node.identifiedBy_withRelations name (Node.flat_ofNames _)
    (plain.relationsOf none) fun given => absurd bare given, Node.takeIdentifier, bare,
    Selection.relationsOf_some name shared.selections plain]
  rfl

end Nodes

namespace Document

variable {document : Document}

/-- The trees of a document with plain names differ in identifiers only. -/
theorem translatedRoots_some (name : String) (plain : Selection.Plain document.rootSelections) :
    document.translatedRoots (some name) =
      Prototype.identifiedBy name (document.translatedRoots none) := by
  rw [translatedRoots_eq, translatedRoots_eq, Selection.relationsOf_some name _ plain,
    Prototype.identifiedBy, Prototype.identifiedBy, OrderedMap.ofList_map]

theorem translatedFragments_some (name : String)
    (plain : ∀ shared ∈ document.fragments, Selection.Plain shared.selections) :
    document.translatedFragments (some name) =
      Prototype.identifiedBy name (document.translatedFragments none) := by
  rw [translatedFragments, translatedFragments, Prototype.identifiedBy, ← OrderedMap.ofList_map,
    List.map_map]
  congr 1
  exact List.map_congr_left fun shared member =>
    Prod.ext rfl (shared.node_some name (plain shared member))

end Document

/-! ## Obstacles -/

section Obstacles
variable {custom other : Option String} {reason : Reason}

/-- A name matters only where an identifier is missed, and there the more names the better. -/
theorem Selection.Blocks.of_names {selection : Selection} (blocks : selection.Blocks custom reason)
    (fewer : reason = .missingIdentifier → identifierNames other ⊆ identifierNames custom) :
    selection.Blocks other reason := by
  cases blocks with
  | leaf own => exact .leaf own
  | relation own => exact .relation own
  | missingIdentifier missing =>
    exact .missingIdentifier fun name member => missing name (fewer rfl member)
  | spread given => exact .spread given
  | inlineFragment => exact .inlineFragment

namespace Document

variable {document : Document}

theorem Blocks.of_names (blocks : document.Blocks custom reason)
    (fewer : reason = .missingIdentifier → identifierNames other ⊆ identifierNames custom) :
    document.Blocks other reason := by
  obtain ⟨definition, member, blocks⟩ := blocks
  refine ⟨definition, member, ?_⟩
  cases blocks with
  | operation given => exact .operation given
  | subscription kind => exact .subscription kind
  | parameter inside given => exact .parameter inside given
  | requested within own => exact .requested within (own.of_names fewer)
  | fragment given => exact .fragment given
  | shared within own => exact .shared within (own.of_names fewer)
  | typeSystem inside given => exact .typeSystem inside given

theorem kind_of_clear (clear : (document.compile custom).obstacle = none) :
    (document.compile custom).kind = document.operations.getLast?.map Operation.kind := by
  rw [obstacle_eq, List.head?_eq_none_iff] at clear
  exact (compile_meets document custom).kind clear

end Document
end Obstacles

theorem conventionalNames_subset (name : String) :
    identifierNames none ⊆ identifierNames (some name) := by
  intro conventional member
  rw [identifierNames]
  split
  · exact member
  · exact List.mem_cons_of_mem _ member

namespace Document

variable {document : Document}

/-- A document that compiles without a further identifier name compiles with any. Its kind is the
same, and so are its trees, except that a node with an argument of that name takes its
identifier from there. A document that compiles only with the name lacks an identifier without it. -/
theorem compile_widened (unmarked : document.Unmarked) (name : String) :
    ((document.compile none).obstacle = none →
      (document.compile (some name)).obstacle = none ∧
        (document.compile (some name)).kind = (document.compile none).kind ∧
        (document.compile (some name)).prototype =
          Prototype.identifiedBy name (document.compile none).prototype ∧
        (document.compile (some name)).fragments =
          Prototype.identifiedBy name (document.compile none).fragments) ∧
    ((document.compile (some name)).obstacle = none →
      ∀ obstacle, (document.compile none).obstacle = some obstacle →
        obstacle.reason = .missingIdentifier) := by
  constructor
  · intro clear
    have widened : (document.compile (some name)).obstacle = none :=
      obstacle_eq_none_iff.mpr fun reason blocks => obstacle_eq_none_iff.mp clear reason
        (blocks.of_names fun _ => conventionalNames_subset name)
    obtain ⟨roots, fragments⟩ := compiled_trees clear
    obtain ⟨roots', fragments'⟩ := compiled_trees widened
    refine ⟨widened, (kind_of_clear widened).trans (kind_of_clear clear).symm, ?_, ?_⟩
    · rw [roots, roots', translatedRoots_some name (unmarked.plain_roots clear)]
    · rw [fragments, fragments', translatedFragments_some name (unmarked.plain_fragment clear)]
  · intro widened obstacle met
    have blocks : document.Blocks none obstacle.reason := by
      rw [obstacle_eq] at met
      exact mem_obstacles.mp (List.mem_map_of_mem (List.mem_of_mem_head? met))
    by_contra other
    exact obstacle_eq_none_iff.mp widened _ (blocks.of_names fun missing => absurd missing other)

end Document

namespace Widened

/-- A request for a country by its code, without any conventional identifier below it. -/
def document : Document where
  definitions := [.operation ⟨.query, none, [], [],
    [.relation ⟨none, "country", [⟨"code", .string "PE"⟩], []⟩
      [.leaf ⟨none, "id", [], []⟩, .leaf ⟨none, "code", [], []⟩]]⟩]

/-- A request with an option, which looks like a mark. -/
def withOption : Document where
  definitions := [.operation ⟨.query, none, [], [],
    [.relation ⟨none, "country", [⟨"__ref", .int "5"⟩], []⟩ [.leaf ⟨none, "id", [], []⟩]]⟩]

end Widened

open Widened in
/-- With the name for the code the country is identified by its code. -/
theorem Document.compile_widened_country :
    document.Unmarked ∧ (document.compile none).obstacle = none ∧
      (document.compile (some "code")).prototype =
        Prototype.identifiedBy "code" (document.compile none).prototype := by
  have unmarked : document.Unmarked := by
    simp [Document.Unmarked, Document.heads, document, Definition.selections, Selection.headsOf,
      Selection.heads]
  have clear : (document.compile none).obstacle = none := by decide
  exact ⟨unmarked, clear, ((compile_widened unmarked "code").1 clear).2.2.1⟩

open Widened in
/-- An option of the name is no identifier. -/
theorem Document.option_no_identifier :
    withOption.Unmarked ∧ (withOption.compile none).isCacheable = true ∧
      ∃ head selections node,
        Selection.last? withOption.rootSelections "country" = some (head, selections) ∧
        (⟨"__ref", .int "5"⟩ : Argument) ∈ head.arguments ∧
        OrderedMap.get? (withOption.compile (some "__ref")).prototype "country" = some node ∧
        Node.identifier node ≠ (Literal.int "5").argumentValue := by
  have unmarked : withOption.Unmarked := by
    simp [Document.Unmarked, Document.heads, withOption, Definition.selections, Selection.headsOf,
      Selection.heads]
  have identified : (OrderedMap.get? (withOption.compile (some "__ref")).prototype "country").map
      Node.identifier = some .null := by decide
  obtain ⟨node, found, null⟩ := Option.map_eq_some_iff.mp identified
  refine ⟨unmarked, by decide, _, _, node, rfl, List.mem_singleton_self _, found, ?_⟩
  rw [null]
  decide

end GraphCache
