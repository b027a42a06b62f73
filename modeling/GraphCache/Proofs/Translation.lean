import GraphCache.Proofs.OrderedMap
import GraphCache.Prototype.Compile

/-! A document that compiles is translated by plain recursion. The walk works on
one stack, one table of marks and two trees, and it writes a node before the
relations below it are met. Wherever it stands, the tree that it writes is the
tree it found with one unfinished node at its path; visiting a selection set only
finishes that node. The result is therefore the structural translation, in which
the node of a field depends on nothing but the field itself. -/
namespace GraphCache

/-! ## The structural translation -/

/-- The names a field requests directly, under the field's own marks. -/
def FieldHead.opening (head : FieldHead) (custom : Option String) (selections : List Selection) :
    Node :=
  OrderedMap.overlay (Node.ofNames (Selection.offered selections)) (head.marks custom)

/-- Sets relations in a node, one after the other. -/
def Node.withRelations (node : Node) (relations : List (String × Node)) : Node :=
  OrderedMap.overlay node (relations.map fun relation => (relation.1, .relation relation.2))

mutual

/-- The node of a field that has a selection set, under the field's response key. -/
def Selection.relations (custom : Option String) : Selection → List (String × Node)
  | .relation head selections =>
    [(head.responseKey,
      (head.opening custom selections).withRelations (Selection.relationsOf custom selections))]
  | .leaf _ => []
  | .spread .. => []
  | .inlineFragment .. => []

/-- The nodes of all fields of a selection set that have one of their own, in order. -/
def Selection.relationsOf (custom : Option String) : List Selection → List (String × Node)
  | [] => []
  | selection :: rest => selection.relations custom ++ Selection.relationsOf custom rest

end

namespace Document

/-- The operations of a document, in order. -/
def operations (document : Document) : List Operation :=
  document.definitions.filterMap fun definition =>
    match definition with
    | .operation operation => some operation
    | _ => none

/-- The fragments of a document, in order. -/
def fragments (document : Document) : List Fragment :=
  document.definitions.filterMap fun definition =>
    match definition with
    | .fragment shared => some shared
    | _ => none

/-- The root nodes of all operations: of several under one key the last one. -/
def translatedRoots (document : Document) (custom : Option String) : Prototype :=
  OrderedMap.ofList
    (document.operations.flatMap fun operation => Selection.relationsOf custom operation.selections)

end Document

/-- The node of a fragment: its own leaf fields, then its relations. -/
def Fragment.node (shared : Fragment) (custom : Option String) : Node :=
  (Node.ofNames (Selection.leafKeys shared.selections)).withRelations
    (Selection.relationsOf custom shared.selections)

/-- The nodes of all fragments: of several with one name the last one. -/
def Document.translatedFragments (document : Document) (custom : Option String) : FragmentMap :=
  OrderedMap.ofList (document.fragments.map fun shared => (shared.name, shared.node custom))

@[simp] theorem Node.withRelations_nil (node : Node) : node.withRelations [] = node := rfl

theorem Node.withRelations_append (node : Node) (first second : List (String × Node)) :
    node.withRelations (first ++ second) = (node.withRelations first).withRelations second := by
  simp [Node.withRelations, OrderedMap.overlay_append]

/-! ## Writing below a node that was just written -/

private theorem node_write_below (node record below : Node) (path : List String) (key : String)
    (inside : path ≠ []) :
    Node.writeAt (Node.writeAt node path record) (path ++ [key]) below =
      Node.writeAt node path (OrderedMap.insert record key (.relation below)) := by
  induction path generalizing node with
  | nil => exact absurd rfl inside
  | cons first rest ih =>
    cases rest with
    | nil =>
      simp [Node.writeAt, OrderedMap.get?_insert_self, OrderedMap.insert_insert_self]
    | cons second later =>
      simp only [Node.writeAt, List.cons_append, OrderedMap.get?_insert_self,
        OrderedMap.insert_insert_self]
      exact congrArg (fun inner => OrderedMap.insert node first (.relation inner))
        (ih _ (by simp))

private theorem prototype_write_below (prototype : Prototype) (record below : Node)
    (path : List String) (key : String) (inside : path ≠ []) :
    Prototype.writeAt (Prototype.writeAt prototype path record) (path ++ [key]) below =
      Prototype.writeAt prototype path (OrderedMap.insert record key (.relation below)) := by
  cases path with
  | nil => exact absurd rfl inside
  | cons root rest =>
    cases rest with
    | nil =>
      simp [Prototype.writeAt, Node.writeAt, OrderedMap.get?_insert_self,
        OrderedMap.insert_insert_self]
    | cons second later =>
      have tail := node_write_below ((OrderedMap.get? prototype root).getD []) record below
        (second :: later) key (by simp)
      simp only [List.cons_append] at tail
      simp only [Prototype.writeAt, List.cons_append, OrderedMap.get?_insert_self,
        OrderedMap.insert_insert_self, Option.getD_some, tail]

namespace Walk

/-- The walk at another place, with another table of marks. -/
def moved (walk : Walk) (stack : List String) (marks : OrderedMap (List String) Node) : Walk :=
  { walk with stack := stack, marks := marks }

@[simp] theorem write_stack (walk : Walk) (record : Node) :
    (walk.write record).stack = walk.stack := by
  unfold write
  split <;> rfl

@[simp] theorem write_marks (walk : Walk) (record : Node) :
    (walk.write record).marks = walk.marks := by
  unfold write
  split <;> rfl

@[simp] theorem write_kind (walk : Walk) (record : Node) :
    (walk.write record).kind = walk.kind := by
  unfold write
  split <;> rfl

@[simp] theorem moved_stack (walk : Walk) (stack : List String)
    (marks : OrderedMap (List String) Node) : (walk.moved stack marks).stack = stack := rfl

@[simp] theorem moved_marks (walk : Walk) (stack : List String)
    (marks : OrderedMap (List String) Node) : (walk.moved stack marks).marks = marks := rfl

@[simp] theorem moved_moved (walk : Walk) (first second : List String)
    (old marks : OrderedMap (List String) Node) :
    (walk.moved first old).moved second marks = walk.moved second marks := rfl

/-- Writing a node and then a relation below it is writing the node with that relation. -/
theorem write_below (walk : Walk) (node record : Node) (key : String)
    (marks : OrderedMap (List String) Node) (inside : walk.stack ≠ []) :
    ((walk.write node).moved (key :: walk.stack) marks).write record =
      (walk.write (OrderedMap.insert node key (.relation record))).moved (key :: walk.stack) marks := by
  have nonempty : walk.stack.reverse ≠ [] := by simpa using inside
  cases fragment : walk.inFragment <;>
    simp [write, moved, path, fragment, prototype_write_below _ _ _ _ _ nonempty]

/-- Writing at the path of a root sets the root. -/
theorem write_root (walk : Walk) (record : Node) (key : String)
    (marks : OrderedMap (List String) Node) (outside : walk.inFragment = false) :
    (walk.moved [key] marks).write record =
      { walk with
        prototype := OrderedMap.insert walk.prototype key record
        stack := [key]
        marks := marks } := by
  simp [write, moved, path, outside, Prototype.writeAt]

/-! ## Runs that meet no obstacle -/

/-- The visits are made without an obstacle and leave this walk behind. -/
def Passes (custom : Option String) (walk : Walk) (visits : List Visit) (next : Walk) : Prop :=
  Walk.run custom walk visits = (next, none)

theorem passes_nil {custom : Option String} {walk next : Walk} :
    Passes custom walk [] next ↔ next = walk := by
  simp [Passes, Walk.run, eq_comm]

theorem passes_cons {custom : Option String} {walk next : Walk} {visit : Visit}
    {rest : List Visit} :
    Passes custom walk (visit :: rest) next ↔
      ∃ middle, walk.step custom visit = .ok middle ∧ Passes custom middle rest next := by
  cases stepped : walk.step custom visit <;> simp [Passes, Walk.run, stepped]

theorem passes_append {custom : Option String} {walk next : Walk} {first second : List Visit} :
    Passes custom walk (first ++ second) next ↔
      ∃ middle, Passes custom walk first middle ∧ Passes custom middle second next := by
  induction first generalizing walk with
  | nil => simp [passes_nil]
  | cons visit rest ih =>
    simp only [List.cons_append, passes_cons, ih]
    constructor
    · rintro ⟨one, stepped, two, before, after⟩
      exact ⟨two, ⟨one, stepped, before⟩, after⟩
    · rintro ⟨two, ⟨one, stepped, before⟩, after⟩
      exact ⟨one, stepped, two, before, after⟩

/-- A field that is no obstacle is entered, and its marks are filed under its place. -/
theorem step_field {custom : Option String} {walk next : Walk} {head : FieldHead}
    (stepped : walk.step custom (.field head) = .ok next) :
    next = walk.moved (head.responseKey :: walk.stack)
      (OrderedMap.insert walk.marks (head.responseKey :: walk.stack) (head.marks custom)) := by
  simp only [step, meet] at stepped
  split at stepped
  · cases stepped
  · split at stepped
    · cases stepped
    · split at stepped
      · cases stepped
      · cases stepped
        rfl

/-- At a selection set the names below a field are written under the field's marks. -/
theorem step_selectionSet {custom : Option String} {walk next : Walk} {offered : List String}
    (stepped : walk.step custom (.selectionSet offered) = .ok next) :
    next = walk.write (OrderedMap.overlay (Node.ofNames offered)
      ((OrderedMap.get? walk.marks walk.stack).getD [])) := by
  simp only [step, meet] at stepped
  split at stepped
  · cases stepped
  · cases stepped
    rfl

theorem step_endField {custom : Option String} {walk next : Walk}
    (stepped : walk.step custom .endField = .ok next) :
    next = walk.moved (walk.stack.drop 1) walk.marks := by
  cases stepped
  rfl

theorem step_other {custom : Option String} {walk next : Walk} {directives : List Directive}
    (stepped : walk.step custom (.other directives) = .ok next) : next = walk := by
  simp only [step, meet] at stepped
  split at stepped
  · cases stepped
  · cases stepped
    rfl

/-- Places without a node of their own leave the walk as it is. -/
theorem passes_others {custom : Option String} {walk next : Walk} {lists : List (List Directive)}
    (passes : Passes custom walk (lists.map .other) next) : next = walk := by
  induction lists with
  | nil => exact passes_nil.mp passes
  | cons directives rest ih =>
    obtain ⟨middle, stepped, later⟩ := passes_cons.mp passes
    rw [step_other stepped] at later
    exact ih later

/-- Entering a relation writes the names below it, under its own marks, at its place. -/
theorem passes_opening {custom : Option String} {walk next : Walk} {head : FieldHead}
    {selections : List Selection}
    (passes : Passes custom walk
      [.field head, .selectionSet (Selection.offered selections)] next) :
    ∃ marks, next = (walk.moved (head.responseKey :: walk.stack) marks).write
      (head.opening custom selections) := by
  obtain ⟨entered, fieldStep, rest⟩ := passes_cons.mp passes
  obtain ⟨written, setStep, done⟩ := passes_cons.mp rest
  rw [passes_nil.mp done, step_selectionSet setStep, step_field fieldStep]
  refine ⟨OrderedMap.insert walk.marks (head.responseKey :: walk.stack) (head.marks custom), ?_⟩
  simp [OrderedMap.get?_insert_self, FieldHead.opening]

/-- A leaf is entered and left again; only the table of marks grows. -/
theorem passes_leaf {custom : Option String} {walk next : Walk} {head : FieldHead}
    (passes : Passes custom walk (Selection.leaf head).visits next) :
    ∃ marks, next = walk.moved walk.stack marks := by
  obtain ⟨entered, fieldStep, rest⟩ := passes_cons.mp passes
  obtain ⟨left, endStep, done⟩ := passes_cons.mp rest
  rw [passes_nil.mp done, step_endField endStep, step_field fieldStep]
  exact ⟨_, rfl⟩

/-- A relation is opened, what is selected below it is visited, and its place is left again. -/
theorem passes_relation {custom : Option String} {walk next : Walk} {head : FieldHead}
    {selections : List Selection}
    (passes : Passes custom walk (Selection.relation head selections).visits next) :
    ∃ marks filled,
      Passes custom ((walk.moved (head.responseKey :: walk.stack) marks).write
        (head.opening custom selections)) (Selection.visitsOf selections) filled ∧
      next = filled.moved (filled.stack.drop 1) filled.marks := by
  have split : Passes custom walk
      ([.field head, .selectionSet (Selection.offered selections)] ++
        (Selection.visitsOf selections ++ [.endField])) next := by
    simpa [Selection.visits] using passes
  obtain ⟨opened, opening, rest⟩ := passes_append.mp split
  obtain ⟨filled, below, ending⟩ := passes_append.mp rest
  obtain ⟨left, endStep, done⟩ := passes_cons.mp ending
  obtain ⟨marks, rfl⟩ := passes_opening opening
  exact ⟨marks, filled, below, (passes_nil.mp done).trans (step_endField endStep)⟩

/-- A spread leaves the walk as it is. -/
theorem passes_spread {custom : Option String} {walk next : Walk} {fragment : String}
    {directives : List Directive}
    (passes : Passes custom walk (Selection.spread fragment directives).visits next) :
    next = walk := by
  obtain ⟨left, otherStep, done⟩ := passes_cons.mp passes
  rw [passes_nil.mp done, step_other otherStep]

/-- An inline fragment is always an obstacle. -/
theorem not_passes_inlineFragment {custom : Option String} {walk next : Walk}
    {typeCondition : Option String} {directives : List Directive} {selections : List Selection} :
    ¬Passes custom walk (Selection.inlineFragment typeCondition directives selections).visits
      next := by
  intro passes
  obtain ⟨left, inlineStep, _⟩ := passes_cons.mp passes
  cases inlineStep

mutual

/-- Visiting one selection below a written node adds its relation to that node. The other
tree, the stack and the kind stay; the table of marks only grows. -/
theorem passes_selection (custom : Option String) (walk : Walk) (node : Node)
    (inside : walk.stack ≠ []) (selection : Selection) {next : Walk}
    (passes : Passes custom (walk.write node) selection.visits next) :
    ∃ marks, next =
      (walk.write (node.withRelations (selection.relations custom))).moved walk.stack marks := by
  cases selection with
  | leaf head =>
    obtain ⟨marks, rfl⟩ := passes_leaf passes
    exact ⟨marks, by simp [Selection.relations]⟩
  | relation head selections =>
    obtain ⟨early, filled, below, rfl⟩ := passes_relation passes
    obtain ⟨late, rfl⟩ := passes_selections custom _ _ (by simp) selections below
    refine ⟨late, ?_⟩
    simp only [write_stack, moved_stack, moved_marks, moved_moved, List.drop_one, List.tail_cons,
      write_below walk node _ head.responseKey early inside]
    simp [Selection.relations, Node.withRelations]
  | spread fragment directives =>
    rw [passes_spread passes]
    exact ⟨walk.marks, by cases fragment : walk.inFragment <;>
      simp [Selection.relations, moved, write, fragment]⟩
  | inlineFragment typeCondition directives selections =>
    exact absurd passes not_passes_inlineFragment

/-- Visiting a selection set below a written node adds its relations to that node. -/
theorem passes_selections (custom : Option String) (walk : Walk) (node : Node)
    (inside : walk.stack ≠ []) (selections : List Selection) {next : Walk}
    (passes : Passes custom (walk.write node) (Selection.visitsOf selections) next) :
    ∃ marks, next =
      (walk.write (node.withRelations (Selection.relationsOf custom selections))).moved
        walk.stack marks := by
  cases selections with
  | nil =>
    rw [passes_nil.mp passes]
    exact ⟨walk.marks, by cases fragment : walk.inFragment <;>
      simp [Selection.relationsOf, moved, write, fragment]⟩
  | cons selection rest =>
    obtain ⟨middle, first, later⟩ := passes_append.mp passes
    obtain ⟨early, rfl⟩ := passes_selection custom walk node inside selection first
    have shifted : (walk.write (node.withRelations (selection.relations custom))).moved
        walk.stack early =
          (walk.moved walk.stack early).write
            (node.withRelations (selection.relations custom)) := by
      cases fragment : walk.inFragment <;> simp [write, moved, path, fragment]
    rw [shifted] at later
    obtain ⟨late, rfl⟩ := passes_selections custom (walk.moved walk.stack early)
      (node.withRelations (selection.relations custom)) inside rest later
    refine ⟨late, ?_⟩
    rw [Selection.relationsOf, Node.withRelations_append]
    cases fragment : walk.inFragment <;> simp [write, moved, path, fragment]

end

/-- The roots written and the marks filed by an operation; all else stays. -/
def withRoots (walk : Walk) (roots : List (String × Node))
    (marks : OrderedMap (List String) Node) : Walk :=
  { walk with prototype := OrderedMap.overlay walk.prototype roots, marks := marks }

/-- At the top of an operation the relations of a selection become roots. -/
theorem passes_root (custom : Option String) (walk : Walk) (top : walk.stack = [])
    (outside : walk.inFragment = false) (selection : Selection) {next : Walk}
    (passes : Passes custom walk selection.visits next) :
    ∃ marks, next = walk.withRoots (selection.relations custom) marks := by
  cases selection with
  | leaf head =>
    obtain ⟨marks, rfl⟩ := passes_leaf passes
    exact ⟨marks, by simp [Selection.relations, withRoots, moved]⟩
  | relation head selections =>
    obtain ⟨early, filled, below, rfl⟩ := passes_relation passes
    obtain ⟨late, rfl⟩ := passes_selections custom _ _ (by simp) selections below
    rw [top, write_root walk _ _ _ outside]
    exact ⟨late, by simp [Selection.relations, withRoots, moved, top]⟩
  | spread fragment directives =>
    rw [passes_spread passes]
    exact ⟨walk.marks, by simp [Selection.relations, withRoots]⟩
  | inlineFragment typeCondition directives selections =>
    exact absurd passes not_passes_inlineFragment

theorem passes_roots (custom : Option String) (walk : Walk) (top : walk.stack = [])
    (outside : walk.inFragment = false) (selections : List Selection) {next : Walk}
    (passes : Passes custom walk (Selection.visitsOf selections) next) :
    ∃ marks, next = walk.withRoots (Selection.relationsOf custom selections) marks := by
  induction selections generalizing walk with
  | nil =>
    rw [passes_nil.mp passes]
    exact ⟨walk.marks, by simp [Selection.relationsOf, withRoots]⟩
  | cons selection rest ih =>
    obtain ⟨middle, first, later⟩ := passes_append.mp passes
    obtain ⟨early, rfl⟩ := passes_root custom walk top outside selection first
    obtain ⟨late, rfl⟩ := ih (walk.withRoots (selection.relations custom) early) top outside later
    exact ⟨late, by simp [Selection.relationsOf, withRoots, OrderedMap.overlay_append]⟩

/-- What a definition adds to the roots. -/
def rootsOf (custom : Option String) : Definition → List (String × Node)
  | .operation operation => Selection.relationsOf custom operation.selections
  | _ => []

/-- What a definition adds to the fragments. -/
def fragmentsOf (custom : Option String) : Definition → List (String × Node)
  | .fragment shared => [(shared.name, shared.node custom)]
  | _ => []

/-- An operation adds its roots. -/
private theorem passes_operation (custom : Option String) (walk : Walk) (top : walk.stack = [])
    (operation : Operation) {next : Walk}
    (passes : Passes custom walk (Definition.operation operation).visits next) :
    next.stack = [] ∧
      next.prototype = OrderedMap.overlay walk.prototype
        (Selection.relationsOf custom operation.selections) ∧
      next.fragments = walk.fragments := by
  obtain ⟨started, operationStep, rest⟩ := passes_cons.mp passes
  obtain ⟨declared, parameters, body⟩ := passes_append.mp rest
  have visits : (operation.parameters.map fun parameter => Visit.other parameter.directives) =
      (operation.parameters.map (·.directives)).map .other := by
    simp [Function.comp_def]
  rw [visits] at parameters
  have unchanged : declared = started := passes_others parameters
  simp only [step, meet] at operationStep
  split at operationStep
  · cases operationStep
  split at operationStep
  · cases operationStep
  cases operationStep
  subst unchanged
  obtain ⟨marks, rfl⟩ := passes_roots custom
    { walk with inFragment := false, kind := some operation.kind } top rfl
    operation.selections body
  exact ⟨top, rfl, rfl⟩

/-- A fragment is written under its name, first with its leaves and then with its relations. -/
private theorem passes_fragment (custom : Option String) (walk : Walk) (top : walk.stack = [])
    (shared : Fragment) {next : Walk}
    (passes : Passes custom walk (Definition.fragment shared).visits next) :
    next.stack = [] ∧ next.prototype = walk.prototype ∧
      next.fragments = OrderedMap.insert walk.fragments shared.name (shared.node custom) := by
  obtain ⟨started, fragmentStep, rest⟩ := passes_cons.mp passes
  obtain ⟨filled, body, ending⟩ := passes_append.mp rest
  obtain ⟨left, endStep, done⟩ := passes_cons.mp ending
  cases passes_nil.mp done
  simp only [step, meet] at fragmentStep
  split at fragmentStep
  · cases fragmentStep
  cases fragmentStep
  have opened : { walk with
      inFragment := true
      stack := shared.name :: walk.stack
      fragments := OrderedMap.insert walk.fragments shared.name
        (Node.ofNames (Selection.leafKeys shared.selections)) } =
      ({ walk with inFragment := true, stack := [shared.name] } : Walk).write
        (Node.ofNames (Selection.leafKeys shared.selections)) := by
    simp [write, path, top, Prototype.writeAt]
  rw [opened] at body
  obtain ⟨marks, rfl⟩ := passes_selections custom
    { walk with inFragment := true, stack := [shared.name] } _ (by simp)
    shared.selections body
  cases endStep
  simp [write, moved, path, Prototype.writeAt, Fragment.node]

/-- A definition adds its own roots or its own fragment and leaves the stack empty. -/
theorem passes_definition (custom : Option String) (walk : Walk) (top : walk.stack = [])
    (definition : Definition) {next : Walk} (passes : Passes custom walk definition.visits next) :
    next.stack = [] ∧
      next.prototype = OrderedMap.overlay walk.prototype (rootsOf custom definition) ∧
      next.fragments = OrderedMap.overlay walk.fragments (fragmentsOf custom definition) := by
  cases definition with
  | operation operation => exact passes_operation custom walk top operation passes
  | fragment shared => exact passes_fragment custom walk top shared passes
  | typeSystem directives =>
    rw [passes_others passes]
    exact ⟨top, rfl, rfl⟩

theorem passes_definitions (custom : Option String) (walk : Walk) (top : walk.stack = [])
    (definitions : List Definition) {next : Walk}
    (passes : Passes custom walk (definitions.flatMap Definition.visits) next) :
    next.prototype = OrderedMap.overlay walk.prototype (definitions.flatMap (rootsOf custom)) ∧
      next.fragments = OrderedMap.overlay walk.fragments (definitions.flatMap (fragmentsOf custom)) := by
  induction definitions generalizing walk with
  | nil =>
    rw [passes_nil.mp passes]
    exact ⟨rfl, rfl⟩
  | cons definition rest ih =>
    rw [List.flatMap_cons] at passes
    obtain ⟨middle, first, later⟩ := passes_append.mp passes
    obtain ⟨stack, roots, fragments⟩ := passes_definition custom walk top definition first
    obtain ⟨laterRoots, laterFragments⟩ := ih middle stack later
    rw [laterRoots, laterFragments, roots, fragments]
    simp [OrderedMap.overlay_append]

end Walk

namespace Document

private theorem roots_of_definitions (document : Document) (custom : Option String) :
    document.definitions.flatMap (Walk.rootsOf custom) =
      document.operations.flatMap fun operation =>
        Selection.relationsOf custom operation.selections := by
  unfold operations
  induction document.definitions with
  | nil => rfl
  | cons definition rest ih => cases definition <;> simp [Walk.rootsOf, ih]

private theorem fragments_of_definitions (document : Document) (custom : Option String) :
    document.definitions.flatMap (Walk.fragmentsOf custom) =
      document.fragments.map fun shared => (shared.name, shared.node custom) := by
  unfold fragments
  induction document.definitions with
  | nil => rfl
  | cons definition rest ih => cases definition <;> simp [Walk.fragmentsOf, ih]

end Document

/-! ## What stands at a path -/

/-- The node of a field with a selection set. -/
def FieldHead.node (head : FieldHead) (custom : Option String) (selections : List Selection) :
    Node :=
  (head.opening custom selections).withRelations (Selection.relationsOf custom selections)

namespace Selection

/-- The fields of a selection set that have one of their own, by response key. -/
def branches (selections : List Selection) : List (String × FieldHead × List Selection) :=
  selections.filterMap fun selection =>
    match selection with
    | .relation head below => some (head.responseKey, head, below)
    | _ => none

/-- The last field under a response key that has a selection set of its own. -/
def last? (selections : List Selection) (key : String) : Option (FieldHead × List Selection) :=
  OrderedMap.get? (branches selections).reverse key

/-- The field at the end of a path, taking the last one under every response key. -/
def fieldAt? : List Selection → List String → Option (FieldHead × List Selection)
  | _, [] => none
  | selections, [key] => last? selections key
  | selections, key :: next :: rest =>
    (last? selections key).bind fun field => fieldAt? field.2 (next :: rest)

theorem relationsOf_eq_map (custom : Option String) (selections : List Selection) :
    relationsOf custom selections =
      (branches selections).map fun branch => (branch.1, branch.2.1.node custom branch.2.2) := by
  induction selections with
  | nil => rfl
  | cons selection rest ih =>
    cases selection <;> simp [relationsOf, relations, branches, ih, FieldHead.node]

theorem relationsOf_append (custom : Option String) (first second : List Selection) :
    relationsOf custom (first ++ second) = relationsOf custom first ++ relationsOf custom second := by
  induction first with
  | nil => rfl
  | cons selection rest ih => simp [relationsOf, ih]

theorem get?_relationsOf_reverse (custom : Option String) (selections : List Selection)
    (key : String) :
    OrderedMap.get? (relationsOf custom selections).reverse key =
      (last? selections key).map fun field => field.1.node custom field.2 := by
  rw [relationsOf_eq_map, ← List.map_reverse, last?]
  exact OrderedMap.get?_map (branches selections).reverse
    (fun _ field => field.1.node custom field.2) key

end Selection

/-- The node at the end of a path of relations. -/
def Node.at? : Node → List String → Option Node
  | node, [] => some node
  | node, key :: rest =>
    match OrderedMap.get? node key with
    | some (.relation entries) => Node.at? entries rest
    | _ => none

/-- The node at the end of a path that begins with a root. -/
def Prototype.at? (prototype : Prototype) : List String → Option Node
  | [] => none
  | root :: rest => (OrderedMap.get? prototype root).bind fun node => node.at? rest

/-- A relation stands where one was set last, and all else is as it was. -/
theorem Node.get?_withRelations (node : Node) (custom : Option String)
    (selections : List Selection) (key : String) :
    OrderedMap.get? (node.withRelations (Selection.relationsOf custom selections)) key =
      ((Selection.last? selections key).map fun field => Entry.relation (field.1.node custom field.2)).or
        (OrderedMap.get? node key) := by
  rw [Node.withRelations, OrderedMap.get?_overlay, ← List.map_reverse]
  congr 1
  exact (OrderedMap.get?_map _ (fun _ => Entry.relation) key).trans
    (by rw [Selection.get?_relationsOf_reverse, Option.map_map]; rfl)

/-- A node without relations holds names and marks only. -/
def Node.Flat (node : Node) : Prop :=
  ∀ entry ∈ node, ∀ entries, entry.2 ≠ .relation entries

theorem Node.flat_ofNames (names : List String) : (Node.ofNames names).Flat := by
  intro entry member entries same
  rcases OrderedMap.mem_of_mem_overlay member with none | written
  · cases none
  · obtain ⟨name, _, rfl⟩ := List.mem_map.mp written
    cases same

theorem FieldHead.flat_marks (head : FieldHead) (custom : Option String) :
    (head.marks custom).Flat := by
  intro entry member entries same
  rcases OrderedMap.mem_of_mem_overlay member with early | late
  · rcases OrderedMap.mem_of_mem_overlay early with first | reserved
    · rw [List.mem_singleton.mp first] at same
      cases same
    · obtain ⟨argument, _, rfl⟩ := List.mem_map.mp reserved
      cases same
  · simp only [List.mem_cons, List.not_mem_nil, or_false] at late
    rcases late with rfl | rfl | rfl | rfl <;> cases same

theorem FieldHead.flat_opening (head : FieldHead) (custom : Option String)
    (selections : List Selection) : (head.opening custom selections).Flat := by
  intro entry member
  rcases OrderedMap.mem_of_mem_overlay member with name | mark
  · exact Node.flat_ofNames _ entry name
  · exact head.flat_marks custom entry mark

/-- In a node that was opened flat the relations are the fields with selections of their own. -/
theorem Node.get?_withRelations_relation {node : Node} (flat : node.Flat) {custom : Option String}
    {selections : List Selection} {key : String} {below : List (String × Entry)} :
    OrderedMap.get? (node.withRelations (Selection.relationsOf custom selections)) key =
        some (.relation below) ↔
      ∃ field, Selection.last? selections key = some field ∧
        field.1.node custom field.2 = below := by
  rw [Node.get?_withRelations]
  cases Selection.last? selections key with
  | some field => simp
  | none =>
    have plain (held : OrderedMap.get? node key = some (.relation below)) : False :=
      flat _ (OrderedMap.mem_of_get?_eq_some held) below rfl
    simpa using plain

/-- A path goes through relations. -/
theorem Node.at?_cons_eq_some {node result : Node} {key : String} {rest : List String} :
    node.at? (key :: rest) = some result ↔
      ∃ below, OrderedMap.get? node key = some (.relation below) ∧
        Node.at? below rest = some result := by
  rw [Node.at?]
  cases OrderedMap.get? node key with
  | none => simp
  | some entry => cases entry <;> simp

/-- Below a node that was opened flat stands what the last field under a key selects. -/
theorem Node.at?_withRelations_cons {node : Node} (flat : node.Flat) (custom : Option String)
    (selections : List Selection) (key : String) (rest : List String) :
    (node.withRelations (Selection.relationsOf custom selections)).at? (key :: rest) =
      (Selection.last? selections key).bind fun field => (field.1.node custom field.2).at? rest := by
  ext result
  rw [Node.at?_cons_eq_some, Option.bind_eq_some_iff]
  constructor
  · rintro ⟨below, found, inside⟩
    obtain ⟨field, last, rfl⟩ := (Node.get?_withRelations_relation flat).mp found
    exact ⟨field, last, inside⟩
  · rintro ⟨field, last, inside⟩
    exact ⟨_, (Node.get?_withRelations_relation flat).mpr ⟨field, last, rfl⟩, inside⟩

/-- So at every path stands exactly the field that is selected there, with the node that its own
selections and marks give it. -/
theorem Node.at?_withRelations {node : Node} (flat : node.Flat) (custom : Option String)
    (selections : List Selection) (key : String) (rest : List String) :
    (node.withRelations (Selection.relationsOf custom selections)).at? (key :: rest) =
      (Selection.fieldAt? selections (key :: rest)).map fun field =>
        field.1.node custom field.2 := by
  induction rest generalizing node selections key with
  | nil =>
    rw [Node.at?_withRelations_cons flat, Selection.fieldAt?]
    cases Selection.last? selections key <;> rfl
  | cons next later ih =>
    rw [Node.at?_withRelations_cons flat, Selection.fieldAt?]
    cases Selection.last? selections key with
    | none => rfl
    | some field => exact ih (field.1.flat_opening custom field.2) field.2 next

namespace Document

/-- The last fragment of a name. -/
def fragment? (document : Document) (name : String) : Option Fragment :=
  document.fragments.reverse.find? (·.name = name)

/-- The selections of all operations, in order. -/
def rootSelections (document : Document) : List Selection :=
  document.operations.flatMap Operation.selections

theorem rootSelections_of_single {document : Document} {operation : Operation}
    (single : document.operations = [operation]) :
    document.rootSelections = operation.selections := by
  simp [rootSelections, single]

theorem definition_of_fragment {document : Document} {shared : Fragment}
    (member : shared ∈ document.fragments) : .fragment shared ∈ document.definitions := by
  obtain ⟨definition, defined, picked⟩ := List.mem_filterMap.mp member
  cases definition <;> cases picked
  exact defined

/-- Whatever is selected at the roots is selected by an operation. -/
theorem operation_of_root {document : Document} {selection : Selection}
    (member : selection ∈ document.rootSelections) :
    ∃ operation, .operation operation ∈ document.definitions ∧ selection ∈ operation.selections := by
  obtain ⟨operation, asked, inside⟩ := List.mem_flatMap.mp member
  obtain ⟨definition, defined, picked⟩ := List.mem_filterMap.mp asked
  cases definition <;> cases picked
  exact ⟨operation, defined, inside⟩

theorem translatedRoots_eq (document : Document) (custom : Option String) :
    document.translatedRoots custom =
      OrderedMap.ofList (Selection.relationsOf custom document.rootSelections) := by
  rw [translatedRoots, rootSelections]
  congr 1
  induction document.operations with
  | nil => rfl
  | cons operation rest ih =>
    rw [List.flatMap_cons, List.flatMap_cons, Selection.relationsOf_append, ih]

theorem get?_translatedRoots (document : Document) (custom : Option String) (root : String) :
    OrderedMap.get? (document.translatedRoots custom) root =
      (Selection.last? document.rootSelections root).map fun field =>
        field.1.node custom field.2 := by
  rw [translatedRoots_eq, OrderedMap.get?_ofList, Selection.get?_relationsOf_reverse]

/-- A root has the node of the last field under its key. -/
theorem mem_translatedRoots {document : Document} {custom : Option String} {root : String × Node}
    (member : root ∈ document.translatedRoots custom) :
    ∃ field, Selection.last? document.rootSelections root.1 = some field ∧
      root.2 = field.1.node custom field.2 := by
  have found := OrderedMap.get?_eq_some_of_mem (OrderedMap.keys_ofList_nodup _) member
  rw [← translatedRoots, get?_translatedRoots, Option.map_eq_some_iff] at found
  obtain ⟨field, last, same⟩ := found
  exact ⟨field, last, same.symm⟩

theorem named_of_fragment? {document : Document} {name : String} {shared : Fragment}
    (defined : document.fragment? name = some shared) :
    shared ∈ document.fragments ∧ shared.name = name := by
  refine ⟨List.mem_reverse.mp (List.mem_of_find?_eq_some defined), ?_⟩
  simpa using List.find?_some defined

theorem get?_translatedFragments (document : Document) (custom : Option String) (name : String) :
    OrderedMap.get? (document.translatedFragments custom) name =
      (document.fragment? name).map (Fragment.node · custom) := by
  rw [translatedFragments, OrderedMap.get?_ofList, ← List.map_reverse, fragment?]
  exact OrderedMap.get?_map_name _ Fragment.name (Fragment.node · custom) name

/-- What stands under a name is the node of the last fragment of that name. -/
theorem get?_translatedFragments_iff {document : Document} {custom : Option String} {name : String}
    {fragment : Node} : OrderedMap.get? (document.translatedFragments custom) name = some fragment ↔
      ∃ shared, document.fragment? name = some shared ∧ shared.node custom = fragment := by
  rw [get?_translatedFragments, Option.map_eq_some_iff]

/-- At every path below a root stands the node of the field that was selected there last. -/
theorem translatedRoots_at? (document : Document) (custom : Option String) (path : List String) :
    (document.translatedRoots custom).at? path =
      (Selection.fieldAt? document.rootSelections path).map fun field =>
        field.1.node custom field.2 := by
  match path with
  | [] => rfl
  | [root] =>
    rw [Prototype.at?, get?_translatedRoots, Selection.fieldAt?]
    cases Selection.last? document.rootSelections root <;> rfl
  | root :: next :: rest =>
    rw [Prototype.at?, get?_translatedRoots, Selection.fieldAt?]
    cases Selection.last? document.rootSelections root with
    | none => rfl
    | some field =>
      exact Node.at?_withRelations (field.1.flat_opening custom field.2) custom field.2 next rest

/-- At every path below a fragment stands the node of the field that the last fragment
of that name selects there. -/
theorem translatedFragments_at? (document : Document) (custom : Option String)
    (name key : String) (rest : List String) :
    Prototype.at? (document.translatedFragments custom) (name :: key :: rest) =
      (document.fragment? name).bind fun shared =>
        (Selection.fieldAt? shared.selections (key :: rest)).map fun field =>
          field.1.node custom field.2 := by
  rw [Prototype.at?, get?_translatedFragments]
  cases document.fragment? name with
  | none => rfl
  | some shared =>
    exact Node.at?_withRelations (Node.flat_ofNames _) custom shared.selections key rest

/-- The trees of a document without an obstacle, as the walk leaves them behind. -/
theorem compiled_trees {document : Document} {custom : Option String}
    (clear : (document.compile custom).obstacle = none) :
    (document.compile custom).prototype = document.translatedRoots custom ∧
      (document.compile custom).fragments = document.translatedFragments custom := by
  have passes : Walk.Passes custom Walk.start document.visits
      (Walk.run custom Walk.start document.visits).1 := Prod.ext rfl clear
  obtain ⟨roots, fragments⟩ := Walk.passes_definitions custom Walk.start rfl
    document.definitions passes
  rw [roots_of_definitions] at roots
  rw [fragments_of_definitions] at fragments
  exact ⟨roots, fragments⟩

/-- A compiled root is named by its last selection. -/
theorem root_of_mem {document : Document} {custom : Option String}
    (clear : (document.compile custom).obstacle = none) {root : String × Node}
    (member : root ∈ (document.compile custom).prototype) :
    ∃ field, Selection.last? document.rootSelections root.1 = some field ∧
      root.2 = field.1.node custom field.2 := by
  rw [(compiled_trees clear).1] at member
  exact mem_translatedRoots member

/-- A compiled fragment is one that the document defines. -/
theorem fragment_of_compiled {document : Document} {custom : Option String}
    (clear : (document.compile custom).obstacle = none) {name : String} {fragment : Node}
    (found : OrderedMap.get? (document.compile custom).fragments name = some fragment) :
    ∃ shared ∈ document.fragments, shared.node custom = fragment := by
  rw [(compiled_trees clear).2] at found
  obtain ⟨shared, defined, same⟩ := get?_translatedFragments_iff.mp found
  exact ⟨shared, (named_of_fragment? defined).1, same⟩

/-- Compiling a document that meets no obstacle is its structural translation: both
trees agree in contents and in the order of their keys. Marks therefore never leak. At
every path, below a root or below a fragment, stands the node of the one field that was
selected there last, with the marks of that field and of no other. -/
theorem compile_eq_translation (document : Document) (custom : Option String)
    (clear : (document.compile custom).obstacle = none) :
    (document.compile custom).prototype = document.translatedRoots custom ∧
      (document.compile custom).fragments = document.translatedFragments custom ∧
      (∀ path, (document.compile custom).prototype.at? path =
        (Selection.fieldAt? document.rootSelections path).map fun field =>
          field.1.node custom field.2) ∧
      ∀ name key rest, Prototype.at? (document.compile custom).fragments (name :: key :: rest) =
        (document.fragment? name).bind fun shared =>
          (Selection.fieldAt? shared.selections (key :: rest)).map fun field =>
            field.1.node custom field.2 := by
  obtain ⟨roots, fragments⟩ := compiled_trees clear
  refine ⟨roots, fragments, fun path => ?_, fun name key rest => ?_⟩
  · rw [roots]
    exact translatedRoots_at? document custom path
  · rw [fragments]
    exact translatedFragments_at? document custom name key rest

/-- A document in which one name stands for two roots, a relation at two depths and a
fragment, each with arguments of its own. -/
def namesakes : Document where
  definitions :=
    [.operation ⟨.query, some "first", [], [],
      [.relation ⟨none, "city", [⟨"id", .int "1"⟩], []⟩
        [.leaf ⟨none, "id", [], []⟩,
         .relation ⟨none, "city", [⟨"near", .string "sea"⟩], []⟩ [.leaf ⟨none, "id", [], []⟩]]]⟩,
     .fragment ⟨"city", "City", [],
      [.leaf ⟨none, "name", [], []⟩,
       .relation ⟨none, "city", [⟨"id", .int "3"⟩], []⟩ [.leaf ⟨none, "id", [], []⟩]]⟩,
     .operation ⟨.query, some "second", [], [],
      [.relation ⟨some "city", "town", [], []⟩
        [.leaf ⟨none, "id", [], []⟩, .spread "city" []]]⟩]

theorem compile_namesakes_eq_translation :
    (namesakes.compile none).obstacle = none ∧
      (namesakes.compile none).prototype = namesakes.translatedRoots none ∧
      (namesakes.compile none).fragments = namesakes.translatedFragments none :=
  have clear : (namesakes.compile none).obstacle = none := by decide
  have translated := compile_eq_translation namesakes none clear
  ⟨clear, translated.1, translated.2.1⟩

end Document

end GraphCache
