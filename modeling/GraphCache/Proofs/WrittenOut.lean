import GraphCache.Proofs.Eligibility
import GraphCache.Proofs.Outlines
import GraphCache.Proofs.Routing

/-! A document in which every spread has been replaced by what the fragment selects. It has the
fields of the document and those of its fragments, so it is of the same kind and no more of
its names look like marks. Where no field is repeated beside a spread, a relation of the
document is a relation there too, with its own selections written out. Two roots therefore
have one outline if they request the same names at every path. -/
namespace GraphCache

/-! ## Writing out spreads -/

mutual

/-- A selection without the spreads of known fragments. What is written in place of a spread is
not searched for further spreads. -/
def Selection.writtenOut (shared : String → Option (List Selection)) : Selection → List Selection
  | .leaf head => [.leaf head]
  | .relation head selections => [.relation head (Selection.allWrittenOut shared selections)]
  | .spread fragment directives => (shared fragment).getD [.spread fragment directives]
  | .inlineFragment condition directives selections =>
    [.inlineFragment condition directives (Selection.allWrittenOut shared selections)]

def Selection.allWrittenOut (shared : String → Option (List Selection)) :
    List Selection → List Selection
  | [] => []
  | selection :: rest => selection.writtenOut shared ++ Selection.allWrittenOut shared rest

end

/-- A definition with the spreads of its operation written out. Fragments stay as they are. -/
def Definition.writtenOut (shared : String → Option (List Selection)) : Definition → Definition
  | .operation request =>
    .operation { request with selections := Selection.allWrittenOut shared request.selections }
  | .fragment shared => .fragment shared
  | .typeSystem directives => .typeSystem directives

namespace Document

/-- What a fragment of a document selects. -/
def selectionsOf (document : Document) (name : String) : Option (List Selection) :=
  (document.fragment? name).map Fragment.selections

/-- A document with every spread in its operations replaced by what the fragment selects. -/
def writtenOut (document : Document) : Document :=
  ⟨document.definitions.map (Definition.writtenOut document.selectionsOf)⟩

end Document

namespace Selection

variable {shared : String → Option (List Selection)}

theorem allWrittenOut_eq (selections : List Selection) :
    allWrittenOut shared selections = selections.flatMap (writtenOut shared) := by
  induction selections with
  | nil => rfl
  | cons selection rest ih => rw [allWrittenOut, ih, List.flatMap_cons]

theorem allWrittenOut_append (first second : List Selection) :
    allWrittenOut shared (first ++ second) =
      allWrittenOut shared first ++ allWrittenOut shared second := by
  simp [allWrittenOut_eq]

theorem mem_allWrittenOut {selections : List Selection} {selection : Selection} :
    selection ∈ allWrittenOut shared selections ↔
      ∃ written ∈ selections, selection ∈ written.writtenOut shared := by
  rw [allWrittenOut_eq, List.mem_flatMap]

/-- A relation stays, with what is selected below it written out. -/
theorem relation_writtenOut {selections : List Selection} {head : FieldHead}
    {below : List Selection} (member : .relation head below ∈ selections) :
    .relation head (allWrittenOut shared below) ∈ allWrittenOut shared selections := by
  apply mem_allWrittenOut.mpr
  exact ⟨.relation head below, member, by simp [writtenOut]⟩

mutual

/-- A field of a selection that has been written out is its own or that of a fragment. -/
private theorem heads_writtenOut (selection : Selection) {head : FieldHead}
    (member : head ∈ headsOf (selection.writtenOut shared)) :
    head ∈ selection.heads ∨ ∃ name written, shared name = some written ∧ head ∈ headsOf written := by
  match selection with
  | .leaf own => exact .inl (by simpa [writtenOut, headsOf] using member)
  | .relation own below =>
    have inside : head = own ∨ head ∈ headsOf (allWrittenOut shared below) := by
      simpa [writtenOut, headsOf, heads] using member
    rcases inside with rfl | deeper
    · exact .inl List.mem_cons_self
    · exact (heads_allWrittenOut below deeper).imp_left (List.mem_cons_of_mem _)
  | .spread name directives =>
    cases known : shared name with
    | none => simp [writtenOut, known, headsOf, heads] at member
    | some written =>
      rw [writtenOut, known] at member
      exact .inr ⟨name, written, known, member⟩
  | .inlineFragment condition directives below =>
    have inside : head ∈ headsOf (allWrittenOut shared below) := by
      simpa [writtenOut, headsOf, heads] using member
    exact heads_allWrittenOut below inside

private theorem heads_allWrittenOut (selections : List Selection) {head : FieldHead}
    (member : head ∈ headsOf (allWrittenOut shared selections)) :
    head ∈ headsOf selections ∨
      ∃ name written, shared name = some written ∧ head ∈ headsOf written := by
  match selections with
  | [] => cases member
  | selection :: rest =>
    have parts : head ∈ headsOf (selection.writtenOut shared) ∨
        head ∈ headsOf (allWrittenOut shared rest) := by
      obtain ⟨written, inside, own⟩ := mem_headsOf.mp member
      rw [allWrittenOut] at inside
      rcases List.mem_append.mp inside with early | late
      · exact .inl (mem_headsOf.mpr ⟨written, early, own⟩)
      · exact .inr (mem_headsOf.mpr ⟨written, late, own⟩)
    rw [headsOf, List.mem_append]
    rcases parts with own | later
    · exact (heads_writtenOut selection own).imp_left .inl
    · exact (heads_allWrittenOut rest later).imp_left .inr

end

/-! ## Relations beside a spread -/

/-- A selection set in which no field is repeated beside a spread: where a fragment is spread, all
that is selected there has response keys of its own. -/
inductive Unrepeated (shared : String → Option (List Selection)) : List Selection → Prop where
  | intro {selections : List Selection}
      (apart : ∀ name directives, .spread name directives ∈ selections →
        (responseKeys (allWrittenOut shared selections)).Nodup)
      (inside : ∀ head below, .relation head below ∈ selections → Unrepeated shared below) :
      Unrepeated shared selections

/-- Without spreads the relations are the same, each with what is below it written out. -/
private theorem branches_unspread {selections : List Selection}
    (free : ∀ name directives, Selection.spread name directives ∉ selections) :
    branches (allWrittenOut shared selections) = (branches selections).map fun branch =>
      (branch.1, branch.2.1, allWrittenOut shared branch.2.2) := by
  induction selections with
  | nil => rfl
  | cons selection rest ih =>
    have later := ih fun name directives member =>
      free name directives (List.mem_cons_of_mem _ member)
    simp only [branches] at later
    rw [allWrittenOut, branches, branches, List.filterMap_append, later]
    cases selection with
    | spread name directives => exact absurd List.mem_cons_self (free name directives)
    | leaf head => simp [writtenOut]
    | relation head below => simp [writtenOut]
    | inlineFragment condition directives below => simp [writtenOut]

private theorem last?_unspread {selections : List Selection}
    (free : ∀ name directives, Selection.spread name directives ∉ selections) (key : String) :
    last? (allWrittenOut shared selections) key =
      (last? selections key).map fun field => (field.1, allWrittenOut shared field.2) := by
  rw [last?, branches_unspread free, ← List.map_reverse]
  exact OrderedMap.get?_map (branches selections).reverse
    (fun _ field => (field.1, allWrittenOut shared field.2)) key

/-- The relations beside a spread have response keys of their own. -/
theorem Unrepeated.branches_nodup {selections : List Selection}
    (unrepeated : Unrepeated shared selections) {name : String} {directives : List Directive}
    (spread : .spread name directives ∈ selections) :
    ((branches (allWrittenOut shared selections)).map Prod.fst).Nodup := by
  cases unrepeated with
  | intro apart inside => exact (List.nodup_append.mp (apart name directives spread)).2.1

/-- What is selected last under a key is selected there when spreads are written out. -/
theorem Unrepeated.last? {selections : List Selection} (unrepeated : Unrepeated shared selections)
    {key : String} {field : FieldHead × List Selection}
    (found : Selection.last? selections key = some field) :
    Selection.last? (allWrittenOut shared selections) key =
      some (field.1, allWrittenOut shared field.2) := by
  by_cases spread : ∃ name directives, Selection.spread name directives ∈ selections
  · obtain ⟨name, directives, spread⟩ := spread
    obtain ⟨keyed, member⟩ := mem_branches.mp (mem_of_last? found)
    have written : (key, field.1, allWrittenOut shared field.2) ∈
        branches (allWrittenOut shared selections) :=
      mem_branches.mpr ⟨keyed, relation_writtenOut member⟩
    have unique := unrepeated.branches_nodup spread
    rw [Selection.last?, OrderedMap.get?_reverse_of_nodup unique]
    exact OrderedMap.get?_eq_some_of_mem unique written
  · have free : ∀ name directives, Selection.spread name directives ∉ selections :=
      fun name directives member => spread ⟨name, directives, member⟩
    rw [last?_unspread free, found]
    rfl

theorem Unrepeated.inner {selections : List Selection} (unrepeated : Unrepeated shared selections)
    {key : String} {field : FieldHead × List Selection}
    (found : Selection.last? selections key = some field) : Unrepeated shared field.2 := by
  cases unrepeated with
  | intro apart inside => exact inside _ _ (mem_branches.mp (mem_of_last? found)).2

end Selection

namespace Document

variable {document : Document} {custom : Option String}

theorem operations_writtenOut (document : Document) :
    document.writtenOut.operations = document.operations.map fun request =>
      { request with
        selections := Selection.allWrittenOut document.selectionsOf request.selections } := by
  rw [operations, operations, writtenOut]
  generalize document.selectionsOf = shared
  induction document.definitions with
  | nil => rfl
  | cons definition rest ih =>
    rw [List.map_cons, List.filterMap_cons, List.filterMap_cons, ih]
    cases definition <;> rfl

theorem rootSelections_writtenOut (document : Document) :
    document.writtenOut.rootSelections =
      Selection.allWrittenOut document.selectionsOf document.rootSelections := by
  rw [rootSelections, rootSelections, operations_writtenOut]
  induction document.operations with
  | nil => rfl
  | cons request rest ih =>
    rw [List.map_cons, List.flatMap_cons, List.flatMap_cons, ih, Selection.allWrittenOut_append]

/-- A document that still meets no obstacle is of the same kind. -/
theorem kind_writtenOut (clear : (document.compile custom).obstacle = none)
    (free : (document.writtenOut.compile custom).obstacle = none) :
    (document.writtenOut.compile custom).kind = (document.compile custom).kind := by
  have kind {any : Document} (free : (any.compile custom).obstacle = none) :
      (any.compile custom).kind = any.operations.getLast?.map Operation.kind := by
    rw [obstacle_eq, List.head?_eq_none_iff] at free
    exact (compile_meets any custom).kind free
  rw [kind clear, kind free, operations_writtenOut, List.getLast?_map, Option.map_map]
  rfl

/-- No name looks like a mark that did not before. -/
theorem Unmarked.writtenOut (unmarked : document.Unmarked) : document.writtenOut.Unmarked := by
  intro head member
  apply unmarked head
  obtain ⟨definition, inside, below⟩ := List.mem_flatMap.mp member
  obtain ⟨written, defined, rfl⟩ := List.mem_map.mp inside
  have own (same : head ∈ Selection.headsOf written.selections) : head ∈ document.heads :=
    List.mem_flatMap.mpr ⟨written, defined, same⟩
  cases written with
  | fragment shared => exact own below
  | typeSystem directives => exact own below
  | operation request =>
    rcases Selection.heads_allWrittenOut request.selections below with same | ⟨name, found, known, inside⟩
    · exact own same
    · obtain ⟨shared, named, rfl⟩ := Option.map_eq_some_iff.mp known
      have defined := definition_of_fragment (named_of_fragment? named).1
      exact List.mem_flatMap.mpr ⟨_, defined, inside⟩

end Document

/-! ## One outline -/

namespace FieldHead

variable (head : FieldHead) (custom : Option String) {selections : List Selection}

/-- Below a node stands what the last field under a key selects. -/
theorem at?_node (key : String) (rest : List String) :
    (head.node custom selections).at? (key :: rest) =
      (Selection.last? selections key).bind fun field => (field.1.node custom field.2).at? rest :=
  Node.at?_withRelations_cons (head.flat_opening custom selections) custom selections key rest

theorem marked_of_markNames {key : String} (marked : key ∈ Node.markNames) :
    ∃ value, OrderedMap.get? (head.marks custom) key = some (.literal value) := by
  simp only [Node.markNames, List.mem_cons, List.not_mem_nil, or_false] at marked
  rcases marked with rfl | rfl | rfl
  · exact ⟨_, head.get?_marks_typeName custom⟩
  · rw [marks, OrderedMap.get?_overlay]
    exact ⟨_, rfl⟩
  · obtain ⟨value, found, _⟩ := head.get?_marks_arguments custom
    exact ⟨value, found⟩

/-- The marks of a field do not depend on what is selected below it. -/
theorem readMarks_node (plain : Selection.Plain selections) :
    (head.node custom selections).readMarks = (head.marks custom).readMarks := by
  rw [Node.readMarks, Node.readMarks]
  apply List.filterMap_congr
  intro key marked
  obtain ⟨value, found⟩ := head.marked_of_markNames custom marked
  rw [head.get?_node_mark custom found, plain.unmarked (Node.reserved_of_markNames marked), found]
  rfl

end FieldHead

theorem Node.get?_outlinesOf (node : Node) {key : String} (plain : isReserved key = false) :
    OrderedMap.get? (Entry.outlinesOf node) key =
      (OrderedMap.get? node key).map Entry.outline := by
  rw [outlinesOf_eq, OrderedMap.get?_map node.fields (fun _ => Entry.outline), fields,
    OrderedMap.get?_filter node (fun key => !isReserved key), plain]
  rfl

theorem Node.names_nodup {node : Node} (unique : (OrderedMap.keys node).Nodup) :
    node.names.Nodup :=
  unique.sublist (List.filter_sublist.map Prod.fst)

/-- A name of a node that no relation has is requested. -/
private theorem FieldHead.get?_node_of_names (custom : Option String) (head : FieldHead)
    {selections : List Selection} {key : String}
    (requested : key ∈ (head.node custom selections).names)
    (leaf : Selection.last? selections key = none) :
    OrderedMap.get? (head.node custom selections) key = some .requested := by
  obtain ⟨entry, member, rfl⟩ := List.mem_map.mp requested
  have found := OrderedMap.get?_eq_some_of_mem (head.keys_node_nodup custom selections)
    (Node.mem_fields.mp member).1
  rw [head.get?_node_offered custom selections (Node.plain_of_names requested), leaf] at found ⊢
  split at found
  · rename_i given
    simp [given]
  · cases found

/-- A root has the outline that it has with its spreads written out if both request the same
names at every path. -/
theorem FieldHead.outline_eq (custom : Option String) {shared : String → Option (List Selection)}
    {selections : List Selection} (unrepeated : Selection.Unrepeated shared selections)
    (plain : Selection.Plain selections)
    (plain' : Selection.Plain (Selection.allWrittenOut shared selections)) (head : FieldHead)
    (same : ∀ path, ((head.node custom selections).at? path).map Node.names =
      ((head.node custom (Selection.allWrittenOut shared selections)).at? path).map Node.names) :
    (head.node custom selections).outline =
      (head.node custom (Selection.allWrittenOut shared selections)).outline := by
  induction unrepeated generalizing head with
  | @intro selections apart inside ih =>
    have unrepeated : Selection.Unrepeated shared selections := .intro apart inside
    have names : (head.node custom selections).names =
        (head.node custom (Selection.allWrittenOut shared selections)).names :=
      Option.some.inj (same [])
    rw [Node.outline, Node.outline, head.readMarks_node custom plain,
      head.readMarks_node custom plain']
    congr 1
    apply OrderedMap.ext_of_keys
    · rw [Node.keys_outlinesOf, Node.keys_outlinesOf, names]
    · rw [Node.keys_outlinesOf]
      exact Node.names_nodup (head.keys_node_nodup custom selections)
    intro key requested
    rw [Node.keys_outlinesOf] at requested
    have field := Node.plain_of_names requested
    have requested' := names ▸ requested
    have below (rest : List String) := same (key :: rest)
    simp only [head.at?_node custom] at below
    rw [Node.get?_outlinesOf _ field, Node.get?_outlinesOf _ field]
    cases last : Selection.last? selections key with
    | some found =>
      have other := unrepeated.last? last
      have outlines := ih found.1 found.2 (Selection.mem_branches.mp (Selection.mem_of_last? last)).2
        (plain.last? last).2 (plain'.last? other).2 found.1 fun path => by
          simpa [last, other] using below path
      rw [head.get?_node_offered custom _ field, head.get?_node_offered custom _ field, last, other]
      simp only [Option.map_some, Option.some_or, Entry.outline]
      rw [← Node.outline, ← Node.outline, outlines]
    | none =>
      have other : Selection.last? (Selection.allWrittenOut shared selections) key = none := by
        have empty := below []
        rw [last] at empty
        cases found : Selection.last? (Selection.allWrittenOut shared selections) key with
        | none => rfl
        | some field => simp [found, Node.at?] at empty
      rw [head.get?_node_of_names custom requested last,
        head.get?_node_of_names custom requested' other]

namespace Selection

variable {shared : String → Option (List Selection)}

/-- Relations that are written in place of a spread stand between those of the selection set. -/
private theorem branches_sublist (selections : List Selection) :
    ((branches selections).map Prod.fst).Sublist
      ((branches (allWrittenOut shared selections)).map Prod.fst) := by
  induction selections with
  | nil => exact List.Sublist.refl _
  | cons selection rest ih =>
    rw [allWrittenOut, branches, branches, List.filterMap_append, List.map_append]
    simp only [branches] at ih
    cases selection with
    | relation head below => simpa [writtenOut] using ih
    | leaf head => simpa [writtenOut] using ih
    | inlineFragment condition directives below => simpa [writtenOut] using ih
    | spread name directives =>
      rw [List.filterMap_cons_none rfl]
      exact ih.trans (List.sublist_append_right _ _)

/-- If no relation comes from a spread, the relations have the same keys in the same order. -/
private theorem Unrepeated.keys_branches {selections : List Selection}
    (unrepeated : Unrepeated shared selections)
    (same : ∀ key, (Selection.last? (allWrittenOut shared selections) key).isSome →
      (Selection.last? selections key).isSome) :
    OrderedMap.keys (OrderedMap.ofList (branches (allWrittenOut shared selections))) =
      OrderedMap.keys (OrderedMap.ofList (branches selections)) := by
  by_cases spread : ∃ name directives, Selection.spread name directives ∈ selections
  · obtain ⟨name, directives, spread⟩ := spread
    have unique := unrepeated.branches_nodup spread
    have within : ((branches selections).map Prod.fst).Sublist
        ((branches (allWrittenOut shared selections)).map Prod.fst) := branches_sublist selections
    have subset : (branches (allWrittenOut shared selections)).map Prod.fst ⊆
        (branches selections).map Prod.fst := by
      intro key member
      rw [← last?_isSome_iff] at member ⊢
      exact same key member
    rw [OrderedMap.ofList_of_nodup unique, OrderedMap.ofList_of_nodup (unique.sublist within)]
    exact (within.eq_of_length_le (List.subperm_of_subset unique subset).length_le).symm
  · rw [branches_unspread fun name directives member => spread ⟨name, directives, member⟩,
      OrderedMap.ofList_map (branches selections)
        fun field : FieldHead × List Selection => (field.1, allWrittenOut shared field.2)]
    rw [OrderedMap.keys, OrderedMap.keys, List.map_map]
    rfl

end Selection

namespace Document

variable {document : Document} {custom : Option String}

/-- A path below a root leads through the last selection of that root. -/
theorem at?_root (clear : (document.compile custom).obstacle = none) (root : String)
    (rest : List String) : (document.compile custom).prototype.at? (root :: rest) =
      (Selection.last? document.rootSelections root).bind fun field =>
        (field.1.node custom field.2).at? rest := by
  rw [(compiled_trees clear).1, Prototype.at?, get?_translatedRoots]
  cases Selection.last? document.rootSelections root <;> rfl

theorem keys_outline_compiled (clear : (document.compile custom).obstacle = none) :
    OrderedMap.keys (document.compile custom).prototype.outline = OrderedMap.keys document.roots := by
  rw [compiled_roots clear, Prototype.outline, OrderedMap.keys, List.map_map, List.map_map]
  rfl

theorem get?_outline_compiled (clear : (document.compile custom).obstacle = none) (root : String) :
    OrderedMap.get? (document.compile custom).prototype.outline root =
      (Selection.last? document.rootSelections root).map fun field =>
        (field.1.node custom field.2).outline := by
  rw [Prototype.outline, OrderedMap.get?_map _ (fun _ => Node.outline), (compiled_trees clear).1,
    get?_translatedRoots, Option.map_map]
  rfl

/-- What filing reads of a document is what it reads of the document with its spreads written
out, if both request the same names at every path. -/
theorem outline_writtenOut (unmarked : document.Unmarked)
    (clear : (document.compile custom).obstacle = none)
    (free : (document.writtenOut.compile custom).obstacle = none)
    (unrepeated : Selection.Unrepeated document.selectionsOf document.rootSelections)
    (same : ∀ path, ((document.compile custom).prototype.at? path).map Node.names =
      ((document.writtenOut.compile custom).prototype.at? path).map Node.names) :
    (document.compile custom).prototype.outline =
      (document.writtenOut.compile custom).prototype.outline := by
  have plain := unmarked.plain_roots clear
  have plain' := unmarked.writtenOut.plain_roots free
  have below (root : String) (rest : List String) := same (root :: rest)
  simp only [at?_root clear, at?_root free, rootSelections_writtenOut] at below
  rw [rootSelections_writtenOut] at plain'
  have keys : OrderedMap.keys document.roots = OrderedMap.keys document.writtenOut.roots := by
    rw [roots, roots, rootSelections_writtenOut, unrepeated.keys_branches fun key found => ?_]
    obtain ⟨field, last⟩ := Option.isSome_iff_exists.mp found
    have opened := below key []
    rw [last] at opened
    cases own : Selection.last? document.rootSelections key with
    | some field => rfl
    | none => simp [own, Node.at?] at opened
  apply OrderedMap.ext_of_keys
  · rw [keys_outline_compiled clear, keys_outline_compiled free, keys]
  · rw [keys_outline_compiled clear]
    exact OrderedMap.keys_ofList_nodup _
  intro root member
  rw [get?_outline_compiled clear, get?_outline_compiled free, rootSelections_writtenOut]
  cases last : Selection.last? document.rootSelections root with
  | none =>
    rw [← OrderedMap.get?_isSome_iff, get?_outline_compiled clear, last] at member
    cases member
  | some field =>
    have other := unrepeated.last? last
    rw [other]
    refine congrArg some (FieldHead.outline_eq custom (unrepeated.inner last) (plain.last? last).2
      (plain'.last? other).2 field.1 fun path => ?_)
    simpa [last, other] using below root path

end Document

end GraphCache
