import GraphCache.Proofs.FaithfulAnswer
import GraphCache.Proofs.WrittenOut

/-! Answers that lead along a path to one object with an identifier. Of all the objects in such an
answer only that one is filed under its own key, and only if the document follows the path to
its end; the others hold nothing but one further object. What is filed of it has one entry for
each name that is requested there, in order. Two documents under which every such answer is
filed alike therefore request the same names at the path. -/
namespace GraphCache

/-- An object from which a path leads to another one, with nothing beside the path. -/
def leadingTo (object : OrderedMap String Json) : List String → OrderedMap String Json
  | [] => object
  | key :: rest => [(key, .object (leadingTo object rest))]

/-- An object with an identifier that has a number for each of some names. -/
def ones (names : List String) : OrderedMap String Json :=
  ("id" :: names).map fun name => (name, .int 1)

/-- An object that holds one other object and nothing else. -/
def Occurrence.Passing (occurrence : Occurrence) : Prop :=
  ∃ key inner, occurrence.object = [(key, .object inner)]

theorem get?_ones (names : List String) (name : String) :
    OrderedMap.get? (ones names) name =
      if name ∈ "id" :: names then some (.int 1) else none := by
  rw [ones]
  induction "id" :: names with
  | nil => rfl
  | cons first rest ih =>
    by_cases same : first = name
    · simp [OrderedMap.get?, same]
    · have other : ¬name = first := fun equal => same equal.symm
      simp only [List.map_cons, OrderedMap.get?, if_neg same, ih, List.mem_cons, other, false_or]

/-- An object that has the same value under every name is identified by that value. -/
theorem entityIdOf_uniform {fields : OrderedMap String Json} {value : Json} (given : value ≠ .null)
    (each : ∀ entry ∈ fields, entry.2 = value) (named : "id" ∈ OrderedMap.keys fields)
    (custom : Option String) : entityIdOf fields custom = some value.display := by
  have conventional : "id" ∈ identifierNames custom := by
    cases custom with
    | none => simp [identifierNames, conventionalNames]
    | some name =>
      rw [identifierNames]
      split <;> simp [conventionalNames]
  have own {name : String} {held : Json} (found : OrderedMap.get? fields name = some held) :
      held = value := each _ (OrderedMap.mem_of_get?_eq_some found)
  cases found : entityIdOf fields custom with
  | none =>
    rw [entityIdOf, List.findSome?_eq_none_iff] at found
    have missing := found "id" conventional
    obtain ⟨held, carried⟩ :=
      Option.isSome_iff_exists.mp ((OrderedMap.get?_isSome_iff fields "id").mpr named)
    obtain rfl := own carried
    rw [carried] at missing
    cases held <;> first | exact absurd rfl given | cases missing
  | some identifier =>
    rw [entityIdOf] at found
    obtain ⟨name, _, picked⟩ := List.exists_of_findSome?_eq_some found
    cases carried : OrderedMap.get? fields name with
    | none =>
      rw [carried] at picked
      cases picked
    | some held =>
      obtain rfl := own carried
      rw [carried] at picked
      cases held <;> first | exact absurd rfl given | exact picked.symm

theorem entityIdOf_ones (names : List String) (custom : Option String) :
    entityIdOf (ones names) custom = some "1" := by
  have each : ∀ entry ∈ ones names, entry.2 = .int 1 := by
    intro entry member
    obtain ⟨name, -, rfl⟩ := List.mem_map.mp member
    rfl
  exact entityIdOf_uniform (by simp) each (by simp [ones, OrderedMap.keys]) custom

/-- Nothing can be filed below such an object. -/
private theorem occurrencesIn_ones (names : List String) (node : Node) :
    Entry.occurrencesIn (ones names) node = [] := by
  have leaf (key : String) : objectsOf ((OrderedMap.get? (ones names) key).getD .null) = [] := by
    rw [get?_ones]
    split <;> rfl
  induction node with
  | nil => rfl
  | cons entry rest ih =>
    obtain ⟨key, entry⟩ := entry
    rw [Entry.occurrencesIn, ih, List.append_nil]
    split
    · rfl
    · cases entry with
      | relation entries => rw [Entry.occurrences, leaf, List.flatMap_nil]
      | requested => rfl
      | literal value => rfl

/-- Below an object with a single field only the entry under its key is followed. -/
private theorem occurrencesIn_single {node : Node} (unique : (OrderedMap.keys node).Nodup)
    (key : String) (inner : OrderedMap String Json) :
    Entry.occurrencesIn [(key, .object inner)] node =
      if isReserved key then []
      else ((OrderedMap.get? node key).map
        (Entry.occurrences key [(key, .object inner)])).getD [] := by
  have aside (entry : Entry) {name : String} (other : key ≠ name) :
      entry.occurrences name [(key, .object inner)] = [] := by
    cases entry with
    | relation entries =>
      have absent : OrderedMap.get? [(key, Json.object inner)] name = none := by
        simp [OrderedMap.get?, other]
      rw [Entry.occurrences, absent]
      rfl
    | requested => rfl
    | literal value => rfl
  have missing {rest : Node} (fresh : key ∉ OrderedMap.keys rest) :
      Entry.occurrencesIn [(key, .object inner)] rest = [] := by
    induction rest with
    | nil => rfl
    | cons entry rest ih =>
      obtain ⟨name, entry⟩ := entry
      obtain ⟨other, later⟩ : key ≠ name ∧ key ∉ OrderedMap.keys rest := by
        simpa [OrderedMap.keys, not_or] using fresh
      rw [Entry.occurrencesIn, ih later, aside entry other]
      split <;> rfl
  induction node with
  | nil => simp [Entry.occurrencesIn]
  | cons entry rest ih =>
    obtain ⟨name, entry⟩ := entry
    obtain ⟨fresh, tail⟩ := List.nodup_cons.mp unique
    by_cases same : name = key
    · subst same
      rw [Entry.occurrencesIn, missing fresh]
      simp [OrderedMap.get?]
    · have other : key ≠ name := fun equal => same equal.symm
      rw [Entry.occurrencesIn, aside entry other, ih tail]
      simp [OrderedMap.get?, same]

/-- Of the roots only the one under the key is carried. -/
private theorem Prototype.carriedRoots_single {prototype : Prototype}
    (unique : (OrderedMap.keys prototype).Nodup) (root : String)
    (inner : OrderedMap String Json) :
    prototype.carriedRoots [(root, .object inner)] =
      ((OrderedMap.get? prototype root).map fun node =>
        (root, node, Json.object inner)).toList := by
  have first (name : String) (node : Node) (rest : Prototype) :
      Prototype.carriedRoots ((name, node) :: rest) [(root, .object inner)] =
        (if root = name then [(name, node, .object inner)] else []) ++
          rest.carriedRoots [(root, .object inner)] := by
    rw [carriedRoots, carriedRoots, List.filterMap_cons]
    by_cases same : root = name
    · simp only [OrderedMap.get?, if_pos same]
      rfl
    · simp only [OrderedMap.get?, if_neg same]
      rfl
  have missing {rest : Prototype} (fresh : root ∉ OrderedMap.keys rest) :
      rest.carriedRoots [(root, .object inner)] = [] := by
    induction rest with
    | nil => rfl
    | cons entry rest ih =>
      obtain ⟨name, node⟩ := entry
      obtain ⟨other, later⟩ : root ≠ name ∧ root ∉ OrderedMap.keys rest := by
        simpa [OrderedMap.keys, not_or] using fresh
      rw [first, if_neg other, ih later, List.nil_append]
  induction prototype with
  | nil => rfl
  | cons entry rest ih =>
    obtain ⟨name, node⟩ := entry
    obtain ⟨fresh, tail⟩ := List.nodup_cons.mp unique
    rw [first]
    by_cases same : name = root
    · subst same
      rw [missing fresh, if_pos rfl]
      simp [OrderedMap.get?]
    · have other : root ≠ name := fun equal => same equal.symm
      rw [if_neg other, List.nil_append, ih tail]
      simp [OrderedMap.get?, same]

/-- Of the objects on a path that leads to one with an identifier, that one is met first, if the
path can be followed at all. The others only lead on. -/
private theorem FieldHead.occurrences_leadingTo (custom : Option String) (names : List String)
    (path : List String) {selections : List Selection} (plain : Selection.Plain selections)
    (head : FieldHead) (fieldKey : String) :
    ∃ later, Entry.occurrencesIn (leadingTo (ones names) path) (head.node custom selections) ++
        [⟨fieldKey, head.node custom selections, leadingTo (ones names) path⟩] =
      (((head.node custom selections).at? path).map fun node =>
        (⟨path.getLastD fieldKey, node, ones names⟩ : Occurrence)).toList ++ later ∧
      ∀ occurrence ∈ later, occurrence.Passing := by
  induction path generalizing selections head fieldKey with
  | nil =>
    refine ⟨[], ?_, by simp⟩
    rw [leadingTo, occurrencesIn_ones]
    rfl
  | cons key rest ih =>
    have passing : (⟨fieldKey, head.node custom selections,
        leadingTo (ones names) (key :: rest)⟩ : Occurrence).Passing := ⟨key, _, rfl⟩
    rw [head.at?_node custom]
    cases last : Selection.last? selections key with
    | some field =>
      obtain ⟨reserved, below⟩ := plain.last? last
      obtain ⟨later, same, others⟩ := ih below field.1 key
      have followed : Entry.occurrencesIn (leadingTo (ones names) (key :: rest))
          (head.node custom selections) =
            Entry.occurrencesIn (leadingTo (ones names) rest) (field.1.node custom field.2) ++
              [⟨key, field.1.node custom field.2, leadingTo (ones names) rest⟩] := by
        rw [leadingTo, occurrencesIn_single (head.keys_node_nodup custom selections),
          head.get?_node_offered custom selections reserved, last]
        simp [Entry.occurrences, OrderedMap.get?, objectsOf, reserved]
      refine ⟨later ++ [⟨fieldKey, head.node custom selections,
        leadingTo (ones names) (key :: rest)⟩], ?_, ?_⟩
      · rw [followed, same, List.append_assoc, List.getLastD_cons]
        rfl
      · intro occurrence member
        rcases List.mem_append.mp member with early | own
        · exact others occurrence early
        · rw [List.mem_singleton.mp own]
          exact passing
    | none =>
      have stopped : Entry.occurrencesIn (leadingTo (ones names) (key :: rest))
          (head.node custom selections) = [] := by
        rw [leadingTo, occurrencesIn_single (head.keys_node_nodup custom selections)]
        cases reserved : isReserved key with
        | true => rfl
        | false =>
          rw [head.get?_node_offered custom selections reserved, last]
          by_cases offered : key ∈ Selection.offered selections <;>
            simp [offered, Entry.occurrences]
      refine ⟨[⟨fieldKey, head.node custom selections,
        leadingTo (ones names) (key :: rest)⟩], ?_, ?_⟩
      · rw [stopped]
        rfl
      · intro occurrence member
        rw [List.mem_singleton.mp member]
        exact passing

/-- So it is from the roots on. -/
theorem Document.occurrences_leadingTo {document : Document} {custom : Option String}
    (unmarked : document.Unmarked) (clear : (document.compile custom).obstacle = none)
    (names : List String) (root : String) (path : List String) :
    ∃ later, (document.compile custom).prototype.occurrences
        (leadingTo (ones names) (root :: path)) =
      (((document.compile custom).prototype.at? (root :: path)).map fun node =>
        (⟨path.getLastD root, node, ones names⟩ : Occurrence)).toList ++ later ∧
      ∀ occurrence ∈ later, occurrence.Passing := by
  have carried : (document.compile custom).prototype.carriedRoots
      (leadingTo (ones names) (root :: path)) =
        ((Selection.last? document.rootSelections root).map fun field =>
          (root, field.1.node custom field.2,
            Json.object (leadingTo (ones names) path))).toList := by
    have unique : (OrderedMap.keys (document.compile custom).prototype).Nodup := by
      rw [(compiled_trees clear).1]
      exact OrderedMap.keys_ofList_nodup _
    have node : OrderedMap.get? (document.compile custom).prototype root =
        (Selection.last? document.rootSelections root).map fun field =>
          field.1.node custom field.2 := by
      rw [(compiled_trees clear).1, get?_translatedRoots]
    have single := (document.compile custom).prototype.carriedRoots_single unique root
      (leadingTo (ones names) path)
    rw [leadingTo, single, node, Option.map_map]
    rfl
  rw [Prototype.occurrences, carried, at?_root clear]
  cases last : Selection.last? document.rootSelections root with
  | none => exact ⟨[], rfl, by simp⟩
  | some field =>
    obtain ⟨later, same, others⟩ := FieldHead.occurrences_leadingTo custom names path
      ((unmarked.plain_roots clear).last? last).2 field.1 root
    refine ⟨later, ?_, others⟩
    rw [Option.bind_some, ← same]
    simp [Node.occurrences, objectsOf]

namespace Filing

variable {τ : Type} (filing : Filing τ)

/-- What identifies an object that only leads on ends with a brace. -/
theorem keyOf?_passing {occurrence : Occurrence} (passing : occurrence.Passing)
    (name : String) : filing.keyOf? occurrence ≠ some (entityKey name "1") := by
  obtain ⟨fieldKey, node, object⟩ := occurrence
  obtain ⟨key, inner, rfl⟩ := passing
  intro keyed
  simp only [keyOf?] at keyed
  split at keyed
  · rename_i category _
    obtain ⟨identifier, identified, same⟩ := Option.map_eq_some_iff.mp keyed
    have brace : identifier = (Json.object inner).display := by
      rw [entityIdOf] at identified
      obtain ⟨other, _, picked⟩ := List.exists_of_findSome?_eq_some identified
      by_cases held : key = other
      · simp only [OrderedMap.get?, if_pos held] at picked
        exact (Option.some.inj picked).symm
      · simp only [OrderedMap.get?, if_neg held] at picked
        cases picked
    have last := congrArg (fun text => text.toList.getLast?) same
    simp only [entityKey, brace, Json.display, Json.literal, String.toList_append,
      String.reduceToList, ← List.append_assoc, List.getLast?_concat, Option.some.injEq] at last
    exact absurd last (by decide)
  · cases keyed

private theorem get?_filed_of_ne {key : String} (entities : OrderedMap String (Record τ))
    (occurrences : List Occurrence)
    (others : ∀ occurrence ∈ occurrences, filing.keyOf? occurrence ≠ some key) :
    OrderedMap.get? (filing.filed entities occurrences) key = OrderedMap.get? entities key := by
  induction occurrences generalizing entities with
  | nil => rfl
  | cons occurrence rest ih =>
    obtain ⟨other, later⟩ := List.forall_mem_cons.mp others
    have split : filing.filed entities (occurrence :: rest) =
        filing.filed (filing.filed entities [occurrence]) rest := by
      rw [← filed_append, List.singleton_append]
    rw [split, ih _ later, filed, List.filterMap_cons]
    rw [← key_recordOf?] at other
    cases found : filing.recordOf? occurrence with
    | none => rfl
    | some record =>
      have apart : record.key ≠ key := fun same => other (by rw [found, Option.map_some, same])
      exact OrderedMap.get?_insert_of_ne entities _ apart

/-- What is filed under the key of an object that a path leads to is the record of that object. -/
theorem get?_filed_leadingTo {found : Option Occurrence} {later : List Occurrence}
    (passing : ∀ occurrence ∈ later, occurrence.Passing) (name : String) :
    OrderedMap.get? (filing.filed [] (found.toList ++ later)) (entityKey name "1") =
      (found.bind filing.recordOf?).filter (·.key = entityKey name "1") := by
  rw [filed_append, filing.get?_filed_of_ne _ later fun occurrence member =>
    filing.keyOf?_passing (passing occurrence member) name]
  cases found with
  | none => rfl
  | some occurrence =>
    rw [Option.toList_some, Option.bind_some, filed, List.filterMap_cons]
    cases filing.recordOf? occurrence with
    | none => rfl
    | some record =>
      by_cases same : record.key = entityKey name "1"
      · simp [put, same, OrderedMap.get?, OrderedMap.insert, Option.filter]
      · simp [put, same, OrderedMap.get?, OrderedMap.insert, Option.filter]

end Filing

/-- An object with an identifier is filed with one entry for each name that is requested of it. -/
theorem Filing.recordOf?_ones {τ : Type} (filing : Filing τ) {node : Node} {type : String}
    (label : node.typeLabel = .text type) (fieldKey : String) :
    ∃ category, ∀ names, ∃ record,
      filing.recordOf? ⟨fieldKey, node, ones names⟩ = some record ∧
        record.key = entityKey category "1" ∧ record.data = requestedData node (ones names) := by
  obtain ⟨category, categorized⟩ := filing.categoryOf_text fieldKey label
  refine ⟨category, fun names => ⟨⟨entityKey category "1", category, "1",
    requestedData node (ones names), filing.fromMutation, filing.expiresAt⟩, ?_, rfl, rfl⟩⟩
  rw [recordOf?]
  simp only [categorized, entityIdOf_ones]
  rfl

private theorem keys_requestedData_ones {node : Node} (unique : node.names.Nodup)
    {names : List String} (inside : node.names ⊆ names) :
    OrderedMap.keys (Filing.requestedData node (ones names)) = node.names := by
  have entries : (node.names.filterMap fun name =>
      (OrderedMap.get? (ones names) name).map fun value => (name, value)) =
        node.names.map fun name => (name, Json.int 1) := by
    rw [← List.filterMap_eq_map]
    apply List.filterMap_congr
    intro name member
    rw [get?_ones, if_pos (List.mem_cons_of_mem _ (inside member))]
    rfl
  have keys : OrderedMap.keys (node.names.map fun name => (name, Json.int 1)) = node.names := by
    rw [OrderedMap.keys, List.map_map]
    exact List.map_id _
  rw [Filing.requestedData_eq, entries, OrderedMap.ofList_of_nodup (keys.symm ▸ unique), keys]

/-- A node below a root is that of a field without marks among its names. -/
private theorem FieldHead.field_of_at? {custom : Option String} {selections : List Selection}
    (plain : Selection.Plain selections) {head : FieldHead} {path : List String} {node : Node}
    (found : (head.node custom selections).at? path = some node) :
    ∃ (other : FieldHead) (inner : List Selection),
      Selection.Plain inner ∧ node = other.node custom inner := by
  induction path generalizing selections head with
  | nil =>
    cases found
    exact ⟨head, selections, plain, rfl⟩
  | cons key rest ih =>
    rw [head.at?_node custom] at found
    obtain ⟨field, last, below⟩ := Option.bind_eq_some_iff.mp found
    exact ih (plain.last? last).2 below

theorem Document.field_of_at? {document : Document} {custom : Option String}
    (unmarked : document.Unmarked) (clear : (document.compile custom).obstacle = none)
    {root : String} {path : List String} {node : Node}
    (found : (document.compile custom).prototype.at? (root :: path) = some node) :
    ∃ (head : FieldHead) (selections : List Selection),
      Selection.Plain selections ∧ node = head.node custom selections := by
  rw [at?_root clear] at found
  obtain ⟨field, last, below⟩ := Option.bind_eq_some_iff.mp found
  exact FieldHead.field_of_at? ((unmarked.plain_roots clear).last? last).2 below

/-- Nodes of fields request the same if the same is filed under them of every such object. -/
theorem Filing.names_eq {τ : Type} (filing : Filing τ) {custom : Option String}
    (fieldKey : String) {one two : Option Node}
    (first : ∀ node, one = some node → ∃ (head : FieldHead) (selections : List Selection),
      Selection.Plain selections ∧ node = head.node custom selections)
    (second : ∀ node, two = some node → ∃ (head : FieldHead) (selections : List Selection),
      Selection.Plain selections ∧ node = head.node custom selections)
    (same : ∀ names name,
      (two.bind fun node => filing.recordOf? ⟨fieldKey, node, ones names⟩).filter
          (·.key = entityKey name "1") =
        (one.bind fun node => filing.recordOf? ⟨fieldKey, node, ones names⟩).filter
          (·.key = entityKey name "1")) :
    one.map Node.names = two.map Node.names := by
  have filed {any : Option Node} {node : Node} (some : any = some node)
      (field : ∃ (head : FieldHead) (selections : List Selection),
        Selection.Plain selections ∧ node = head.node custom selections) :
      node.names.Nodup ∧ ∃ category, ∀ names, ∃ record,
        (any.bind fun node => filing.recordOf? ⟨fieldKey, node, ones names⟩).filter
          (·.key = entityKey category "1") = .some record ∧
        record.data = requestedData node (ones names) := by
    subst some
    obtain ⟨head, selections, plain, rfl⟩ := field
    refine ⟨Node.names_nodup (head.keys_node_nodup custom selections), ?_⟩
    obtain ⟨category, each⟩ := filing.recordOf?_ones
      (head.typeLabel_node custom (plain.unmarked (by decide))) fieldKey
    refine ⟨category, fun names => ?_⟩
    obtain ⟨record, left, key, data⟩ := each names
    exact ⟨record, by simp [left, key, Option.filter], data⟩
  cases one with
  | none =>
    cases two with
    | none => rfl
    | some node =>
      obtain ⟨_, category, each⟩ := filed rfl (second node rfl)
      obtain ⟨record, left, _⟩ := each []
      rw [same] at left
      cases left
  | some node =>
    obtain ⟨unique, category, each⟩ := filed rfl (first node rfl)
    cases two with
    | none =>
      obtain ⟨record, left, _⟩ := each []
      rw [← same] at left
      cases left
    | some other =>
      obtain ⟨unique', _, _⟩ := filed rfl (second other rfl)
      obtain ⟨record, left, data⟩ := each (node.names ++ other.names)
      rw [← same, Option.filter_eq_some_iff, Option.bind_some] at left
      have data' := (recordOf?_data left.1).1
      rw [data] at data'
      have names := congrArg OrderedMap.keys data'
      rw [keys_requestedData_ones unique (List.subset_append_left _ _),
        keys_requestedData_ones unique' (List.subset_append_right _ _)] at names
      rw [Option.map_some, Option.map_some, names]

end GraphCache
