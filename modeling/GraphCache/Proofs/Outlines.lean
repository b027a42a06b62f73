import GraphCache.Proofs.Filings
import GraphCache.Exchange.Mutation

/-! What filing an answer reads of a prototype. Of a node these are the marks for its type, its
identifier and its arguments, the names it requests in their order, and whether objects are
requested under a name. Everything else, its alias and where its marks stand among the fields,
can be taken away without a change to what is filed. -/
namespace GraphCache

namespace Node

/-- The marks that are read when an answer is filed. -/
def markNames : List String := [Mark.typeName, Mark.identifier, Mark.arguments]

/-- The marks of a node that are read. -/
def readMarks (node : Node) : Node :=
  markNames.filterMap fun key => (OrderedMap.get? node key).map fun entry => (key, entry)

end Node

mutual

/-- An entry with nothing but what filing reads. -/
def Entry.outline : Entry → Entry
  | .relation entries => .relation (Node.readMarks entries ++ Entry.outlinesOf entries)
  | .requested => .requested
  | .literal value => .literal value

/-- The requested fields of a node, with nothing below them but what filing reads. -/
def Entry.outlinesOf : List (String × Entry) → List (String × Entry)
  | [] => []
  | (key, entry) :: rest =>
    if isReserved key then Entry.outlinesOf rest
    else (key, entry.outline) :: Entry.outlinesOf rest

end

/-- A node with nothing but what filing reads: its marks, then its fields. -/
def Node.outline (node : Node) : Node := node.readMarks ++ Entry.outlinesOf node

/-- A prototype with nothing but what filing reads. -/
def Prototype.outline (prototype : Prototype) : Prototype :=
  prototype.map fun root => (root.1, root.2.outline)

/-- The names that a node requests, in order. -/
def Node.names (node : Node) : List String := OrderedMap.keys node.fields

namespace Node

theorem outlinesOf_eq (node : Node) :
    Entry.outlinesOf node = node.fields.map fun entry => (entry.1, entry.2.outline) := by
  rw [fields]
  induction node with
  | nil => rfl
  | cons entry rest ih =>
    obtain ⟨key, entry⟩ := entry
    rw [Entry.outlinesOf, ih]
    cases reserved : isReserved key <;> simp [reserved]

theorem mem_fields {node : Node} {entry : String × Entry} :
    entry ∈ node.fields ↔ entry ∈ node ∧ isReserved entry.1 = false := by
  simp [fields]

theorem mem_names {node : Node} {key : String} :
    key ∈ node.names ↔ key ∈ OrderedMap.keys node ∧ isReserved key = false := by
  simp [names, fields, OrderedMap.keys]

theorem keys_outlinesOf (node : Node) : OrderedMap.keys (Entry.outlinesOf node) = node.names := by
  rw [outlinesOf_eq, names, OrderedMap.keys, OrderedMap.keys, List.map_map]
  rfl

theorem reserved_of_markNames {key : String} (marked : key ∈ markNames) : isReserved key = true := by
  simp only [markNames, List.mem_cons, List.not_mem_nil, or_false] at marked
  rcases marked with rfl | rfl | rfl <;> decide

/-- A requested name is no mark. -/
theorem plain_of_names {node : Node} {key : String} (requested : key ∈ node.names) :
    isReserved key = false :=
  (mem_names.mp requested).2

private theorem get?_picked (node : Node) (keys : List String) (key : String) :
    OrderedMap.get? (keys.filterMap fun key =>
        (OrderedMap.get? node key).map fun entry => (key, entry)) key =
      if key ∈ keys then OrderedMap.get? node key else none := by
  induction keys with
  | nil => rfl
  | cons first rest ih =>
    by_cases same : first = key
    · subst same
      cases found : OrderedMap.get? node first <;> simp [found, OrderedMap.get?, ih]
    · have other : ¬key = first := fun equal => same equal.symm
      cases found : OrderedMap.get? node first <;> simp [found, OrderedMap.get?, ih, same, other]

/-- The marks that are read stay. -/
theorem get?_outline {key : String} (marked : key ∈ markNames) (node : Node) :
    OrderedMap.get? node.outline key = OrderedMap.get? node key := by
  have absent : OrderedMap.get? (Entry.outlinesOf node) key = none := by
    rw [OrderedMap.get?_eq_none_iff, keys_outlinesOf]
    intro requested
    have plain := plain_of_names requested
    rw [reserved_of_markNames marked] at plain
    cases plain
  rw [outline, OrderedMap.get?_append, readMarks, get?_picked, if_pos marked, absent,
    Option.or_none]

/-- So do the fields. -/
theorem fields_outline (node : Node) : node.outline.fields = Entry.outlinesOf node := by
  have marks : node.readMarks.filter (fun entry => !isReserved entry.1) = [] := by
    rw [List.filter_eq_nil_iff]
    intro entry member
    obtain ⟨key, marked, picked⟩ := List.mem_filterMap.mp member
    obtain ⟨_, _, rfl⟩ := Option.map_eq_some_iff.mp picked
    simp [reserved_of_markNames marked]
  rw [fields, outline, List.filter_append, marks, List.nil_append, List.filter_eq_self]
  intro entry member
  have requested : entry.1 ∈ node.names := by
    rw [← keys_outlinesOf]
    exact List.mem_map_of_mem member
  rw [plain_of_names requested]
  rfl

theorem mark_outline {key : String} (marked : key ∈ markNames) (node : Node) :
    node.outline.mark key = node.mark key := by
  rw [mark, mark, get?_outline marked]

theorem typeLabel_outline (node : Node) : node.outline.typeLabel = node.typeLabel := by
  rw [typeLabel, typeLabel, typeName, typeName, mark_outline (by simp [markNames])]

/-- A key is made of the marks that are read. -/
theorem queryKey_congr {node other : Node}
    (same : ∀ key ∈ markNames, OrderedMap.get? other key = OrderedMap.get? node key)
    (custom : Option String) : other.queryKey custom = node.queryKey custom := by
  have type : other.typeName = node.typeName := by
    rw [typeName, typeName, mark, mark, same _ (by simp [markNames])]
  have identifier : other.identifier = node.identifier := by
    rw [Node.identifier, Node.identifier, mark, mark, same _ (by simp [markNames])]
  have arguments : other.arguments = node.arguments := by
    rw [Node.arguments, Node.arguments, mark, mark, same _ (by simp [markNames])]
  simp only [queryKey, filters, argumentFields, cacheKey, typeLabel, type, identifier, arguments]

theorem queryKey_outline (node : Node) (custom : Option String) :
    node.outline.queryKey custom = node.queryKey custom :=
  queryKey_congr (fun _ marked => get?_outline marked node) custom

theorem mutationType_outline (node : Node) : node.outline.mutationType = node.mutationType := by
  rw [mutationType, mutationType, typeLabel_outline]

end Node

/-! ## Filing -/

namespace Filing

variable {τ : Type} (filing : Filing τ)

theorem categoryOf_outline (fieldKey : String) (node : Node) :
    filing.categoryOf fieldKey node.outline = filing.categoryOf fieldKey node := by
  rw [categoryOf, categoryOf, category, category, node.typeLabel_outline]

/-- What is stored of an object depends on the requested names alone. -/
theorem requestedData_eq (node : Node) (object : OrderedMap String Json) :
    requestedData node object = OrderedMap.ofList (node.names.filterMap fun name =>
      (OrderedMap.get? object name).map fun value => (name, value)) := by
  rw [requestedData, Node.names, OrderedMap.keys, List.filterMap_map]
  rfl

theorem fileObject_outline (node : Node) (category : Label) (object : OrderedMap String Json)
    (batch : Batch τ) :
    filing.fileObject node.outline category object batch =
      filing.fileObject node category object batch := by
  have names : node.outline.names = node.names := by
    rw [Node.names, node.fields_outline, Node.keys_outlinesOf]
  have data : requestedData node.outline object = requestedData node object := by
    rw [requestedData_eq, requestedData_eq, names]
  simp only [fileObject, data]

/-- Marks are passed over. -/
private theorem fileFields_fields (object : OrderedMap String Json) (node : Node)
    (batch : Batch τ) :
    filing.fileFields object batch node.fields = filing.fileFields object batch node := by
  rw [Node.fields]
  induction node generalizing batch with
  | nil => rfl
  | cons entry rest ih =>
    obtain ⟨key, entry⟩ := entry
    cases reserved : isReserved key with
    | true =>
      rw [List.filter_cons_of_neg (by simp [reserved]), ih, fileFields]
      simp [reserved, bind, Except.bind]
    | false =>
      rw [List.filter_cons_of_pos (by simp [reserved]), fileFields, fileFields]
      simp only [ih]

mutual

private theorem fileField_outline (fieldKey : String) (object : OrderedMap String Json)
    (batch : Batch τ) (entry : Entry) :
    filing.fileField fieldKey object batch entry.outline =
      filing.fileField fieldKey object batch entry := by
  match entry with
  | .requested => rfl
  | .literal value => rfl
  | .relation entries =>
    have below (inner : OrderedMap String Json) (batch : Batch τ) :
        filing.fileFields inner batch (Node.outline entries) =
          filing.fileFields inner batch entries := by
      rw [← fileFields_fields, Node.fields_outline, fileFields_outlinesOf inner batch entries]
    have opened : Entry.outline (.relation entries) = .relation (Node.outline entries) := by
      rw [Entry.outline, Node.outline]
    rw [opened, fileField, fileField]
    simp only [below, categoryOf_outline, fileObject_outline]

private theorem fileFields_outlinesOf (object : OrderedMap String Json) (batch : Batch τ)
    (entries : List (String × Entry)) :
    filing.fileFields object batch (Entry.outlinesOf entries) =
      filing.fileFields object batch entries := by
  match entries with
  | [] => rw [Entry.outlinesOf]
  | (key, entry) :: rest =>
    rw [Entry.outlinesOf]
    cases reserved : isReserved key with
    | true =>
      rw [fileFields]
      simp only [reserved, ↓reduceIte]
      exact fileFields_outlinesOf object batch rest
    | false =>
      simp only [Bool.false_eq_true, ↓reduceIte]
      rw [fileFields, fileFields]
      simp only [reserved, Bool.false_eq_true, ↓reduceIte]
      rw [fileField_outline key object batch entry]
      exact congrArg _ (funext fun filed => fileFields_outlinesOf object filed rest)

end

theorem fileFields_outline (object : OrderedMap String Json) (batch : Batch τ) (node : Node) :
    filing.fileFields object batch node.outline = filing.fileFields object batch node := by
  rw [← fileFields_fields, Node.fields_outline, fileFields_outlinesOf]

theorem fileRoot_outline (fieldKey : String) (node : Node) (value : Json) (batch : Batch τ) :
    filing.fileRoot fieldKey node.outline value batch =
      filing.fileRoot fieldKey node value batch := by
  rw [fileRoot, fileRoot]
  simp only [categoryOf_outline, fileFields_outline, fileObject_outline, Node.queryKey_outline]

private theorem fileRoots_outline (data : OrderedMap String Json) (prototype : Prototype)
    (batch : Batch τ) :
    filing.fileRoots data prototype.outline batch = filing.fileRoots data prototype batch := by
  rw [Prototype.outline]
  induction prototype generalizing batch with
  | nil => rfl
  | cons root rest ih =>
    obtain ⟨fieldKey, node⟩ := root
    rw [List.map_cons, fileRoots, fileRoots]
    simp only [fileRoot_outline, ih]

/-- The batch of an answer depends on the outline alone. -/
theorem batchOf_outline (prototype : Prototype) (data : Json) :
    filing.batchOf prototype.outline data = filing.batchOf prototype data := by
  have empty : prototype.outline.isEmpty = prototype.isEmpty := List.isEmpty_map
  rw [batchOf, batchOf, empty]
  simp only [fileRoots_outline]

end Filing

/-! ## Calls -/

/-- Answers that are filed as the same batch are stored alike. -/
theorem Store.deposit_congr {τ : Type} [Instant τ] (store : Store τ) {settings : StoreSettings τ}
    {now : τ} {deposit other : Deposit τ}
    (same : other.batchAt settings now = deposit.batchAt settings now) :
    store.deposit settings now other = store.deposit settings now deposit := by
  rw [Deposit.batchAt, Deposit.batchAt] at same
  rw [Store.deposit, Store.deposit, same]

/-- The root that decides about a mutation is found in the outline. -/
theorem findMutation_outline (names : List String) (prototype : Prototype) :
    findMutation names prototype.outline =
      (findMutation names prototype).map (Option.map fun root => (root.1, root.2.outline)) := by
  rw [Prototype.outline]
  induction prototype with
  | nil => rfl
  | cons root rest ih =>
    obtain ⟨key, node⟩ := root
    have mapped : isMapped names key node.outline = isMapped names key node := by
      rw [isMapped, isMapped, node.mutationType_outline]
    rw [List.map_cons, findMutation, findMutation, mapped, ih]
    cases isMapped names key node with
    | error cause => rfl
    | ok found => cases found <;> rfl

end GraphCache
