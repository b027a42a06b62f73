import GraphCache.Proofs.KeptMarks
import GraphCache.Proofs.RequestKeys
import GraphCache.Proofs.RoundTrip
import GraphCache.Proofs.Unmarked

/-! Requests that differ in the order of what they are given. An identifier is chosen by a fixed
order of names, and filters are written with their names sorted, in every object at any depth. So
it does not matter in which order the arguments of a root stand, nor the fields of the objects
among them; only an object that is an identifier is displayed as it was written. Documents that
differ in no more have the same keys for their roots, and what was filed under the roots of one
is found under those of the other. -/
namespace GraphCache

/-! ## Values -/

/-- Literals that differ in the order of the fields of objects, at any depth. The fields of an
object that are moved have different names. -/
inductive Literal.Reordered : Literal → Literal → Prop where
  | refl (literal : Literal) : Reordered literal literal
  | trans {one two three : Literal} (first : Reordered one two) (second : Reordered two three) :
      Reordered one three
  | moved {fields others : List (String × Literal)} (distinct : (fields.map Prod.fst).Nodup)
      (perm : fields.Perm others) : Reordered (.object fields) (.object others)
  | item {item other : Literal} (before after : List Literal) (inner : Reordered item other) :
      Reordered (.list (before ++ item :: after)) (.list (before ++ other :: after))
  | field {value other : Literal} (before after : List (String × Literal)) (name : String)
      (inner : Reordered value other) :
      Reordered (.object (before ++ (name, value) :: after)) (.object (before ++ (name, other) :: after))

namespace Json

/-- Writes that leave values which are printed alike under the same names. -/
def WrittenAlike (writes others : List (String × Json)) : Prop :=
  ∀ name, (OrderedMap.get? writes.reverse name).map (print keyStyle) =
    (OrderedMap.get? others.reverse name).map (print keyStyle)

theorem WrittenAlike.of_perm {writes others : List (String × Json)}
    (distinct : (writes.map Prod.fst).Nodup) (perm : writes.Perm others) :
    WrittenAlike writes others := by
  intro name
  rw [OrderedMap.get?_reverse_perm distinct perm]

theorem get?_reverse_one (before after : List (String × Json)) (name key : String) (value : Json) :
    OrderedMap.get? (before ++ (name, value) :: after).reverse key =
      (OrderedMap.get? after.reverse key).or
        (if name = key then some value else OrderedMap.get? before.reverse key) := by
  rw [List.reverse_append, List.reverse_cons, List.append_assoc, OrderedMap.get?_append]
  rfl

theorem WrittenAlike.of_one (before after : List (String × Json)) (name : String)
    {value other : Json} (same : print keyStyle value = print keyStyle other) :
    WrittenAlike (before ++ (name, value) :: after) (before ++ (name, other) :: after) := by
  intro key
  rw [get?_reverse_one, get?_reverse_one]
  by_cases own : name = key
  · cases OrderedMap.get? after.reverse key <;> simp [own, same]
  · rw [if_neg own, if_neg own]

/-- What is printed of a tidy object shows what is printed of the value under each name. -/
theorem Tidy.print_field {fields others : OrderedMap String Json} (one : (Json.object fields).Tidy)
    (two : (Json.object others).Tidy)
    (same : print keyStyle (.object fields) = print keyStyle (.object others)) (name : String) :
    (OrderedMap.get? fields name).map (print keyStyle) =
      (OrderedMap.get? others name).map (print keyStyle) := by
  have alike := (one.same_of_print two same).get? name
  cases left : OrderedMap.get? fields name with
  | none =>
    rw [left] at alike
    cases right : OrderedMap.get? others name with
    | none => rfl
    | some value =>
      rw [right] at alike
      cases alike
  | some value =>
    rw [left] at alike
    cases right : OrderedMap.get? others name with
    | none =>
      rw [right] at alike
      cases alike
    | some other =>
      rw [right] at alike
      cases alike with
      | some same =>
        exact congrArg some ((one.field (OrderedMap.mem_of_get?_eq_some left)).print_of_same
          (two.field (OrderedMap.mem_of_get?_eq_some right)) same)

/-- Tidy objects that have values printed alike under the same names are printed alike. -/
theorem print_object_congr {fields others : OrderedMap String Json}
    (one : (Json.object fields).Tidy) (two : (Json.object others).Tidy)
    (alike : ∀ name, (OrderedMap.get? fields name).map (print keyStyle) =
      (OrderedMap.get? others name).map (print keyStyle)) :
    print keyStyle (.object fields) = print keyStyle (.object others) := by
  refine one.print_of_same two
    (same_object.mpr ⟨fun name => ?_, fun name left right found found' => ?_⟩)
  · have present := congrArg Option.isSome (alike name)
    rwa [Option.isSome_map, Option.isSome_map] at present
  · have texts := alike name
    rw [found, found', Option.map_some, Option.map_some, Option.some.injEq] at texts
    exact (one.field (OrderedMap.mem_of_get?_eq_some found)).same_of_print
      (two.field (OrderedMap.mem_of_get?_eq_some found')) texts

end Json

theorem Literal.values_eq (items : List Literal) :
    Literal.values items = items.map Literal.value := by
  induction items with
  | nil => rfl
  | cons item rest ih => rw [Literal.values, ih, List.map_cons]

theorem Literal.fieldValues_eq (fields : List (String × Literal)) :
    Literal.fieldValues fields = fields.map fun field => (field.1, field.2.value) := by
  induction fields with
  | nil => rfl
  | cons field rest ih => rw [Literal.fieldValues, ih, List.map_cons]

/-- Objects are printed alike if the writes of their fields leave values that are. -/
private theorem Literal.print_object {fields others : List (String × Literal)}
    (alike : Json.WrittenAlike (Literal.fieldValues fields) (Literal.fieldValues others)) :
    Json.print Json.keyStyle (Literal.object fields).value =
      Json.print Json.keyStyle (Literal.object others).value := by
  refine Json.print_object_congr (Literal.object fields).tidy_value
    (Literal.object others).tidy_value fun name => ?_
  rw [OrderedMap.get?_ofList, OrderedMap.get?_ofList]
  exact alike name

/-- So are lists whose items are printed alike, one by one. -/
private theorem Literal.print_list {items others : List Literal}
    (alike : items.map (Json.print Json.keyStyle ·.value) =
      others.map (Json.print Json.keyStyle ·.value)) :
    Json.print Json.keyStyle (Literal.list items).value =
      Json.print Json.keyStyle (Literal.list others).value := by
  have texts := congrArg (List.map String.toList) alike
  simp only [List.map_map, Function.comp_def] at texts
  apply String.toList_inj.mp
  rw [Literal.value, Literal.value, Json.print_array, Json.print_array, values_eq, values_eq,
    List.map_map, List.map_map]
  simp only [Function.comp_def, texts]

/-- Reordered literals are printed alike, as an argument and inside of one. -/
theorem Literal.Reordered.print_eq {literal other : Literal} (reordered : literal.Reordered other) :
    Json.print Json.keyStyle literal.value = Json.print Json.keyStyle other.value ∧
      Json.print Json.keyStyle literal.argumentValue =
        Json.print Json.keyStyle other.argumentValue := by
  induction reordered with
  | refl literal => exact ⟨rfl, rfl⟩
  | trans _ _ first second => exact ⟨first.1.trans second.1, first.2.trans second.2⟩
  | @moved fields others distinct perm =>
    have alike : Json.WrittenAlike (Literal.fieldValues fields) (Literal.fieldValues others) := by
      rw [fieldValues_eq, fieldValues_eq]
      refine .of_perm ?_ (perm.map _)
      rw [List.map_map]
      exact distinct
    exact ⟨Literal.print_object alike, Literal.print_object alike⟩
  | @item item other before after _ ih =>
    have alike : (before ++ item :: after).map (Json.print Json.keyStyle ·.value) =
        (before ++ other :: after).map (Json.print Json.keyStyle ·.value) := by
      simp [ih.1]
    exact ⟨Literal.print_list alike, Literal.print_list alike⟩
  | @field value other before after name _ ih =>
    have alike : Json.WrittenAlike (Literal.fieldValues (before ++ (name, value) :: after))
        (Literal.fieldValues (before ++ (name, other) :: after)) := by
      rw [fieldValues_eq, fieldValues_eq, List.map_append, List.map_append, List.map_cons,
        List.map_cons]
      exact .of_one _ _ name ih.1
    exact ⟨Literal.print_object alike, Literal.print_object alike⟩

/-! ## Arguments -/

/-- Arguments that differ in their order, where they have different names, and in the order of the
fields of objects inside of those that have no identifier's name. -/
inductive Argument.Reordered (custom : Option String) : List Argument → List Argument → Prop where
  | refl (arguments : List Argument) : Reordered custom arguments arguments
  | trans {one two three : List Argument} (first : Reordered custom one two)
      (second : Reordered custom two three) : Reordered custom one three
  | moved {arguments others : List Argument} (distinct : (arguments.map Argument.name).Nodup)
      (perm : arguments.Perm others) : Reordered custom arguments others
  | value {value other : Literal} (before after : List Argument) (name : String)
      (filter : name ∉ identifierNames custom) (inner : value.Reordered other) :
      Reordered custom (before ++ ⟨name, value⟩ :: after) (before ++ ⟨name, other⟩ :: after)

/-- The writes of some arguments. -/
def Argument.writes (arguments : List Argument) : List (String × Json) :=
  arguments.map fun argument => (argument.name, argument.value.argumentValue)

namespace FieldHead

/-- Fields that differ in no more than the order of what they are given. -/
structure Reordered (custom : Option String) (head other : FieldHead) : Prop where
  aliasName : other.aliasName = head.aliasName
  name : other.name = head.name
  directives : other.directives = head.directives
  arguments : Argument.Reordered custom head.arguments other.arguments

end FieldHead

namespace Argument
variable {custom : Option String}

/-- Reordered arguments leave values which are printed alike under the same names, and the same
values under the names of identifiers. -/
theorem Reordered.writes {arguments others : List Argument}
    (reordered : Reordered custom arguments others) :
    Json.WrittenAlike (writes arguments) (writes others) ∧
      ∀ name ∈ identifierNames custom, OrderedMap.get? (writes arguments).reverse name =
        OrderedMap.get? (writes others).reverse name := by
  induction reordered with
  | refl arguments => exact ⟨fun _ => rfl, fun _ _ => rfl⟩
  | trans _ _ first second =>
    exact ⟨fun name => (first.1 name).trans (second.1 name),
      fun name named => (first.2 name named).trans (second.2 name named)⟩
  | @moved arguments others distinct perm =>
    have keys : ((Argument.writes arguments).map Prod.fst).Nodup := by
      rw [Argument.writes, List.map_map]
      exact distinct
    have moved : (Argument.writes arguments).Perm (Argument.writes others) := perm.map _
    exact ⟨.of_perm keys moved, fun name _ => (OrderedMap.get?_reverse_perm keys moved name).symm⟩
  | value before after name filter inner =>
    simp only [Argument.writes, List.map_append, List.map_cons]
    refine ⟨.of_one _ _ name inner.print_eq.2, fun other named => ?_⟩
    have apart : name ≠ other := by
      rintro rfl
      exact filter named
    rw [Json.get?_reverse_one, Json.get?_reverse_one, if_neg apart, if_neg apart]

end Argument

/-- An identifier is chosen by what stands under the names of identifiers. -/
theorem firstIdentifier?_congr {α : Type} {entries others : OrderedMap String α}
    {custom : Option String} (same : ∀ name ∈ identifierNames custom,
      OrderedMap.get? entries name = OrderedMap.get? others name) :
    firstIdentifier? entries custom = firstIdentifier? others custom := by
  rw [firstIdentifier?, firstIdentifier?]
  generalize identifierNames custom = names at same
  induction names with
  | nil => rfl
  | cons name rest ih =>
    obtain ⟨own, later⟩ := List.forall_mem_cons.mp same
    rw [List.findSome?_cons, List.findSome?_cons, own, ih later]

namespace FieldHead
variable {custom : Option String} {head other : FieldHead}

/-- A field is given what was written last under a name that is not reserved. -/
theorem get?_given (head : FieldHead) (name : String) : OrderedMap.get? head.given name =
    if isReserved name then none
    else OrderedMap.get? (Argument.writes head.arguments).reverse name := by
  have kept := OrderedMap.get?_filter (Argument.writes head.arguments).reverse (!isReserved ·) name
  rw [given, OrderedMap.get?_ofList, ← List.filter_reverse]
  refine kept.trans ?_
  cases isReserved name <;> rfl

theorem tidy_given (head : FieldHead) : (Json.object head.given).Tidy := by
  refine Json.tidy_ofList fun entry member => ?_
  obtain ⟨argument, _, rfl⟩ := List.mem_map.mp (List.mem_of_mem_filter member)
  exact argument.value.tidy_argumentValue

/-- Reordered fields are given what is printed alike, and the same identifiers. -/
theorem Reordered.given (reordered : head.Reordered custom other) :
    Json.print Json.keyStyle (.object head.given) = Json.print Json.keyStyle (.object other.given) ∧
      firstIdentifier? head.given custom = firstIdentifier? other.given custom := by
  obtain ⟨alike, identifiers⟩ := reordered.arguments.writes
  constructor
  · refine Json.print_object_congr head.tidy_given other.tidy_given fun name => ?_
    rw [get?_given, get?_given]
    split
    · rfl
    · exact alike name
  · refine firstIdentifier?_congr fun name named => ?_
    rw [get?_given, get?_given, identifiers name named]

end FieldHead

/-! ## Nodes -/

/-- The same entries, or objects that are printed alike. -/
inductive Entry.Alike : Entry → Entry → Prop where
  | refl (entry : Entry) : Alike entry entry
  | object {fields others : OrderedMap String Json} (one : (Json.object fields).Tidy)
      (two : (Json.object others).Tidy)
      (same : Json.print Json.keyStyle (.object fields) = Json.print Json.keyStyle (.object others)) :
      Alike (.literal (.object fields)) (.literal (.object others))

theorem Entry.Alike.isMapping_eq {entry other : Entry} (alike : entry.Alike other) :
    entry.isMapping = other.isMapping := by
  cases alike with
  | refl => rfl
  | object => rfl

/-- Nodes with the same type, the same identifier and alike arguments. -/
structure Node.KeyedAlike (node other : Node) : Prop where
  typeName : OrderedMap.get? node Mark.typeName = OrderedMap.get? other Mark.typeName
  identifier : OrderedMap.get? node Mark.identifier = OrderedMap.get? other Mark.identifier
  arguments : Option.Rel Entry.Alike (OrderedMap.get? node Mark.arguments)
    (OrderedMap.get? other Mark.arguments)

namespace Node
variable {node other : Node}

/-- Objects that are printed alike are so without some of their names, and both have fields then or
neither has. -/
private theorem print_filter {fields others : OrderedMap String Json}
    (one : (Json.object fields).Tidy) (two : (Json.object others).Tidy)
    (same : Json.print Json.keyStyle (.object fields) = Json.print Json.keyStyle (.object others))
    (keep : String → Bool) :
    Json.print Json.keyStyle (.object (fields.filter (keep ·.1))) =
        Json.print Json.keyStyle (.object (others.filter (keep ·.1))) ∧
      (fields.filter (keep ·.1)).isEmpty = (others.filter (keep ·.1)).isEmpty := by
  have tidy {fields : OrderedMap String Json} (whole : (Json.object fields).Tidy) :
      (Json.object (fields.filter (keep ·.1))).Tidy := by
    cases whole with
    | object unique each =>
      exact .object (unique.sublist (List.filter_sublist.map Prod.fst)) fun field member =>
        each field (List.mem_of_mem_filter member)
  have alike (name : String) :
      (OrderedMap.get? (fields.filter (keep ·.1)) name).map (Json.print Json.keyStyle) =
        (OrderedMap.get? (others.filter (keep ·.1)) name).map (Json.print Json.keyStyle) := by
    rw [OrderedMap.get?_filter, OrderedMap.get?_filter]
    split
    · exact one.print_field two same name
    · rfl
  have printed := Json.print_object_congr (tidy one) (tidy two) alike
  refine ⟨printed, ?_⟩
  have none := same_nil_iff ((tidy one).same_of_print (tidy two) printed)
  rw [Bool.eq_iff_iff, List.isEmpty_iff, List.isEmpty_iff, none]

/-- Such nodes have the same key. -/
theorem KeyedAlike.queryKey_eq (alike : node.KeyedAlike other) (name : Option String) :
    node.queryKey name = other.queryKey name := by
  obtain ⟨type, identifier, arguments⟩ := alike
  have own : node.cacheKey = other.cacheKey := by
    simp only [cacheKey, typeLabel, Node.identifier, Node.typeName, mark, type, identifier]
  have equal (same : node.arguments = other.arguments) :
      node.queryKey name = other.queryKey name := by
    rw [queryKey, queryKey, filters, filters, argumentFields, argumentFields, own, same]
  rw [Node.arguments, Node.arguments, mark, mark] at equal
  revert arguments equal
  generalize left : OrderedMap.get? node Mark.arguments = value
  generalize right : OrderedMap.get? other Mark.arguments = value'
  intro arguments equal
  cases arguments with
  | none => exact equal rfl
  | some same =>
    cases same with
    | refl entry => exact equal rfl
    | object one two printed =>
      rename_i fields others
      have given : node.argumentFields = .ok fields := by
        rw [argumentFields, Node.arguments, mark, left]
        rfl
      have given' : other.argumentFields = .ok others := by
        rw [argumentFields, Node.arguments, mark, right]
        rfl
      obtain ⟨texts, none⟩ :=
        print_filter one two printed fun key => !(identifierNames name).contains key
      simp only [queryKey, filters, given, given', own, none, texts, bind, Except.bind, pure,
        Except.pure]

/-! ## Inlining fragments -/

section Related
variable {related : Entry → Entry → Prop} (refl : ∀ entry, related entry entry)
  (shape : ∀ entry other, related entry other → entry.isMapping = other.isMapping) {key : String}

include refl shape

/-- What two nodes have under a key stays related when the same is written into both. -/
private theorem absorb_related {node other fragment : Node}
    (alike : Option.Rel related (OrderedMap.get? node key) (OrderedMap.get? other key)) :
    Option.Rel related (OrderedMap.get? (node.absorb fragment) key)
      (OrderedMap.get? (other.absorb fragment) key) := by
  induction fragment generalizing node other with
  | nil => exact alike
  | cons first rest ih =>
    obtain ⟨name, entry⟩ := first
    by_cases own : name = key
    · subst own
      -- both nodes have a mapping there, which stays, or neither has, and the entry is written
      obtain ⟨mapping, held, shaped⟩ | free := node.held_or_free name
      · obtain ⟨mapping', held', related⟩ : ∃ mapping', OrderedMap.get? other name = some mapping' ∧
            related mapping mapping' := by
          rw [held] at alike
          generalize OrderedMap.get? other name = found at alike
          cases alike with
          | some same => exact ⟨_, rfl, same⟩
        rw [absorb_held held shaped, absorb_held held' (shape _ _ related ▸ shaped)]
        exact ih alike
      · have free' : ∀ present, OrderedMap.get? other name = some present →
            present.isMapping = false := by
          intro present found
          rw [found] at alike
          generalize OrderedMap.get? node name = own at alike free
          cases alike with
          | some same => rw [← shape _ _ same, free _ rfl]
        rw [absorb_free free, absorb_free free']
        refine ih ?_
        rw [OrderedMap.get?_insert_self, OrderedMap.get?_insert_self]
        exact .some (refl entry)
    · have step (node : Node) : ∃ next : Node, node.absorb ((name, entry) :: rest) = next.absorb rest ∧
          OrderedMap.get? next key = OrderedMap.get? node key := by
        obtain ⟨mapping, held, shaped⟩ | free := node.held_or_free name
        · exact ⟨node, absorb_held held shaped, rfl⟩
        · exact ⟨_, absorb_free free, OrderedMap.get?_insert_of_ne node entry own⟩
      obtain ⟨next, absorbed, kept⟩ := step node
      obtain ⟨next', absorbed', kept'⟩ := step other
      rw [absorbed, absorbed']
      exact ih (by rwa [kept, kept'])

/-- So it does when fragments are inlined for the same spreads. -/
theorem absorbSpreads_related {resolve : String → Spread} {own own' : Node} (written : Node)
    (alike : Option.Rel related (OrderedMap.get? own key) (OrderedMap.get? own' key)) :
    Option.Rel related (OrderedMap.get? (absorbSpreads resolve own written) key)
      (OrderedMap.get? (absorbSpreads resolve own' written) key) := by
  induction written generalizing own own' with
  | nil => exact alike
  | cons first rest ih =>
    obtain ⟨name, asked⟩ := first
    obtain skipped | ⟨fragment, rfl, plain, inlined⟩ := skipped_or_inlined resolve name asked
    · rw [absorbSpreads_skipped skipped, absorbSpreads_skipped skipped]
      exact ih alike
    · rw [absorbSpreads_inlined plain inlined, absorbSpreads_inlined plain inlined]
      exact ih (absorb_related refl shape alike)

end Related

/-- Only what a node requests is inlined in it. -/
theorem absorbSpreads_fields (resolve : String → Spread) (own written : Node) :
    absorbSpreads resolve own written = absorbSpreads resolve own written.fields := by
  induction written generalizing own with
  | nil => rfl
  | cons first rest ih =>
    obtain ⟨name, asked⟩ := first
    cases reserved : isReserved name with
    | true =>
      have skipped : asked = .requested → isReserved name = false →
          ∀ fragment, resolve name ≠ .inlined fragment := by
        intro _ plain
        rw [reserved] at plain
        cases plain
      rw [absorbSpreads_skipped skipped, ih, fields, fields,
        List.filter_cons_of_neg (by simp [reserved])]
    | false =>
      rw [fields, List.filter_cons_of_pos (by simp [reserved]), ← fields]
      obtain skipped | ⟨fragment, rfl, plain, inlined⟩ := skipped_or_inlined resolve name asked
      · rw [absorbSpreads_skipped skipped, absorbSpreads_skipped skipped, ih]
      · rw [absorbSpreads_inlined plain inlined, absorbSpreads_inlined plain inlined, ih]

/-- Nodes that request the same and have alike keys still do with fragments inlined. -/
theorem KeyedAlike.expand (alike : node.KeyedAlike other) (same : node.fields = other.fields)
    (fragments : FragmentMap) (depth : Nat) (opened : List String) :
    KeyedAlike (Node.expand fragments depth opened node)
      (Node.expand fragments depth opened other) := by
  have kept {related : Entry → Entry → Prop} (refl : ∀ entry, related entry entry)
      (shape : ∀ entry other, related entry other → entry.isMapping = other.isMapping) {mark : String}
      (reserved : isReserved mark = true)
      (own : Option.Rel related (OrderedMap.get? node mark) (OrderedMap.get? other mark)) :
      Option.Rel related (OrderedMap.get? (Node.expand fragments depth opened node) mark)
        (OrderedMap.get? (Node.expand fragments depth opened other) mark) := by
    rw [expand_eq, expand_eq, inlineSpreads, inlineSpreads, absorbSpreads_fields _ _ node,
      absorbSpreads_fields _ _ other, same]
    refine absorbSpreads_related refl shape _ ?_
    rwa [get?_ownEntries reserved, get?_ownEntries reserved]
  have equal {mark : String} (reserved : isReserved mark = true)
      (own : OrderedMap.get? node mark = OrderedMap.get? other mark) :
      OrderedMap.get? (Node.expand fragments depth opened node) mark =
        OrderedMap.get? (Node.expand fragments depth opened other) mark := by
    have whole : Option.Rel Eq (OrderedMap.get? node mark) (OrderedMap.get? other mark) := by
      rw [own]
      cases OrderedMap.get? other mark with
      | none => exact .none
      | some entry => exact .some rfl
    have related :=
      kept (fun _ => rfl) (fun _ _ same => congrArg Entry.isMapping same) reserved whole
    revert related
    generalize OrderedMap.get? (Node.expand fragments depth opened node) mark = one
    generalize OrderedMap.get? (Node.expand fragments depth opened other) mark = two
    intro related
    cases related with
    | none => rfl
    | some same => rw [same]
  exact ⟨equal (by decide) alike.typeName, equal (by decide) alike.identifier,
    kept .refl (fun _ _ => Entry.Alike.isMapping_eq) (by decide) alike.arguments⟩

end Node

/-! ## Fields -/

namespace FieldHead
variable {custom : Option String} {head other : FieldHead}

theorem get?_marks_identifier (head : FieldHead) (custom : Option String) :
    OrderedMap.get? (head.marks custom) Mark.identifier =
      some (.literal ((firstIdentifier? head.given custom).getD .null)) := by
  rw [FieldHead.marks, OrderedMap.get?_overlay]
  rfl

theorem get?_marks_given (head : FieldHead) (custom : Option String) :
    OrderedMap.get? (head.marks custom) Mark.arguments =
      some (.literal (if head.given.isEmpty then .null else .object head.given)) := by
  rw [FieldHead.marks, OrderedMap.get?_overlay]
  rfl

/-- Fields that differ in the order of what they are given only are marked alike. -/
theorem Reordered.marks (reordered : head.Reordered custom other) :
    Node.KeyedAlike (head.marks custom) (other.marks custom) := by
  obtain ⟨printed, identifiers⟩ := reordered.given
  constructor
  · rw [get?_marks_typeName, get?_marks_typeName, reordered.name]
  · rw [get?_marks_identifier, get?_marks_identifier, identifiers]
  · rw [get?_marks_given, get?_marks_given]
    have none := Node.same_nil_iff (head.tidy_given.same_of_print other.tidy_given printed)
    by_cases empty : head.given = []
    · rw [empty, none.mp empty]
      exact .some (.refl _)
    · have some := mt none.mpr empty
      rw [if_neg (by simpa using empty), if_neg (by simpa using some)]
      exact .some (.object head.tidy_given other.tidy_given printed)

/-- A node is marked as its field is, but for relations in the place of marks. -/
theorem get?_node_marked (head : FieldHead) (custom : Option String) (selections : List Selection)
    {mark : String} (marked : mark ∈ Node.markNames) :
    OrderedMap.get? (head.node custom selections) mark =
      ((Selection.last? selections mark).map fun field =>
        Entry.relation (field.1.node custom field.2)).or (OrderedMap.get? (head.marks custom) mark) := by
  obtain ⟨value, own⟩ := head.exists_ownMark custom marked
  rw [head.get?_node_mark custom (get?_marks own), get?_marks own]
  cases Selection.last? selections mark <;> rfl

/-- So are their nodes, whatever both select. -/
theorem Reordered.node (reordered : head.Reordered custom other) (selections : List Selection) :
    Node.KeyedAlike (head.node custom selections) (other.node custom selections) := by
  obtain ⟨type, identifier, arguments⟩ := reordered.marks
  constructor
  · rw [get?_node_marked _ _ _ (by simp [Node.markNames]),
      get?_node_marked _ _ _ (by simp [Node.markNames]), type]
  · rw [get?_node_marked _ _ _ (by simp [Node.markNames]),
      get?_node_marked _ _ _ (by simp [Node.markNames]), identifier]
  · rw [get?_node_marked _ _ _ (by simp [Node.markNames]),
      get?_node_marked _ _ _ (by simp [Node.markNames])]
    cases Selection.last? selections Mark.arguments with
    | none => exact arguments
    | some field => exact .some (.refl _)

/-- What a node requests depends on what is selected only. -/
theorem fields_node (head : FieldHead) (custom : Option String) (selections : List Selection) :
    (head.node custom selections).fields =
      ((Node.ofNames (Selection.offered selections)).withRelations
        (Selection.relationsOf custom selections)).fields := by
  have marks : (head.marks custom).filter (!isReserved ·.1) = [] := by
    rw [List.filter_eq_nil_iff]
    intro entry member
    simp [reserved_of_mark (List.mem_map_of_mem member)]
  rw [FieldHead.node, opening, Node.withRelations, Node.withRelations, Node.fields, Node.fields,
    OrderedMap.filter_overlay _ _ (!isReserved ·), OrderedMap.filter_overlay _ _ (!isReserved ·),
    OrderedMap.filter_overlay _ _ (!isReserved ·), marks]
  rfl

end FieldHead

/-! ## Documents -/

/-- Selections of an operation that differ in the order of what fields are given. What they select
below is related. -/
inductive Selection.Reordered (custom : Option String)
    (below : List Selection → List Selection → Prop) : Selection → Selection → Prop where
  | leaf {head other : FieldHead} (heads : head.Reordered custom other) :
      Reordered custom below (.leaf head) (.leaf other)
  | relation {head other : FieldHead} {selections inner : List Selection}
      (heads : head.Reordered custom other) (inside : below selections inner) :
      Reordered custom below (.relation head selections) (.relation other inner)
  | spread (fragment : String) (directives : List Directive) :
      Reordered custom below (.spread fragment directives) (.spread fragment directives)
  | inlineFragment (condition : Option String) (directives : List Directive)
      (selections : List Selection) :
      Reordered custom below (.inlineFragment condition directives selections)
        (.inlineFragment condition directives selections)

/-- Definitions of which the operations differ at their top only. -/
inductive Definition.Reordered (custom : Option String)
    (below : List Selection → List Selection → Prop) : Definition → Definition → Prop where
  | operation (asked : Operation) {selections : List Selection}
      (each : List.Forall₂ (Selection.Reordered custom below) asked.selections selections) :
      Reordered custom below (.operation asked) (.operation { asked with selections := selections })
  | fragment (shared : Fragment) {selections : List Selection}
      (inside : below shared.selections selections) :
      Reordered custom below (.fragment shared) (.fragment { shared with selections := selections })
  | typeSystem (directives : List (List Directive)) :
      Reordered custom below (.typeSystem directives) (.typeSystem directives)

/-- Documents whose roots differ in the order of what they are given. What is selected below them,
and in fragments, is related. -/
def Document.Reordered (custom : Option String) (below : List Selection → List Selection → Prop)
    (document other : Document) : Prop :=
  List.Forall₂ (Definition.Reordered custom below) document.definitions other.definitions

private theorem forall₂_of_members {α β : Type} {related : α → β → Prop} {one : α → Prop}
    {two : β → Prop} {items : List α} {others : List β} (each : List.Forall₂ related items others)
    (left : ∀ item ∈ items, one item) (right : ∀ other ∈ others, two other) :
    List.Forall₂ (fun item other => one item ∧ two other ∧ related item other) items others := by
  induction each with
  | nil => exact .nil
  | cons own _ ih =>
    obtain ⟨first, later⟩ := List.forall_mem_cons.mp left
    obtain ⟨first', later'⟩ := List.forall_mem_cons.mp right
    exact .cons ⟨first, first', own⟩ (ih later later')

/-- Nodes of fields that differ in the order of what they are given, with related selections. -/
def Node.Reordered (custom : Option String) (below : List Selection → List Selection → Prop)
    (node other : Node) : Prop :=
  ∃ head head' selections selections', FieldHead.Reordered custom head head' ∧
    below selections selections' ∧ node = head.node custom selections ∧
      other = head'.node custom selections'

/-- Prototypes with the same roots in the same order, which have the same keys. -/
def Prototype.KeyedAlike (prototype other : Prototype) : Prop :=
  List.Forall₂ (fun root root' => root.1 = root'.1 ∧
    ∀ name, Node.queryKey root.2 name = Node.queryKey root'.2 name) prototype other

namespace Selection
variable {custom : Option String} {below : List Selection → List Selection → Prop}

theorem branches_reordered {selections others : List Selection}
    (each : List.Forall₂ (Selection.Reordered custom below) selections others) :
    List.Forall₂ (fun branch other => branch.1 = other.1 ∧
        (branch.2.1.Reordered custom other.2.1 ∧ below branch.2.2 other.2.2))
      (branches selections) (branches others) := by
  induction each with
  | nil => exact .nil
  | cons own _ ih =>
    cases own with
    | leaf heads => exact ih
    | spread fragment directives => exact ih
    | inlineFragment condition directives selections => exact ih
    | relation heads inside =>
      refine .cons ⟨?_, heads, inside⟩ ih
      rw [FieldHead.responseKey, FieldHead.responseKey, heads.aliasName, heads.name]

end Selection

namespace Document
variable {custom : Option String} {below : List Selection → List Selection → Prop}
  {document other : Document}

theorem Reordered.rootSelections (reordered : document.Reordered custom below other) :
    List.Forall₂ (Selection.Reordered custom below) document.rootSelections other.rootSelections := by
  obtain ⟨definitions⟩ := document
  obtain ⟨others⟩ := other
  simp only [Document.Reordered] at reordered
  simp only [Document.rootSelections, operations]
  induction reordered with
  | nil => exact .nil
  | cons own _ ih =>
    cases own with
    | operation asked each => exact List.rel_append each ih
    | fragment shared inside => exact ih
    | typeSystem directives => exact ih

/-- Where nothing below the roots differs, the fragments are the same. -/
theorem Reordered.fragments_eq (reordered : document.Reordered custom below other)
    (same : ∀ selections inner, below selections inner → selections = inner) :
    document.fragments = other.fragments := by
  obtain ⟨definitions⟩ := document
  obtain ⟨others⟩ := other
  simp only [Document.Reordered] at reordered
  simp only [fragments]
  induction reordered with
  | nil => rfl
  | cons own _ ih =>
    cases own with
    | operation asked each => exact ih
    | fragment shared inside =>
      rw [← same _ _ inside]
      exact congrArg (shared :: ·) ih
    | typeSystem directives => exact ih

/-- The roots of both documents, one by one. -/
theorem Reordered.roots (reordered : document.Reordered custom below other) :
    List.Forall₂ (fun root root' => root.1 = root'.1 ∧ Node.Reordered custom below root.2 root'.2)
      (document.translatedRoots custom) (other.translatedRoots custom) := by
  rw [translatedRoots_eq, translatedRoots_eq, Selection.relationsOf_eq_map,
    Selection.relationsOf_eq_map]
  have written : OrderedMap.Along id (fun _ => Node.Reordered custom below)
      ((Selection.branches document.rootSelections).map fun branch =>
        (branch.1, branch.2.1.node custom branch.2.2))
      ((Selection.branches other.rootSelections).map fun branch =>
        (branch.1, branch.2.1.node custom branch.2.2)) := by
    rw [OrderedMap.Along, List.forall₂_map_left_iff, List.forall₂_map_right_iff]
    refine (Selection.branches_reordered reordered.rootSelections).imp fun branch branch' own => ?_
    exact ⟨own.1.symm, _, _, _, _, own.2.1, own.2.2, rfl, rfl⟩
  exact List.Forall₂.imp (fun _ _ own => ⟨own.1.symm, own.2⟩)
    (OrderedMap.Along.ofList Function.injective_id written)

end Document

namespace Node
variable {custom : Option String} {below : List Selection → List Selection → Prop}
  {node other : Node}

/-- With the same selections below them such nodes have alike keys and request the same. -/
theorem Reordered.keyed (reordered : Node.Reordered custom below node other)
    (same : ∀ selections inner, below selections inner → selections = inner) :
    node.KeyedAlike other ∧ node.fields = other.fields := by
  obtain ⟨head, head', selections, selections', heads, inside, rfl, rfl⟩ := reordered
  obtain rfl := same _ _ inside
  exact ⟨heads.node selections, by rw [FieldHead.fields_node, FieldHead.fields_node]⟩

/-- The marks that make a key are those of the field. -/
def Marked (node : Node) : Prop :=
  ∀ mark ∈ markNames, ∃ value, OrderedMap.get? node mark = some (.literal value)

/-- So they have with any selections below them that do not take the place of marks. -/
theorem Reordered.keyed_of_marked (reordered : Node.Reordered custom below node other)
    (marked : node.Marked) (marked' : other.Marked) : node.KeyedAlike other := by
  obtain ⟨head, head', selections, selections', heads, _, rfl, rfl⟩ := reordered
  have own {head : FieldHead} {selections : List Selection}
      (marked : (head.node custom selections).Marked) {mark : String} (named : mark ∈ markNames) :
      OrderedMap.get? (head.node custom selections) mark =
        OrderedMap.get? (head.marks custom) mark := by
    obtain ⟨value, literal⟩ := marked mark named
    rw [head.get?_node_marked custom selections named] at literal ⊢
    cases last : Selection.last? selections mark with
    | none => rfl
    | some field =>
      rw [last] at literal
      cases literal
  obtain ⟨type, identifier, arguments⟩ := heads.marks
  constructor
  · rw [own marked (by simp [markNames]), own marked' (by simp [markNames]), type]
  · rw [own marked (by simp [markNames]), own marked' (by simp [markNames]), identifier]
  · rw [own marked (by simp [markNames]), own marked' (by simp [markNames])]
    exact arguments

end Node

namespace Document
variable {custom : Option String} {below : List Selection → List Selection → Prop}
  {document other : Document}

/-- Without marks among the names no root loses its own, with fragments inlined or without. -/
theorem Unmarked.marked (unmarked : document.Unmarked)
    (clear : (document.compile custom).obstacle = none) :
    ∀ root ∈ document.translatedRoots custom, root.2.Marked ∧
      ∀ mark ∈ Node.markNames, ∀ depth opened, OrderedMap.get?
        (Node.expand (document.translatedFragments custom) depth opened root.2) mark =
          OrderedMap.get? root.2 mark := by
  intro root member
  rw [← (compiled_trees clear).1] at member
  obtain ⟨field, last, same⟩ := root_of_mem clear member
  constructor
  · intro mark named
    obtain ⟨value, own⟩ := field.1.exists_ownMark custom named
    have unmarked := ((unmarked.plain_roots clear).last? last).2.unmarked
      (Node.reserved_of_markNames named)
    rw [same, field.1.get?_node_marked custom field.2 named, unmarked, FieldHead.get?_marks own]
    exact ⟨value, rfl⟩
  · intro mark named depth opened
    refine Node.get?_expand (Node.reserved_of_markNames named) (fun name fragment found => ?_) ..
    obtain ⟨shared, defined, rfl⟩ := get?_translatedFragments_iff.mp found
    exact Fragment.get?_node_absent ((unmarked.plain_fragment clear shared
      (named_of_fragment? defined).1).absent (Node.reserved_of_markNames named))

/-- Roots that differ in the order of what they are given have the same keys, with fragments inlined
and without. -/
theorem Reordered.keyed (reordered : document.Reordered custom below other)
    (clear : (document.compile custom).obstacle = none)
    (clear' : (other.compile custom).obstacle = none)
    (inside : (∀ selections inner, below selections inner → selections = inner) ∨
      document.Unmarked ∧ other.Unmarked) :
    Prototype.KeyedAlike (document.compile custom).prototype (other.compile custom).prototype ∧
      Prototype.KeyedAlike (document.expanded custom) (other.expanded custom) := by
  obtain ⟨roots, fragments⟩ := compiled_trees clear
  obtain ⟨roots', fragments'⟩ := compiled_trees clear'
  rw [expanded, expanded, roots, roots', fragments, fragments', Prototype.expand, Prototype.expand,
    Prototype.KeyedAlike, Prototype.KeyedAlike, List.forall₂_map_left_iff,
    List.forall₂_map_right_iff]
  obtain same | ⟨unmarked, unmarked'⟩ := inside
  · have shared : document.translatedFragments custom = other.translatedFragments custom := by
      rw [translatedFragments, translatedFragments, reordered.fragments_eq same]
    rw [shared]
    constructor
    · refine reordered.roots.imp fun root root' alike => ⟨alike.1, fun name => ?_⟩
      exact (alike.2.keyed same).1.queryKey_eq name
    · refine reordered.roots.imp fun root root' alike => ⟨alike.1, fun name => ?_⟩
      obtain ⟨keyed, fields⟩ := alike.2.keyed same
      exact (keyed.expand fields _ _ _).queryKey_eq name
  · have alike :=
      forall₂_of_members reordered.roots (unmarked.marked clear) (unmarked'.marked clear')
    constructor
    · refine alike.imp fun root root' each => ?_
      obtain ⟨own, own', same, keyed⟩ := each
      refine ⟨same, fun name => ?_⟩
      exact (keyed.keyed_of_marked own.1 own'.1).queryKey_eq name
    · refine alike.imp fun root root' each => ?_
      obtain ⟨own, own', same, keyed⟩ := each
      refine ⟨same, fun name => ?_⟩
      have written := (keyed.keyed_of_marked own.1 own'.1).queryKey_eq name
      exact (Node.queryKey_congr (fun mark named => own.2 mark named _ _) name).trans
        (written.trans (Node.queryKey_congr (fun mark named => own'.2 mark named _ _) name).symm)

end Document

/-! ## Lookups -/

/-- Roots with the same keys are looked up alike. -/
theorem Prototype.KeyedAlike.lookupRoots_eq {τ : Type} [Instant τ] {prototype other : Prototype}
    (alike : prototype.KeyedAlike other) (store : Store τ) (now : τ) (name : Option String) :
    Client.lookupRoots store now name prototype = Client.lookupRoots store now name other := by
  induction alike with
  | nil => rfl
  | @cons root root' rest rest' own _ ih =>
    obtain ⟨key, node⟩ := root
    obtain ⟨key', node'⟩ := root'
    obtain ⟨rfl, keyed⟩ := own
    rw [Client.lookupRoots, Client.lookupRoots, ih, keyed name]

section Found
variable {τ : Type} [Instant τ] [LinearOrder τ] [Add τ] [Instant.Exact τ]

/-- Two documents of which the second one differs in the order of what its roots are given have the
same roots in the same order, and these have the same keys for every identifier name, with
fragments inlined and without. What is selected below is the same, or no field is renamed to
look like a mark. So whatever a store holds, both find the same in it; and when a call with the
one has returned, a call with the other finds what was answered, as the same call would. -/
theorem Document.reordered_found {document other : Document} {custom : Option String}
    {below : List Selection → List Selection → Prop}
    (reordered : document.Reordered custom below other)
    (clear : (document.compile custom).obstacle = none)
    (clear' : (other.compile custom).obstacle = none)
    (inside : (∀ selections inner, below selections inner → selections = inner) ∨
      document.Unmarked ∧ other.Unmarked) :
    Prototype.KeyedAlike (document.compile custom).prototype (other.compile custom).prototype ∧
    Prototype.KeyedAlike (document.expanded custom) (other.expanded custom) ∧
    (∀ (store : Store τ) (now : τ) (name : Option String),
      Client.lookupRoots store now name (document.expanded custom) =
        Client.lookupRoots store now name (other.expanded custom)) ∧
    ∀ (client : Client τ) (call call' : Call) (settings : Settings),
      settings.cache.custom = custom → client.Queries call settings document →
      client.Queries call' settings other →
      ∀ (store : Store τ) (early now later : τ) (opening : Opening τ) (delivery : Delivery)
        (answer returned : Answer) (data : OrderedMap String Json),
        (client.begin call store early).result = .ok opening →
        delivery.answer opening.request.endpoint = .ok answer →
        Client.dataOf answer = .object data →
        (client.finish opening delivery store now).result = .ok returned →
        later < now + Instant.ofSeconds settings.cache.lifetime →
        ∃ cached,
          (client.begin call' (client.finish opening delivery store now).store later).result =
            .ok ⟨Client.request settings call' "POST", Client.queryPlan settings call' other cached⟩ ∧
          ∀ before root node value rest,
            (document.expanded custom).carriedRoots data = before ++ (root, node, value) :: rest →
            (∀ other ∈ rest, ∀ key label, node.queryKey (client.lookupName settings) = .ok key →
              other.2.1.queryKey (client.lookupName settings) = .ok label →
              store.filedAs label ≠ store.filedAs key) →
            List.Forall₂
              ((client.filingOf settings call document data now).Keeps
                ((document.expanded custom).occurrences data))
              (node.identified root (client.lookupName settings) value)
              (((OrderedMap.get? cached root).getD []).map Record.content) := by
  obtain ⟨compiled, expanded⟩ := reordered.keyed clear clear' inside
  have looked (store : Store τ) (now : τ) := expanded.lookupRoots_eq store now
  refine ⟨compiled, expanded, looked, ?_⟩
  rintro client call call' settings rfl queries queries' store early now later opening delivery
    answer returned data begun delivered object finished soon
  obtain ⟨cached, second⟩ := Client.looks_again queries begun finished later
  refine ⟨cached, (Client.begin_ok_iff queries').mpr ⟨cached, ?_, rfl⟩, ?_⟩
  · rw [← looked, second]
  · intro before root node value rest place last
    exact Client.root_found_again queries begun delivered object finished soon second place
      fun other later key label named labelled same =>
        absurd same (last other later key label named labelled)

end Found

namespace Permuted

def call (arguments : String) : Call :=
  ⟨"https://api.example.test/graphql", "\x7b country(" ++ arguments ++ ") \x7b id \x7d \x7d",
    [], [], [], []⟩

def document (arguments : List Argument) : Document where
  definitions := [.operation ⟨.query, none, [], [],
    [.relation ⟨none, "country", arguments, []⟩ [.leaf ⟨none, "id", [], []⟩]]⟩]

def items : Literal := .list [.int "2"]

/-- The arguments in one order. -/
def first : Document :=
  document [⟨"id", .int "1"⟩, ⟨"where", .object [("a", .int "1"), ("b", items)]⟩]

/-- The arguments in another order, and the fields of one of them as well. -/
def second : Document :=
  document [⟨"where", .object [("b", items), ("a", .int "1")]⟩, ⟨"id", .int "1"⟩]

theorem reordered : first.Reordered none Eq second := by
  refine .cons (.operation _ (.cons (.relation ⟨rfl, rfl, rfl, ?_⟩ rfl) .nil)) .nil
  have fields : (Literal.object [("a", .int "1"), ("b", items)]).Reordered
      (.object [("b", items), ("a", .int "1")]) := .moved (by decide) (.swap ..)
  have moved := @Argument.Reordered.value none _ _ [⟨"id", .int "1"⟩] [] "where" (by decide) fields
  exact moved.trans (.moved (by decide) (.swap ..))

def firstCall : Call := call "id: 1, where: \x7ba: 1, b: [2]\x7d"

def secondCall : Call := call "where: \x7bb: [2], a: 1\x7d, id: 1"

def store : Store Int := .memory ⟨[], []⟩

def value : Json := .object [("id", .int 1)]

def node : Node :=
  [("id", .requested), ("__id", .literal (.string "1")), ("__type", .literal (.string "country")),
   ("__alias", .literal .null),
   ("__args", .literal (.object [("id", .string "1"),
     ("where", .object [("a", .int 1), ("b", .array [.int 2])])]))]

def delivery : Delivery :=
  .answered 200 (Json.print Json.bodyStyle (.object [("data", .object [("country", value)])]))

def opening : Opening Int :=
  ⟨Client.request .standard firstCall "POST", Client.queryPlan .standard firstCall first []⟩

set_option maxRecDepth 4000 in
theorem queries : Client.standard.Queries firstCall .standard first := ⟨rfl, by cbv, by decide⟩

set_option maxRecDepth 4000 in
theorem queries' : Client.standard.Queries secondCall .standard second := ⟨rfl, by cbv, by decide⟩

theorem begun : (Client.standard.begin firstCall store 0).result = .ok opening :=
  (Client.begin_ok_iff queries).mpr ⟨[], except_ok_of_toOption (by decide +kernel), rfl⟩

theorem delivered : delivery.answer opening.request.endpoint =
    .ok [("data", .object [("country", value)])] :=
  except_ok_of_toOption (by decide +kernel)

theorem finished : (Client.standard.finish opening delivery store 1).result =
    .ok [("data", .object [("country", value)])] :=
  except_ok_of_toOption (by decide +kernel)

end Permuted

open Permuted in
theorem Document.reordered_found_country :
    ∃ cached,
      (Client.standard.begin secondCall (Client.standard.finish opening delivery store 1).store
        600).result = .ok ⟨Client.request .standard secondCall "POST",
          Client.queryPlan .standard secondCall second cached⟩ ∧
      List.Forall₂
        ((Client.standard.filingOf .standard firstCall first [("country", value)] 1).Keeps
          ((first.expanded none).occurrences [("country", value)]))
        (node.identified "country" none value)
        (((OrderedMap.get? cached "country").getD []).map Record.content) := by
  have clear : (first.compile none).obstacle = none := by decide
  have clear' : (second.compile none).obstacle = none := by decide
  obtain ⟨_, _, _, found⟩ :=
    @reordered_found Int _ _ _ _ _ _ _ _ reordered clear clear' (.inl fun _ _ same => same)
  obtain ⟨cached, again, kept⟩ := found Client.standard firstCall secondCall .standard rfl queries
    queries' store 0 1 600 opening delivery _ _ _ begun delivered rfl finished
    (show (600 : Int) < 1 + 600 by decide)
  exact ⟨cached, again, kept [] "country" node value [] rfl (by simp)⟩

end GraphCache
