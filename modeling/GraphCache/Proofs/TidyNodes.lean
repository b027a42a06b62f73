import GraphCache.Proofs.FaithfulAnswer
import GraphCache.Proofs.PrintedValues

/-! The values in compiled nodes. Whatever a document writes for an argument, its value has one
field of a name in each object and numbers in their only form, and so has a whole node as a
value. So what is printed of a node shows what was printed. -/
namespace GraphCache

namespace Json

theorem tidy_numeral (numeral : Numeral) : numeral.value.Tidy := by
  unfold Numeral.value
  split
  · exact .int _
  · exact .float (Binary64.normal_ofDecimal _ _ _)

theorem tidy_ofList {fields : List (String × Json)} (each : ∀ field ∈ fields, Tidy field.2) :
    Tidy (.object (OrderedMap.ofList fields)) := by
  refine .object (OrderedMap.keys_ofList_nodup fields) fun field member => ?_
  obtain none | written := OrderedMap.mem_of_mem_overlay member
  · cases none
  · exact each field written

/-- The fields of a tidy object are tidy. -/
theorem Tidy.field {fields : OrderedMap String Json} (tidy : (Json.object fields).Tidy)
    {field : String × Json} (member : field ∈ fields) : field.2.Tidy := by
  cases tidy with
  | object unique each => exact each field member

end Json

/-! ## Arguments -/

mutual

theorem Literal.tidy_value : (literal : Literal) → literal.value.Tidy
  | .parameter _ => .null
  | .int digits => by
    rw [Literal.value]
    split <;> exact .int _
  | .float digits => by
    rw [Literal.value]
    split
    · exact Json.tidy_numeral _
    · exact .null
  | .string text => .string text
  | .boolean value => .bool value
  | .null => .null
  | .enum name => .string name
  | .list items => .array (Literal.tidy_values items)
  | .object fields => Json.tidy_ofList (Literal.tidy_fieldValues fields)

theorem Literal.tidy_values : (items : List Literal) → ∀ value ∈ Literal.values items, value.Tidy
  | [], _, member => by cases member
  | item :: rest, value, member => by
    obtain rfl | later := List.mem_cons.mp member
    · exact item.tidy_value
    · exact Literal.tidy_values rest value later

theorem Literal.tidy_fieldValues : (fields : List (String × Literal)) →
    ∀ field ∈ Literal.fieldValues fields, field.2.Tidy
  | [], _, member => by cases member
  | (name, literal) :: rest, field, member => by
    obtain rfl | later := List.mem_cons.mp member
    · exact literal.tidy_value
    · exact Literal.tidy_fieldValues rest field later

end

theorem Literal.tidy_argumentValue (literal : Literal) : literal.argumentValue.Tidy := by
  unfold Literal.argumentValue
  split
  · exact .string _
  · exact .string _
  · exact literal.tidy_value

/-! ## Nodes -/

/-- A node that has each key once, and tidy values under its keys. -/
structure Node.Tidy (node : Node) : Prop where
  unique : (OrderedMap.keys node).Nodup
  each : ∀ entry ∈ node, entry.2.toJson.Tidy

namespace Node

variable {node : Node}

theorem fieldsToJson_eq (entries : List (String × Entry)) :
    Entry.fieldsToJson entries = entries.map fun entry => (entry.1, entry.2.toJson) := by
  induction entries with
  | nil => rfl
  | cons entry rest ih =>
    obtain ⟨key, entry⟩ := entry
    rw [Entry.fieldsToJson, ih, List.map_cons]

/-- As a value such a node is tidy. -/
theorem Tidy.toJson (tidy : node.Tidy) : Json.Tidy (.object (Entry.fieldsToJson node)) := by
  rw [fieldsToJson_eq]
  refine .object ?_ fun field member => ?_
  · rw [OrderedMap.keys, List.map_map]
    exact tidy.unique
  · obtain ⟨entry, inside, rfl⟩ := List.mem_map.mp member
    exact tidy.each entry inside

/-- All marks of such a node are tidy. -/
theorem Tidy.mark (tidy : node.Tidy) (key : String) : (node.mark key).Tidy := by
  rw [Node.mark]
  cases found : OrderedMap.get? node key with
  | none => exact .null
  | some entry => exact tidy.each _ (OrderedMap.mem_of_get?_eq_some found)

theorem Tidy.overlay {base above : Node} (one : base.Tidy)
    (two : ∀ entry ∈ above, entry.2.toJson.Tidy) : Tidy (OrderedMap.overlay base above) where
  unique := OrderedMap.keys_overlay_nodup one.unique above
  each := fun entry member => (OrderedMap.mem_of_mem_overlay member).elim (one.each entry) (two entry)

theorem tidy_ofNames (names : List String) : (Node.ofNames names).Tidy := by
  refine Tidy.overlay ⟨List.nodup_nil, by simp⟩ fun entry member => ?_
  obtain ⟨name, _, rfl⟩ := List.mem_map.mp member
  exact .bool true

end Node

/-- The arguments that a field is marked with. -/
def FieldHead.given (head : FieldHead) : OrderedMap String Json :=
  OrderedMap.ofList ((head.arguments.map fun argument =>
    (argument.name, argument.value.argumentValue)).filter fun entry => !isReserved entry.1)

/-- A field is marked with tidy values. -/
theorem FieldHead.tidy_marks (head : FieldHead) (custom : Option String) :
    (head.marks custom).Tidy := by
  have given : ∀ entry ∈ head.arguments.map fun argument =>
      (argument.name, argument.value.argumentValue), entry.2.Tidy := by
    intro entry member
    obtain ⟨argument, _, rfl⟩ := List.mem_map.mp member
    exact argument.value.tidy_argumentValue
  have whole : Json.Tidy (.object head.given) :=
    Json.tidy_ofList fun entry member => given entry (List.mem_of_mem_filter member)
  have written := (Node.Tidy.mk (List.nodup_singleton _) (by simp [Entry.toJson, Json.Tidy.null]) :
    Node.Tidy [(Mark.identifier, .literal .null)])
  refine (written.overlay fun entry member => ?_).overlay fun entry member => ?_
  · obtain ⟨argument, inside, rfl⟩ := List.mem_map.mp member
    exact given argument (List.mem_of_mem_filter inside)
  · simp only [List.mem_cons, List.not_mem_nil, or_false] at member
    rcases member with rfl | rfl | rfl | rfl
    · cases first : firstIdentifier? _ custom with
      | none => exact .null
      | some value =>
        obtain ⟨name, _, found⟩ := List.exists_of_findSome?_eq_some first
        exact whole.field (OrderedMap.mem_of_get?_eq_some found)
    · exact .string _
    · cases head.aliasName with
      | none => exact .null
      | some aliasName => exact .string aliasName
    · change Json.Tidy (if _ then _ else _)
      split
      · exact .null
      · exact whole

/-- A node is tidy if all nodes right below it are. -/
theorem FieldHead.tidy_node (head : FieldHead) (custom : Option String) {selections : List Selection}
    (below : ∀ entry ∈ Selection.relationsOf custom selections, Node.Tidy entry.2) :
    (head.node custom selections).Tidy := by
  refine ((Node.tidy_ofNames _).overlay (head.tidy_marks custom).each).overlay
    fun entry member => ?_
  obtain ⟨field, inside, rfl⟩ := List.mem_map.mp member
  exact (below field inside).toJson

mutual

/-- All nodes of a selection set are tidy. -/
theorem Selection.tidy_relations (custom : Option String) : (selection : Selection) →
    ∀ entry ∈ selection.relations custom, Node.Tidy entry.2
  | .relation head selections, entry, member => by
    rw [List.mem_singleton.mp member]
    exact head.tidy_node custom (Selection.tidy_relationsOf custom selections)
  | .leaf _, _, member => by cases member
  | .spread .., _, member => by cases member
  | .inlineFragment .., _, member => by cases member

theorem Selection.tidy_relationsOf (custom : Option String) : (selections : List Selection) →
    ∀ entry ∈ Selection.relationsOf custom selections, Node.Tidy entry.2
  | [], _, member => by cases member
  | selection :: rest, entry, member => by
    obtain own | later := List.mem_append.mp member
    · exact Selection.tidy_relations custom selection entry own
    · exact Selection.tidy_relationsOf custom rest entry later

end

/-- The node of a fragment is tidy. -/
theorem Fragment.tidy_node (shared : Fragment) (custom : Option String) :
    (shared.node custom).Tidy := by
  refine (Node.tidy_ofNames _).overlay fun entry member => ?_
  obtain ⟨field, inside, rfl⟩ := List.mem_map.mp member
  exact (Selection.tidy_relationsOf custom shared.selections field inside).toJson

end GraphCache
