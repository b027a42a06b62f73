import GraphCache.Proofs.ObjectPlaces

/-! Renaming response keys. Each key may become another one, in a way that depends on the path
above it, as long as no two keys of one object become the same, marks stay marks and what
identifies an object keeps its name. Then the objects that stand at a path stand at the renamed
path afterwards, with the same identifiers. -/
namespace GraphCache

/-- New response keys. What a key becomes depends on the path of old keys above it. Marks, and what
stands under the identifiers of objects, keep their keys; roots are no fields of an object. -/
structure Renaming (custom : Option String) where
  key : List String → String → String
  injective : ∀ path, Function.Injective (key path)
  reserved : ∀ path name, isReserved name = true → key path name = name
  identifier : ∀ path name, (∃ field ∈ (path ++ [name]).tail, field ∈ identifierNames custom) →
    key path name = name

namespace Renaming
variable {custom : Option String}

/-- A path below another one with its new keys. -/
def along (renames : Renaming custom) : (above : List String) → List String → List String
  | _, [] => []
  | above, name :: rest => renames.key above name :: renames.along (above ++ [name]) rest

mutual

/-- A value that stands at a path, with new keys for the fields of objects in it. -/
def value (renames : Renaming custom) (path : List String) : Json → Json
  | .object fields => .object (renames.fields path fields)
  | .array items => .array (renames.items path items)
  | .null => .null
  | .bool value => .bool value
  | .int value => .int value
  | .float value => .float value
  | .string value => .string value

def fields (renames : Renaming custom) (path : List String) :
    List (String × Json) → List (String × Json)
  | [] => []
  | (name, value) :: rest =>
    (renames.key path name, renames.value (path ++ [name]) value) :: renames.fields path rest

def items (renames : Renaming custom) (path : List String) : List Json → List Json
  | [] => []
  | item :: rest => renames.value path item :: renames.items path rest

end

variable (renames : Renaming custom)

theorem along_append (above first second : List String) :
    renames.along above (first ++ second) =
      renames.along above first ++ renames.along (above ++ first) second := by
  induction first generalizing above with
  | nil => rw [List.append_nil]; rfl
  | cons name rest ih =>
    rw [List.cons_append, along, ih, along, List.append_assoc, List.singleton_append,
      List.cons_append]

theorem isReserved_key (path : List String) (name : String) :
    isReserved (renames.key path name) = isReserved name := by
  cases marked : isReserved name with
  | true => rw [renames.reserved path name marked, marked]
  | false =>
    cases renamed : isReserved (renames.key path name) with
    | false => rfl
    | true =>
      have same := renames.injective path (renames.reserved path _ renamed)
      rw [same, marked] at renamed
      cases renamed

theorem along_concat (path : List String) (name : String) :
    renames.along [] (path ++ [name]) = renames.along [] path ++ [renames.key path name] :=
  renames.along_append [] path [name]

theorem any_isReserved_along (above path : List String) :
    (renames.along above path).any isReserved = path.any isReserved := by
  induction path generalizing above with
  | nil => rfl
  | cons name rest ih => rw [along, List.any_cons, List.any_cons, ih, isReserved_key]

theorem any_isReserved_tail_along (path : List String) :
    (renames.along [] path).tail.any isReserved = path.tail.any isReserved := by
  cases path with
  | nil => rfl
  | cons root rest => exact renames.any_isReserved_along _ rest

/-! ## Data -/

theorem fields_along (path : List String) (fields : OrderedMap String Json) :
    OrderedMap.Along (renames.key path)
      (fun name value other => other = renames.value (path ++ [name]) value)
      fields (renames.fields path fields) := by
  induction fields with
  | nil => exact .nil
  | cons field rest ih => exact .cons ⟨rfl, rfl⟩ ih

theorem get?_fields (path : List String) (fields : OrderedMap String Json) (name : String) :
    OrderedMap.get? (renames.fields path fields) (renames.key path name) =
      (OrderedMap.get? fields name).map (renames.value (path ++ [name])) := by
  have along := renames.fields_along path fields
  cases found : OrderedMap.get? fields name with
  | some value =>
    obtain ⟨other, renamed, rfl⟩ := along.get? (renames.injective path) found
    exact renamed
  | none =>
    cases renamed : OrderedMap.get? (renames.fields path fields) (renames.key path name) with
    | none => rfl
    | some other =>
      obtain ⟨value, held, _⟩ := along.of_get? (renames.injective path) renamed
      rw [found] at held
      cases held

theorem objectsOf_value (path : List String) (value : Json) :
    objectsOf (renames.value path value) = (objectsOf value).map (renames.fields path) := by
  have fields? (value : Json) : (renames.value path value).fields? =
      value.fields?.map (renames.fields path) := by
    cases value <;> rfl
  cases value with
  | array items =>
    rw [value, objectsOf, objectsOf]
    induction items with
    | nil => rfl
    | cons item rest ih =>
      rw [Renaming.items, List.filterMap_cons, List.filterMap_cons, fields?, ih]
      cases item.fields? <;> rfl
  | _ => rfl

/-- The objects at a path stand at the renamed path. -/
theorem objectsAt_value (above path : List String) (value : Json) :
    (renames.value above value).objectsAt (renames.along above path) =
      (value.objectsAt path).map (renames.fields (above ++ path)) := by
  induction path generalizing above value with
  | nil => rw [along, Json.objectsAt, Json.objectsAt, List.append_nil, objectsOf_value]
  | cons name rest ih =>
    have below (object : OrderedMap String Json) :
        Json.objectsAt ((OrderedMap.get? (renames.fields above object)
            (renames.key above name)).getD .null) (renames.along (above ++ [name]) rest) =
          (Json.objectsAt ((OrderedMap.get? object name).getD .null) rest).map
            (renames.fields (above ++ name :: rest)) := by
      have value : (OrderedMap.get? (renames.fields above object) (renames.key above name)).getD
          .null = renames.value (above ++ [name]) ((OrderedMap.get? object name).getD .null) := by
        rw [get?_fields]
        cases OrderedMap.get? object name <;> rfl
      rw [value, ih, List.append_assoc, List.singleton_append]
    rw [along, Json.objectsAt, Json.objectsAt, objectsOf_value, List.flatMap_map, List.map_flatMap]
    exact List.flatMap_congr fun object _ => below object

mutual

/-- Below the identifier of an object nothing is renamed. -/
private theorem value_kept {path : List String}
    (inside : ∃ field ∈ path.tail, field ∈ identifierNames custom) (value : Json) :
    renames.value path value = value := by
  match value with
  | .object fields => rw [Renaming.value, fields_kept inside fields]
  | .array items => rw [Renaming.value, items_kept inside items]
  | .null => rfl
  | .bool _ => rfl
  | .int _ => rfl
  | .float _ => rfl
  | .string _ => rfl

private theorem fields_kept {path : List String}
    (inside : ∃ field ∈ path.tail, field ∈ identifierNames custom) (fields : List (String × Json)) :
    renames.fields path fields = fields := by
  match fields with
  | [] => rfl
  | (name, value) :: rest =>
    have below : ∃ field ∈ (path ++ [name]).tail, field ∈ identifierNames custom := by
      obtain ⟨field, member, named⟩ := inside
      refine ⟨field, ?_, named⟩
      cases path with
      | nil => cases member
      | cons root rest => exact List.mem_append_left _ member
    rw [Renaming.fields, renames.identifier path name below, value_kept below value,
      fields_kept inside rest]

private theorem items_kept {path : List String}
    (inside : ∃ field ∈ path.tail, field ∈ identifierNames custom) (items : List Json) :
    renames.items path items = items := by
  match items with
  | [] => rfl
  | item :: rest => rw [Renaming.items, value_kept inside item, items_kept inside rest]

end

/-- An object below a root keeps its identifier. -/
theorem entityIdOf_fields {path : List String} (below : path ≠ [])
    (object : OrderedMap String Json) :
    entityIdOf (renames.fields path object) custom = entityIdOf object custom := by
  rw [entityIdOf, entityIdOf]
  have same : ∀ name ∈ identifierNames custom,
      OrderedMap.get? (renames.fields path object) name = OrderedMap.get? object name := by
    intro name named
    have inside : ∃ field ∈ (path ++ [name]).tail, field ∈ identifierNames custom := by
      refine ⟨name, ?_, named⟩
      cases path with
      | nil => exact absurd rfl below
      | cons root rest => exact List.mem_append_right _ (List.mem_singleton_self name)
    have found := renames.get?_fields path object name
    rw [renames.identifier path name inside] at found
    rw [found]
    cases OrderedMap.get? object name with
    | none => rfl
    | some value => rw [Option.map_some, renames.value_kept inside]
  generalize identifierNames custom = names at same
  induction names with
  | nil => rfl
  | cons name rest ih =>
    obtain ⟨own, later⟩ := List.forall_mem_cons.mp same
    rw [List.findSome?_cons, List.findSome?_cons, own, ih later]

end Renaming
end GraphCache
