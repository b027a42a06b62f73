import GraphCache.Proofs.RenamedKeys

/-! Nodes under new response keys. A node and its renamed one have the same entries in the same
order; only the keys of relations and the marks for aliases differ. They still do when fragments
are inlined in both, if the fragments are renamed at each path at which they are spread. So the
nodes of one stand at the renamed paths of the other, with the same types. -/
namespace GraphCache

/-- A node at a path and the same node under new keys. Names that are requested stay, and each
one has been asked for at its path. -/
inductive Node.Renamed {custom : Option String} (renames : Renaming custom)
    (asks : List String → String → Prop) : List String → Node → Node → Prop where
  | nil {path : List String} : Renamed renames asks path [] []
  | requested {path : List String} {name : String} {rest rest' : Node} (asked : asks path name)
      (kept : renames.key path name = name) (later : Renamed renames asks path rest rest') :
      Renamed renames asks path ((name, .requested) :: rest)
        ((renames.key path name, .requested) :: rest')
  | relation {path : List String} {name : String} {below below' rest rest' : Node}
      (inside : Renamed renames asks (path ++ [name]) below below')
      (later : Renamed renames asks path rest rest') :
      Renamed renames asks path ((name, .relation below) :: rest)
        ((renames.key path name, .relation below') :: rest')
  | literal {path : List String} {name : String} (value : Json) {rest rest' : Node}
      (later : Renamed renames asks path rest rest') :
      Renamed renames asks path ((name, .literal value) :: rest)
        ((renames.key path name, .literal value) :: rest')
  | aliasName {path : List String} {value value' : Json} {rest rest' : Node}
      (shape : value.isObject = value'.isObject) (later : Renamed renames asks path rest rest') :
      Renamed renames asks path ((Mark.aliasName, .literal value) :: rest)
        ((renames.key path Mark.aliasName, .literal value') :: rest')

/-- What stands under a key of a node and under the new key. -/
def Entry.Renamed {custom : Option String} (renames : Renaming custom)
    (asks : List String → String → Prop) (path : List String) (name : String)
    (entry other : Entry) : Prop :=
  Node.Renamed renames asks path [(name, entry)] [(renames.key path name, other)]

variable {custom : Option String} {renames : Renaming custom} {asks : List String → String → Prop}
  {path : List String}

namespace Entry
variable {name : String}

theorem Renamed.isMapping_eq {entry other : Entry}
    (renamed : entry.Renamed renames asks path name other) : entry.isMapping = other.isMapping := by
  cases renamed with
  | requested => rfl
  | relation => rfl
  | literal => rfl
  | aliasName shape => exact shape

/-- Only the mark for an alias is another one. -/
theorem Renamed.eq_or_relation {entry other : Entry}
    (renamed : entry.Renamed renames asks path name other) (different : name ≠ Mark.aliasName) :
    entry = other ∨ ∃ below below', entry = .relation below ∧ other = .relation below' ∧
      Node.Renamed renames asks (path ++ [name]) below below' := by
  cases renamed with
  | requested => exact .inl rfl
  | relation inside => exact .inr ⟨_, _, rfl, rfl, inside⟩
  | literal => exact .inl rfl
  | aliasName => exact absurd rfl different

theorem Renamed.of_relation {below : Node} {other : Entry}
    (renamed : (Entry.relation below).Renamed renames asks path name other) :
    ∃ below', other = .relation below' ∧
      Node.Renamed renames asks (path ++ [name]) below below' := by
  cases renamed with
  | relation inside => exact ⟨_, rfl, inside⟩

theorem Renamed.to_relation {entry : Entry} {below : Node}
    (renamed : entry.Renamed renames asks path name (.relation below)) :
    ∃ own, entry = .relation own ∧ Node.Renamed renames asks (path ++ [name]) own below := by
  cases renamed with
  | relation inside => exact ⟨_, rfl, inside⟩

end Entry

namespace Node
variable {node other : Node}

theorem Renamed.cons {name : String} {entry entry' : Entry} {rest rest' : Node}
    (own : entry.Renamed renames asks path name entry')
    (later : Node.Renamed renames asks path rest rest') :
    Node.Renamed renames asks path ((name, entry) :: rest)
      ((renames.key path name, entry') :: rest') := by
  cases own with
  | requested asked kept => exact .requested asked kept later
  | relation inside => exact .relation inside later
  | literal value => exact .literal value later
  | aliasName shape => exact .aliasName shape later

/-- Nodes are renamed entry by entry. -/
theorem renamed_iff : node.Renamed renames asks path other ↔
    OrderedMap.Along (renames.key path) (Entry.Renamed renames asks path) node other := by
  constructor
  · intro renamed
    induction renamed with
    | nil => exact .nil
    | requested asked kept _ ih => exact .cons ⟨rfl, .requested asked kept .nil⟩ ih
    | relation inside _ _ ih => exact .cons ⟨rfl, .relation inside .nil⟩ ih
    | literal value _ ih => exact .cons ⟨rfl, .literal value .nil⟩ ih
    | aliasName shape _ ih => exact .cons ⟨rfl, .aliasName shape .nil⟩ ih
  · intro along
    induction along with
    | nil => exact .nil
    | @cons entry entry' _ _ own _ ih =>
      obtain ⟨name, entry⟩ := entry
      obtain ⟨name', entry'⟩ := entry'
      obtain ⟨rfl, renamed⟩ := own
      exact .cons renamed ih

/-- Names may be asked for in other ways. -/
theorem Renamed.mono {asks' : List String → String → Prop}
    (renamed : node.Renamed renames asks path other)
    (weaker : ∀ path name, asks path name → asks' path name) :
    node.Renamed renames asks' path other := by
  induction renamed with
  | nil => exact .nil
  | requested asked kept _ ih => exact .requested (weaker _ _ asked) kept ih
  | relation _ _ inner ih => exact .relation inner ih
  | literal value _ ih => exact .literal value ih
  | aliasName shape _ ih => exact .aliasName shape ih

end Node

/-! ## Inlining fragments -/

/-- What becomes of a name at a path, in a node and in the renamed one. -/
inductive Spread.Renamed (renames : Renaming custom) (path : List String) :
    Spread → Spread → Prop where
  | field : Spread.Renamed renames path .field .field
  | recursive : Spread.Renamed renames path .recursive .recursive
  | inlined {fragment fragment' : Node}
      (renamed : fragment.Renamed renames (fun _ _ => True) path fragment') :
      Spread.Renamed renames path (.inlined fragment) (.inlined fragment')

namespace Node
variable {node other : Node}

/-- The same is taken in from a fragment and from the renamed one. -/
theorem Renamed.absorb (renamed : node.Renamed renames asks path other) {fragment fragment' : Node}
    (shared : fragment.Renamed renames asks path fragment') :
    (node.absorb fragment).Renamed renames asks path (other.absorb fragment') := by
  have injective := renames.injective path
  rw [renamed_iff] at renamed shared ⊢
  induction shared generalizing node other with
  | nil => exact renamed
  | @cons entry entry' rest rest' own _ ih =>
    obtain ⟨name, entry⟩ := entry
    obtain ⟨name', entry'⟩ := entry'
    obtain ⟨rfl, written⟩ := own
    -- a mapping stands in both nodes and stays, or in neither, and the entry is written
    obtain ⟨mapping, held, shape⟩ | free := node.held_or_free name
    · obtain ⟨mapping', held', same⟩ := renamed.get? injective held
      rw [absorb_held held shape, absorb_held held' (same.isMapping_eq ▸ shape)]
      exact ih renamed
    · have free' : ∀ present, OrderedMap.get? other (renames.key path name) = some present →
          present.isMapping = false := by
        intro present found
        obtain ⟨own, held, same⟩ := renamed.of_get? injective found
        rw [← same.isMapping_eq, free own held]
      rw [absorb_free free, absorb_free free']
      exact ih (renamed.insert injective written)

section Inlining
variable {resolve resolve' : String → Spread}

theorem Renamed.absorbSpreads {written written' : Node}
    (renamed : written.Renamed renames asks path written')
    (resolved : ∀ name, asks path name → (resolve name).Renamed renames path (resolve' name))
    (own : node.Renamed renames (fun _ _ => True) path other) :
    (node.absorbSpreads resolve written).Renamed renames (fun _ _ => True) path
      (other.absorbSpreads resolve' written') := by
  induction renamed generalizing node other with
  | nil => exact own
  | relation inside later _ ih =>
    rw [absorbSpreads_skipped (by rintro ⟨⟩), absorbSpreads_skipped (by rintro ⟨⟩)]
    exact ih resolved own
  | literal value later ih =>
    rw [absorbSpreads_skipped (by rintro ⟨⟩), absorbSpreads_skipped (by rintro ⟨⟩)]
    exact ih resolved own
  | aliasName shape later ih =>
    rw [absorbSpreads_skipped (by rintro ⟨⟩), absorbSpreads_skipped (by rintro ⟨⟩)]
    exact ih resolved own
  | @requested path name rest rest' asked kept later ih =>
    rw [kept]
    have same := resolved name asked
    cases plain : isReserved name with
    | true =>
      rw [absorbSpreads_skipped (by simp [plain]), absorbSpreads_skipped (by simp [plain])]
      exact ih resolved own
    | false =>
      generalize left : resolve name = spread at same
      generalize right : resolve' name = spread' at same
      cases same with
      | field =>
        rw [absorbSpreads_skipped (by simp [left]), absorbSpreads_skipped (by simp [right])]
        exact ih resolved own
      | recursive =>
        rw [absorbSpreads_skipped (by simp [left]), absorbSpreads_skipped (by simp [right])]
        exact ih resolved own
      | inlined shared =>
        rw [absorbSpreads_inlined plain left, absorbSpreads_inlined plain right]
        exact ih resolved (own.absorb shared)

/-- Renamed nodes have renamed entries of their own, if the names below them are resolved alike. -/
private theorem Renamed.ownEntries (renamed : node.Renamed renames asks path other)
    (resolved : ∀ path name, asks path name → (resolve name).Renamed renames path (resolve' name)) :
    Node.Renamed renames (fun _ _ => True) path (Entry.ownEntries resolve node)
      (Entry.ownEntries resolve' other) := by
  induction renamed with
  | nil => exact .nil
  | @requested path name rest rest' asked kept later ih =>
    cases marked : isReserved name with
    | true =>
      rw [ownEntries_reserved marked,
        ownEntries_reserved ((renames.isReserved_key ..).trans marked)]
      exact .requested trivial kept ih
    | false =>
      have plain' : isReserved (renames.key path name) = false :=
        (renames.isReserved_key ..).trans marked
      -- the name is the same in both nodes, so both fragment maps are asked for the same one
      have same := resolved path name asked
      rw [← kept] at same
      generalize left : resolve (renames.key path name) = spread at same
      generalize right : resolve' (renames.key path name) = spread' at same
      rw [kept] at left
      cases same with
      | field =>
        rw [ownEntries_field marked left, ownEntries_field plain' right]
        exact .requested trivial kept ih
      | recursive =>
        rw [ownEntries_spread marked (by simp [left]), ownEntries_spread plain' (by simp [right])]
        exact ih
      | inlined shared =>
        rw [ownEntries_spread marked (by simp [left]), ownEntries_spread plain' (by simp [right])]
        exact ih
  | @relation path name below below' rest rest' inside later inner ih =>
    cases marked : isReserved name with
    | true =>
      rw [ownEntries_reserved marked,
        ownEntries_reserved ((renames.isReserved_key ..).trans marked)]
      exact .relation (inside.mono fun _ _ _ => trivial) ih
    | false =>
      rw [ownEntries_relation marked,
        ownEntries_relation ((renames.isReserved_key ..).trans marked)]
      exact .relation (inside.absorbSpreads (resolved _) inner) ih
  | literal value later ih =>
    rw [ownEntries_literal, ownEntries_literal]
    exact .literal value ih
  | aliasName shape later ih =>
    rw [ownEntries_literal, ownEntries_literal]
    exact .aliasName shape ih

/-- Inlining renamed fragments in a renamed node gives the renamed node with its fragments. -/
theorem Renamed.inlineSpreads (renamed : node.Renamed renames asks path other)
    (resolved : ∀ path name, asks path name → (resolve name).Renamed renames path (resolve' name)) :
    (node.inlineSpreads resolve).Renamed renames (fun _ _ => True) path
      (other.inlineSpreads resolve') :=
  renamed.absorbSpreads (resolved path) (renamed.ownEntries resolved)

end Inlining

/-- Fragments that are renamed at each path at which they are asked for. -/
def SharedRenamed (renames : Renaming custom) (asks : List String → String → Prop)
    (fragments fragments' : FragmentMap) : Prop :=
  ∀ path name, asks path name →
    Option.Rel (Node.Renamed renames asks path) (OrderedMap.get? fragments name)
      (OrderedMap.get? fragments' name)

theorem Renamed.expand {fragments fragments' : FragmentMap}
    (shared : SharedRenamed renames asks fragments fragments') (depth : Nat) (opened : List String)
    (renamed : node.Renamed renames asks path other) :
    (Node.expand fragments depth opened node).Renamed renames (fun _ _ => True) path
      (Node.expand fragments' depth opened other) := by
  induction depth using Nat.strong_induction_on generalizing opened path node other with
  | _ depth ih =>
    rw [expand_eq, expand_eq]
    refine renamed.inlineSpreads fun path name asked => ?_
    have same := shared path name asked
    rw [Node.spread, Node.spread]
    generalize OrderedMap.get? fragments name = found at same
    generalize OrderedMap.get? fragments' name = found' at same
    cases same with
    | none => exact .field
    | some own =>
      by_cases member : opened.contains name = true
      · simp only [member, ↓reduceIte]
        exact .recursive
      · simp only [member]
        cases depth with
        | zero => exact .recursive
        | succ less => exact .inlined (ih less (Nat.lt_succ_self less) _ own)

/-! ## What stands at a path -/

/-- A node whose type is a text keeps it. -/
theorem Renamed.typeLabel_eq (renamed : node.Renamed renames asks path other) {type : String}
    (label : node.typeLabel = .text type) : other.typeLabel = .text type := by
  have along := renamed_iff.mp renamed
  have kept := renames.reserved path Mark.typeName (by decide)
  have found {entry : Entry} (held : OrderedMap.get? node Mark.typeName = some entry) :
      ∃ entry', OrderedMap.get? other Mark.typeName = some entry' ∧
        entry.Renamed renames asks path Mark.typeName entry' := by
    have := along.get? (renames.injective path) held
    rwa [kept] at this
  rw [Node.typeLabel, Node.typeName, Node.mark] at label ⊢
  cases held : OrderedMap.get? node Mark.typeName with
  | none =>
    cases held' : OrderedMap.get? other Mark.typeName with
    | none => rwa [held] at label
    | some entry' =>
      rw [← kept] at held'
      obtain ⟨_, own, _⟩ := along.of_get? (renames.injective path) held'
      cases held.symm.trans own
  | some entry =>
    obtain ⟨entry', held', same⟩ := found held
    rw [held] at label
    rw [held']
    obtain rfl | ⟨below, below', rfl, rfl, inside⟩ := same.eq_or_relation (by decide)
    · exact label
    · -- an empty node counts as no type, and its renamed node is empty as well
      cases inside with
      | nil => exact label
      | _ => simp [Entry.toJson, Entry.fieldsToJson, Json.isTruthy] at label

theorem Renamed.at? (renamed : node.Renamed renames asks path other) {rest : List String}
    {below : Node} (found : node.at? rest = some below) :
    ∃ below', other.at? (renames.along path rest) = some below' ∧
      below.Renamed renames asks (path ++ rest) below' := by
  induction rest generalizing path node other with
  | nil =>
    cases found
    exact ⟨other, rfl, by rwa [List.append_nil]⟩
  | cons name rest ih =>
    obtain ⟨inner, relation, deeper⟩ := at?_cons_eq_some.mp found
    obtain ⟨_, held, same⟩ := (renamed_iff.mp renamed).get? (renames.injective path) relation
    obtain ⟨inner', rfl, inside⟩ := same.of_relation
    obtain ⟨below', found', own⟩ := ih inside deeper
    refine ⟨below', at?_cons_eq_some.mpr ⟨inner', held, found'⟩, ?_⟩
    rwa [List.append_assoc, List.singleton_append] at own

theorem Renamed.of_at? (renamed : node.Renamed renames asks path other) {rest' : List String}
    {below' : Node} (found : other.at? rest' = some below') :
    ∃ rest below, renames.along path rest = rest' ∧ node.at? rest = some below ∧
      below.Renamed renames asks (path ++ rest) below' := by
  induction rest' generalizing path node other with
  | nil =>
    cases found
    exact ⟨[], node, rfl, rfl, by rwa [List.append_nil]⟩
  | cons name' rest' ih =>
    obtain ⟨inner', relation, deeper⟩ := at?_cons_eq_some.mp found
    -- every key of the renamed node is a new one, so the path has an old path
    have along := renamed_iff.mp renamed
    obtain ⟨name, rfl⟩ := along.of_mem_keys
      (List.mem_map_of_mem (OrderedMap.mem_of_get?_eq_some relation))
    obtain ⟨_, held, same⟩ := along.of_get? (renames.injective path) relation
    obtain ⟨inner, rfl, inside⟩ := same.to_relation
    obtain ⟨rest, below, rfl, found', own⟩ := ih inside deeper
    refine ⟨name :: rest, below, rfl, at?_cons_eq_some.mpr ⟨inner, held, found'⟩, ?_⟩
    rwa [List.append_assoc, List.singleton_append] at own

end Node

namespace Prototype
variable {prototype other : Prototype}

/-- Prototypes with the same roots in the same order, each renamed with the nodes below it. -/
def Renamed (renames : Renaming custom) (asks : List String → String → Prop)
    (prototype other : Prototype) : Prop :=
  OrderedMap.Along (renames.key []) (fun root => Node.Renamed renames asks [root]) prototype other

theorem Renamed.expand {fragments fragments' : FragmentMap}
    (renamed : prototype.Renamed renames asks other)
    (shared : Node.SharedRenamed renames asks fragments fragments')
    (length : fragments.length = fragments'.length) :
    (prototype.expand fragments).Renamed renames (fun _ _ => True) (other.expand fragments') := by
  rw [Prototype.expand, Prototype.expand, ← length, Renamed, OrderedMap.Along,
    List.forall₂_map_left_iff, List.forall₂_map_right_iff]
  exact List.Forall₂.imp (fun _ _ own => ⟨own.1, own.2.expand shared _ _⟩) renamed

/-- The nodes of one prototype stand at the renamed paths of the other one. -/
theorem Renamed.at? (renamed : prototype.Renamed renames asks other) {path : List String}
    {node : Node} (found : prototype.at? path = some node) :
    ∃ node', other.at? (renames.along [] path) = some node' ∧
      node.Renamed renames asks path node' := by
  cases path with
  | nil => cases found
  | cons root rest =>
    obtain ⟨top, held, deeper⟩ := Option.bind_eq_some_iff.mp found
    obtain ⟨top', held', own⟩ := OrderedMap.Along.get? renamed (renames.injective []) held
    obtain ⟨node', found', same⟩ := own.at? deeper
    exact ⟨node', Option.bind_eq_some_iff.mpr ⟨top', held', found'⟩, same⟩

theorem Renamed.of_at? (renamed : prototype.Renamed renames asks other) {path' : List String}
    {node' : Node} (found : other.at? path' = some node') :
    ∃ path node, renames.along [] path = path' ∧ prototype.at? path = some node ∧
      node.Renamed renames asks path node' := by
  cases path' with
  | nil => cases found
  | cons root' rest' =>
    obtain ⟨top', held', deeper⟩ := Option.bind_eq_some_iff.mp found
    obtain ⟨root, rfl⟩ := OrderedMap.Along.of_mem_keys renamed
      (List.mem_map_of_mem (OrderedMap.mem_of_get?_eq_some held'))
    obtain ⟨top, held, own⟩ := OrderedMap.Along.of_get? renamed (renames.injective []) held'
    obtain ⟨rest, node, rfl, found', same⟩ := own.of_at? deeper
    exact ⟨root :: rest, node, rfl, Option.bind_eq_some_iff.mpr ⟨top, held, found'⟩, same⟩

end Prototype
end GraphCache
