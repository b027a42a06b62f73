import GraphCache.Proofs.OrderedMap
import GraphCache.Prototype.Expand

/-! What inlining fragments does to a node. Marks that no fragment has stay as they are, and
every relation that a node has in the end stood in the node itself or in a fragment that
is inlined there. -/
namespace GraphCache

/-- What becomes of a name in a node, given the fragments that are open there. -/
def Node.spread (fragments : FragmentMap) (depth : Nat) (opened : List String) (name : String) :
    Spread :=
  match OrderedMap.get? fragments name with
  | none => .field
  | some fragment =>
    if opened.contains name then .recursive
    else
      match depth with
      | 0 => .recursive
      | less + 1 => .inlined (Node.expand fragments less (name :: opened) fragment)

theorem Node.expand_eq (fragments : FragmentMap) (depth : Nat) (opened : List String)
    (node : Node) :
    Node.expand fragments depth opened node =
      node.inlineSpreads (Node.spread fragments depth opened) := by
  rw [Node.expand]
  rfl

/-- What is inlined is a fragment in which fragments have been inlined to a lesser depth. -/
theorem Node.inlined_of_spread {fragments : FragmentMap} {depth : Nat} {opened : List String}
    {name : String} {fragment : Node}
    (inlined : Node.spread fragments depth opened name = .inlined fragment) :
    ∃ less written, depth = less + 1 ∧ OrderedMap.get? fragments name = some written ∧
      fragment = Node.expand fragments less (name :: opened) written := by
  unfold Node.spread at inlined
  split at inlined
  · cases inlined
  · rename_i written found
    split at inlined
    · cases inlined
    · split at inlined
      · cases inlined
      · cases inlined
        exact ⟨_, written, rfl, found, rfl⟩

/-- A property that one round of inlining gives a node, provided that all that the round inlines
has it, every node with fragments inlined has. -/
theorem Node.expand_induction {fragments : FragmentMap} {motive : Node → Node → Prop}
    (round : ∀ depth opened node,
      (∀ name fragment, Node.spread fragments depth opened name = .inlined fragment →
        ∃ written, OrderedMap.get? fragments name = some written ∧ motive written fragment) →
      motive node (node.inlineSpreads (Node.spread fragments depth opened)))
    (depth : Nat) (opened : List String) (node : Node) :
    motive node (Node.expand fragments depth opened node) := by
  induction depth using Nat.strongRecOn generalizing opened node with
  | _ depth ih =>
    rw [expand_eq]
    refine round depth opened node fun name fragment inlined => ?_
    obtain ⟨less, written, rfl, found, rfl⟩ := inlined_of_spread inlined
    exact ⟨written, found, ih less (Nat.lt_succ_self less) _ written⟩

namespace Node

variable {fragments : FragmentMap} {depth : Nat} {opened : List String} {name : String}

theorem spread_field (undefined : OrderedMap.get? fragments name = none) (depth : Nat)
    (opened : List String) : Node.spread fragments depth opened name = .field := by
  rw [Node.spread, undefined]

theorem spread_ne_field (defined : name ∈ OrderedMap.keys fragments) :
    Node.spread fragments depth opened name ≠ .field := by
  intro field
  unfold Node.spread at field
  split at field
  · rename_i undefined
    exact (OrderedMap.get?_eq_none_iff fragments name).mp undefined defined
  · split at field
    · cases field
    · split at field <;> cases field

theorem spread_opened (defined : name ∈ OrderedMap.keys fragments) (member : name ∈ opened) :
    Node.spread fragments depth opened name = .recursive := by
  obtain ⟨fragment, found⟩ :=
    Option.isSome_iff_exists.mp ((OrderedMap.get?_isSome_iff fragments name).mpr defined)
  simp [Node.spread, found, member]

end Node

/-! ## One entry of a pass -/

namespace Node

/-- A mapping stands under a key, or whatever stands there is to be replaced. -/
theorem held_or_free (node : Node) (key : String) :
    (∃ mapping, OrderedMap.get? node key = some mapping ∧ mapping.isMapping = true) ∨
      ∀ present, OrderedMap.get? node key = some present → present.isMapping = false := by
  by_cases held : ∃ mapping, OrderedMap.get? node key = some mapping ∧ mapping.isMapping = true
  · exact .inl held
  · refine .inr fun present found => ?_
    cases shape : present.isMapping with
    | false => rfl
    | true => exact absurd ⟨present, found, shape⟩ held

section Passes

variable {resolve : String → Spread} {key : String} {entry : Entry} {merged rest : Node}

theorem absorb_held {mapping : Entry} (held : OrderedMap.get? merged key = some mapping)
    (shape : mapping.isMapping = true) :
    merged.absorb ((key, entry) :: rest) = merged.absorb rest := by
  simp [absorb, held, shape]

theorem absorb_free (free : ∀ present, OrderedMap.get? merged key = some present →
      present.isMapping = false) :
    merged.absorb ((key, entry) :: rest) = absorb (OrderedMap.insert merged key entry) rest := by
  cases found : OrderedMap.get? merged key with
  | none => simp [absorb, found]
  | some present => simp [absorb, found, free present found]

theorem absorbSpreads_inlined {fragment : Node} (plain : isReserved key = false)
    (inlined : resolve key = .inlined fragment) :
    absorbSpreads resolve merged ((key, .requested) :: rest) =
      absorbSpreads resolve (merged.absorb fragment) rest := by
  simp [absorbSpreads, plain, inlined]

theorem absorbSpreads_skipped (skipped : entry = .requested → isReserved key = false →
      ∀ fragment, resolve key ≠ .inlined fragment) :
    absorbSpreads resolve merged ((key, entry) :: rest) = absorbSpreads resolve merged rest := by
  rw [absorbSpreads, List.foldl_cons]
  split
  · rename_i asked plain
    cases resolved : resolve key with
    | field => rfl
    | recursive => rfl
    | inlined fragment => exact absurd resolved (skipped asked plain fragment)
  · rfl

/-- An entry is passed over, or it is a spread for which a fragment is inlined. -/
theorem skipped_or_inlined (resolve : String → Spread) (key : String) (entry : Entry) :
    (entry = .requested → isReserved key = false → ∀ fragment, resolve key ≠ .inlined fragment) ∨
      ∃ fragment, entry = .requested ∧ isReserved key = false ∧
        resolve key = .inlined fragment := by
  by_cases skipped : entry = .requested → isReserved key = false →
      ∀ fragment, resolve key ≠ .inlined fragment
  · exact .inl skipped
  · push Not at skipped
    obtain ⟨asked, plain, fragment, inlined⟩ := skipped
    exact .inr ⟨fragment, asked, plain, inlined⟩

/-- One of the fragments that are inlined for the spreads of a node has a key. -/
def Brings (resolve : String → Spread) (node : Node) (probe : String) : Prop :=
  ∃ name fragment, (name, Entry.requested) ∈ node ∧ isReserved name = false ∧
    resolve name = .inlined fragment ∧ probe ∈ OrderedMap.keys fragment

theorem not_brings_nil (probe : String) : ¬Brings resolve [] probe := by
  rintro ⟨_, _, member, _⟩
  cases member

theorem brings_skipped (skipped : entry = .requested → isReserved key = false →
      ∀ fragment, resolve key ≠ .inlined fragment) (probe : String) :
    Brings resolve ((key, entry) :: rest) probe ↔ Brings resolve rest probe := by
  constructor
  · rintro ⟨name, fragment, member, plain, inlined, inside⟩
    obtain same | later := List.mem_cons.mp member
    · cases same
      exact absurd inlined (skipped rfl plain fragment)
    · exact ⟨name, fragment, later, plain, inlined, inside⟩
  · rintro ⟨name, fragment, later, brought⟩
    exact ⟨name, fragment, List.mem_cons_of_mem _ later, brought⟩

theorem brings_inlined {fragment : Node} (plain : isReserved key = false)
    (inlined : resolve key = .inlined fragment) (probe : String) :
    Brings resolve ((key, .requested) :: rest) probe ↔
      probe ∈ OrderedMap.keys fragment ∨ Brings resolve rest probe := by
  constructor
  · rintro ⟨name, other, member, unmarked, found, inside⟩
    obtain same | later := List.mem_cons.mp member
    · cases same
      cases inlined.symm.trans found
      exact .inl inside
    · exact .inr ⟨name, other, later, unmarked, found, inside⟩
  · rintro (inside | ⟨name, other, later, brought⟩)
    · exact ⟨key, fragment, List.mem_cons_self, plain, inlined, inside⟩
    · exact ⟨name, other, List.mem_cons_of_mem _ later, brought⟩

theorem ownEntries_reserved (reserved : isReserved key = true) :
    Entry.ownEntries resolve ((key, entry) :: rest) =
      (key, entry) :: Entry.ownEntries resolve rest := by
  cases entry <;> simp [Entry.ownEntries, reserved]

theorem ownEntries_spread (plain : isReserved key = false) (spread : resolve key ≠ .field) :
    Entry.ownEntries resolve ((key, .requested) :: rest) = Entry.ownEntries resolve rest := by
  cases resolved : resolve key <;> simp_all [Entry.ownEntries]

theorem ownEntries_field (plain : isReserved key = false) (field : resolve key = .field) :
    Entry.ownEntries resolve ((key, .requested) :: rest) =
      (key, .requested) :: Entry.ownEntries resolve rest := by
  simp [Entry.ownEntries, plain, field]

theorem ownEntries_relation (plain : isReserved key = false) (inner : Node) :
    Entry.ownEntries resolve ((key, .relation inner) :: rest) =
      (key, .relation (Node.inlineSpreads resolve inner)) :: Entry.ownEntries resolve rest := by
  simp [Entry.ownEntries, plain, Entry.inlineSpreads, Node.inlineSpreads]

theorem ownEntries_literal (value : Json) :
    Entry.ownEntries resolve ((key, .literal value) :: rest) =
      (key, .literal value) :: Entry.ownEntries resolve rest := by
  simp [Entry.ownEntries, Entry.inlineSpreads]

end Passes

end Node

/-! ## Marks -/

namespace Node

theorem get?_absorb {node fragment : Node} {key : String}
    (absent : key ∉ OrderedMap.keys fragment) :
    OrderedMap.get? (node.absorb fragment) key = OrderedMap.get? node key := by
  induction fragment generalizing node with
  | nil => rfl
  | cons first rest ih =>
    obtain ⟨name, entry⟩ := first
    obtain ⟨other, later⟩ : name ≠ key ∧ key ∉ OrderedMap.keys rest := by
      simpa [OrderedMap.keys, eq_comm, not_or] using absent
    obtain ⟨mapping, held, shape⟩ | free := node.held_or_free name
    · rw [absorb_held held shape, ih later]
    · rw [absorb_free free, ih later, OrderedMap.get?_insert_of_ne node entry other]

/-- A key that is not brought in stays as it is. -/
theorem get?_absorbSpreads {resolve : String → Spread} {key : String} {own written : Node}
    (unbrought : ¬Brings resolve written key) :
    OrderedMap.get? (absorbSpreads resolve own written) key = OrderedMap.get? own key := by
  induction written generalizing own with
  | nil => rfl
  | cons entry rest ih =>
    obtain ⟨name, entry⟩ := entry
    obtain skipped | ⟨fragment, rfl, plain, inlined⟩ := skipped_or_inlined resolve name entry
    · rw [brings_skipped skipped] at unbrought
      rw [absorbSpreads_skipped skipped, ih unbrought]
    · rw [brings_inlined plain inlined, not_or] at unbrought
      rw [absorbSpreads_inlined plain inlined, ih unbrought.2, get?_absorb unbrought.1]

theorem get?_ownEntries {resolve : String → Spread} {key : String}
    (reserved : isReserved key = true) (entries : List (String × Entry)) :
    OrderedMap.get? (Entry.ownEntries resolve entries) key = OrderedMap.get? entries key := by
  induction entries with
  | nil => rfl
  | cons entry rest ih =>
    obtain ⟨name, entry⟩ := entry
    cases marked : isReserved name with
    | true => rw [ownEntries_reserved marked, OrderedMap.get?, OrderedMap.get?, ih]
    | false =>
      have other : name ≠ key := by
        rintro rfl
        rw [marked] at reserved
        cases reserved
      cases entry with
      | requested =>
        by_cases field : resolve name = .field
        · simp [ownEntries_field marked field, OrderedMap.get?, other, ih]
        · simp [ownEntries_spread marked field, OrderedMap.get?, other, ih]
      | literal value => simp [ownEntries_literal, OrderedMap.get?, other, ih]
      | relation inner => simp [ownEntries_relation marked, OrderedMap.get?, other, ih]

theorem get?_inlineSpreads {resolve : String → Spread} {key : String}
    (reserved : isReserved key = true)
    (absent : ∀ name fragment, resolve name = .inlined fragment →
      OrderedMap.get? fragment key = none) (node : Node) :
    OrderedMap.get? (node.inlineSpreads resolve) key = OrderedMap.get? node key := by
  rw [inlineSpreads, get?_absorbSpreads, get?_ownEntries reserved]
  rintro ⟨name, fragment, _, _, inlined, inside⟩
  exact (OrderedMap.get?_eq_none_iff fragment key).mp (absent name fragment inlined) inside

/-- Inlining fragments that do not have a mark leaves that mark of a node as it is. -/
theorem get?_expand {fragments : FragmentMap} {key : String} (reserved : isReserved key = true)
    (absent : ∀ name fragment, OrderedMap.get? fragments name = some fragment →
      OrderedMap.get? fragment key = none) (depth : Nat) (opened : List String) (node : Node) :
    OrderedMap.get? (Node.expand fragments depth opened node) key = OrderedMap.get? node key := by
  refine expand_induction (motive := fun written node =>
    OrderedMap.get? node key = OrderedMap.get? written key) ?_ depth opened node
  intro depth opened node inside
  refine get?_inlineSpreads reserved (fun name fragment inlined => ?_) node
  obtain ⟨written, found, same⟩ := inside name fragment inlined
  rw [same]
  exact absent name written found

/-! ## Relations -/

theorem mem_absorb {node fragment : Node} {entry : String × Entry}
    (member : entry ∈ node.absorb fragment) : entry ∈ node ∨ entry ∈ fragment := by
  induction fragment generalizing node with
  | nil => exact .inl member
  | cons first rest ih =>
    obtain ⟨name, written⟩ := first
    obtain ⟨mapping, held, shape⟩ | free := node.held_or_free name
    · rw [absorb_held held shape] at member
      exact (ih member).imp_right (List.mem_cons_of_mem _)
    · rw [absorb_free free] at member
      obtain early | late := ih member
      · obtain old | rfl := OrderedMap.mem_of_mem_insert early
        · exact .inl old
        · exact .inr List.mem_cons_self
      · exact .inr (List.mem_cons_of_mem _ late)

theorem mem_absorbSpreads {resolve : String → Spread} {own written : Node} {entry : String × Entry}
    (member : entry ∈ Node.absorbSpreads resolve own written) :
    entry ∈ own ∨ ∃ name fragment, (name, Entry.requested) ∈ written ∧ isReserved name = false ∧
      resolve name = .inlined fragment ∧ entry ∈ fragment := by
  induction written generalizing own with
  | nil => exact .inl member
  | cons first rest ih =>
    obtain ⟨name, asked⟩ := first
    obtain skipped | ⟨fragment, rfl, plain, inlined⟩ := skipped_or_inlined resolve name asked
    · rw [absorbSpreads_skipped skipped] at member
      obtain early | ⟨other, fragment, later, brought⟩ := ih member
      · exact .inl early
      · exact .inr ⟨other, fragment, List.mem_cons_of_mem _ later, brought⟩
    · rw [absorbSpreads_inlined plain inlined] at member
      obtain early | ⟨other, further, later, brought⟩ := ih member
      · exact (mem_absorb early).imp_right fun inside =>
          ⟨name, fragment, List.mem_cons_self, plain, inlined, inside⟩
      · exact .inr ⟨other, further, List.mem_cons_of_mem _ later, brought⟩

/-- What is left of a node's own entries stood there before, with fragments inlined below it. -/
theorem mem_ownEntries {resolve : String → Spread} {entries : List (String × Entry)} {key : String}
    {entry : Entry} (member : (key, entry) ∈ Entry.ownEntries resolve entries) :
    ∃ written, (key, written) ∈ entries ∧
      entry = if isReserved key then written else written.inlineSpreads resolve := by
  induction entries with
  | nil => cases member
  | cons first rest ih =>
    have later (inside : (key, entry) ∈ Entry.ownEntries resolve rest) :
        ∃ written, (key, written) ∈ first :: rest ∧
          entry = if isReserved key then written else written.inlineSpreads resolve := by
      obtain ⟨written, found, same⟩ := ih inside
      exact ⟨written, List.mem_cons_of_mem _ found, same⟩
    obtain ⟨name, own⟩ := first
    by_cases reserved : isReserved name = true
    · rw [ownEntries_reserved reserved] at member
      obtain same | inside := List.mem_cons.mp member
      · cases same
        exact ⟨entry, List.mem_cons_self, by simp [reserved]⟩
      · exact later inside
    · have listed : (key, entry) = (name, own.inlineSpreads resolve) ∨
          (key, entry) ∈ Entry.ownEntries resolve rest := by
        cases own with
        | requested =>
          simp only [Entry.ownEntries, reserved, Bool.false_eq_true, ↓reduceIte] at member
          split at member
          · exact List.mem_cons.mp member
          · exact .inr member
        | literal value => simpa [Entry.ownEntries, reserved] using member
        | relation below => simpa [Entry.ownEntries, reserved] using member
      obtain same | inside := listed
      · cases same
        exact ⟨own, List.mem_cons_self, by simp [reserved]⟩
      · exact later inside

/-- A relation of a node stays, with fragments inlined below it. -/
theorem relation_of_mem_ownEntries {resolve : String → Spread} {entries : List (String × Entry)}
    {key : String} {inner : List (String × Entry)}
    (member : (key, Entry.relation inner) ∈ Entry.ownEntries resolve entries) :
    ∃ below, (key, Entry.relation below) ∈ entries ∧
      inner = if isReserved key then below else Node.inlineSpreads resolve below := by
  obtain ⟨written, found, same⟩ := mem_ownEntries member
  cases written with
  | relation below =>
    refine ⟨below, found, ?_⟩
    split at same
    · rename_i reserved
      cases same
      rw [if_pos reserved]
    · rename_i plain
      cases same
      rw [if_neg plain, Node.inlineSpreads]
  | requested => split at same <;> cases same
  | literal value => split at same <;> cases same

/-- A literal of a node stood there before. -/
theorem literal_of_mem_ownEntries {resolve : String → Spread} {entries : List (String × Entry)}
    {key : String} {value : Json}
    (member : (key, Entry.literal value) ∈ Entry.ownEntries resolve entries) :
    (key, Entry.literal value) ∈ entries := by
  obtain ⟨written, found, same⟩ := mem_ownEntries member
  cases written with
  | relation below => split at same <;> cases same
  | requested => split at same <;> cases same
  | literal value => split at same <;> cases same <;> exact found

/-- Every relation of a node in which fragments have been inlined stood in the node before, or
stands in an inlined fragment. -/
theorem relation_of_mem_inlineSpreads {resolve : String → Spread} {node : Node} {key : String}
    {inner : List (String × Entry)}
    (member : (key, Entry.relation inner) ∈ node.inlineSpreads resolve) :
    (∃ below, (key, Entry.relation below) ∈ node ∧
      inner = if isReserved key then below else Node.inlineSpreads resolve below) ∨
    ∃ name fragment, (name, Entry.requested) ∈ node ∧ isReserved name = false ∧
      resolve name = .inlined fragment ∧ (key, Entry.relation inner) ∈ fragment :=
  (mem_absorbSpreads member).imp_left relation_of_mem_ownEntries

/-! ## Marks and fragments -/

/-- A mark of a node in which fragments have been inlined is the node's own or a fragment's. -/
theorem mem_expand_of_reserved {fragments : FragmentMap} {depth : Nat} {opened : List String}
    {node : Node} {key : String} {entry : Entry} (reserved : isReserved key = true)
    (member : (key, entry) ∈ Node.expand fragments depth opened node) :
    (key, entry) ∈ node ∨
      ∃ name fragment, OrderedMap.get? fragments name = some fragment ∧ (key, entry) ∈ fragment := by
  refine expand_induction (motive := fun written node => (key, entry) ∈ node →
    (key, entry) ∈ written ∨ ∃ name fragment, OrderedMap.get? fragments name = some fragment ∧
      (key, entry) ∈ fragment) ?_ depth opened node member
  intro depth opened node inside member
  obtain own | ⟨name, fragment, _, _, inlined, part⟩ := mem_absorbSpreads member
  · obtain ⟨written, here, same⟩ := mem_ownEntries own
    rw [if_pos reserved] at same
    exact .inl (same ▸ here)
  · obtain ⟨written, found, brought⟩ := inside name fragment inlined
    exact .inr ((brought part).elim (fun own => ⟨name, written, found, own⟩) id)

/-! ## Keys after inlining -/

theorem mem_keys_absorb_iff {node fragment : Node} {key : String} :
    key ∈ OrderedMap.keys (node.absorb fragment) ↔
      key ∈ OrderedMap.keys node ∨ key ∈ OrderedMap.keys fragment := by
  induction fragment generalizing node with
  | nil => simp [absorb, OrderedMap.keys]
  | cons first rest ih =>
    obtain ⟨name, entry⟩ := first
    have listed : key ∈ OrderedMap.keys ((name, entry) :: rest) ↔
        key = name ∨ key ∈ OrderedMap.keys rest := List.mem_cons
    obtain ⟨mapping, held, shape⟩ | free := node.held_or_free name
    · have present : name ∈ OrderedMap.keys node :=
        (OrderedMap.get?_isSome_iff node name).mp (by simp [held])
      rw [absorb_held held shape, ih, listed, ← or_assoc]
      refine or_congr_left ⟨.inl, ?_⟩
      rintro (own | rfl)
      · exact own
      · exact present
    · rw [absorb_free free, ih, OrderedMap.mem_keys_insert, listed, or_assoc, or_left_comm]

/-- A node has the keys that it has of its own, and those that are brought in. -/
theorem mem_keys_absorbSpreads {resolve : String → Spread} {own written : Node} {key : String} :
    key ∈ OrderedMap.keys (absorbSpreads resolve own written) ↔
      key ∈ OrderedMap.keys own ∨ Brings resolve written key := by
  induction written generalizing own with
  | nil => simp [absorbSpreads, not_brings_nil]
  | cons entry rest ih =>
    obtain ⟨name, entry⟩ := entry
    obtain skipped | ⟨fragment, rfl, plain, inlined⟩ := skipped_or_inlined resolve name entry
    · rw [absorbSpreads_skipped skipped, ih, brings_skipped skipped]
    · rw [absorbSpreads_inlined plain inlined, ih, mem_keys_absorb_iff, or_assoc,
        brings_inlined plain inlined]

/-- Of its own a node keeps the keys that are not spread. -/
theorem mem_keys_ownEntries {resolve : String → Spread} {entries : List (String × Entry)}
    {key : String} : key ∈ OrderedMap.keys (Entry.ownEntries resolve entries) ↔
      ∃ entry, (key, entry) ∈ entries ∧
        (entry = .requested → isReserved key = false → resolve key = .field) := by
  induction entries with
  | nil => simp [Entry.ownEntries, OrderedMap.keys]
  | cons first rest ih =>
    obtain ⟨name, own⟩ := first
    have listed : key ∈ OrderedMap.keys (Entry.ownEntries resolve ((name, own) :: rest)) ↔
        (key = name ∧ (own = .requested → isReserved name = false → resolve name = .field)) ∨
          key ∈ OrderedMap.keys (Entry.ownEntries resolve rest) := by
      cases marked : isReserved name with
      | true => simp [ownEntries_reserved marked, OrderedMap.keys]
      | false =>
        cases own with
        | requested =>
          by_cases field : resolve name = .field
          · simp [ownEntries_field marked field, field, OrderedMap.keys]
          · simp [ownEntries_spread marked field, field]
        | literal value => simp [ownEntries_literal, OrderedMap.keys]
        | relation inner => simp [ownEntries_relation marked, OrderedMap.keys]
    rw [listed, ih]
    constructor
    · rintro (⟨rfl, kept⟩ | ⟨entry, member, kept⟩)
      · exact ⟨own, List.mem_cons_self, kept⟩
      · exact ⟨entry, List.mem_cons_of_mem _ member, kept⟩
    · rintro ⟨entry, member, kept⟩
      obtain same | later := List.mem_cons.mp member
      · cases same
        exact .inl ⟨rfl, kept⟩
      · exact .inr ⟨entry, later, kept⟩

/-- No mark is lost by inlining. -/
theorem mem_keys_expand (fragments : FragmentMap) (depth : Nat) (opened : List String) {node : Node}
    {key : String} (reserved : isReserved key = true) (present : key ∈ OrderedMap.keys node) :
    key ∈ OrderedMap.keys (Node.expand fragments depth opened node) := by
  rw [expand_eq, inlineSpreads, mem_keys_absorbSpreads]
  refine .inl ?_
  rw [← OrderedMap.get?_isSome_iff] at present ⊢
  rw [get?_ownEntries reserved]
  exact present

/-- Where no fragment is spread, a node keeps its keys. -/
theorem mem_keys_expand_of_unspread {fragments : FragmentMap} {node : Node}
    (unspread : ∀ name, (name, Entry.requested) ∈ node → OrderedMap.get? fragments name = none)
    (depth : Nat) (opened : List String) (key : String) :
    key ∈ OrderedMap.keys (Node.expand fragments depth opened node) ↔
      key ∈ OrderedMap.keys node := by
  rw [expand_eq, inlineSpreads, mem_keys_absorbSpreads, mem_keys_ownEntries]
  constructor
  · rintro (⟨entry, member, _⟩ | ⟨name, fragment, asked, _, inlined, _⟩)
    · exact List.mem_map_of_mem member
    · obtain ⟨_, written, _, defined, _⟩ := inlined_of_spread inlined
      cases (unspread name asked).symm.trans defined
  · intro present
    obtain ⟨⟨_, entry⟩, member, rfl⟩ := List.mem_map.mp present
    refine .inl ⟨entry, member, ?_⟩
    rintro rfl _
    exact spread_field (unspread _ member) depth opened

end Node
end GraphCache
