import GraphCache.Proofs.SettledSpreads

/-! Which fields a node has once fragments are inlined. On its way inwards the recursion opens a
fragment once, and drops it when it is met again. Nothing is lost by that: a fragment that can be
reached at all is reached without meeting one twice. So a node ends up with its own fields
and those of every fragment that it reaches, and a relation of its own is never replaced. -/
namespace GraphCache

namespace Node

variable {fragments : FragmentMap}

/-- A key that a node has of its own: something stands there that is not the spread of a fragment. -/
def Owns (fragments : FragmentMap) (node : Node) (key : String) : Prop :=
  ∃ entry, (key, entry) ∈ node ∧
    (entry = .requested → isReserved key = false → key ∉ OrderedMap.keys fragments)

/-- A node reaches the fragments that it spreads, and those that they reach. -/
inductive Reaches (fragments : FragmentMap) : Node → String → Prop where
  | spread {node : Node} {name : String} (spreads : node.Spreads fragments name) :
      Reaches fragments node name
  | through {node fragment : Node} {between name : String}
      (spreads : node.Spreads fragments between)
      (defined : OrderedMap.get? fragments between = some fragment)
      (further : Reaches fragments fragment name) : Reaches fragments node name

/-! ## Ways on which nothing is met twice -/

/-- The recursion gets from a node to a fragment: all fragments on the way are open neither before
nor twice. -/
inductive Opens (fragments : FragmentMap) : List String → Node → String → Prop where
  | spread {opened : List String} {node : Node} {name : String}
      (spreads : node.Spreads fragments name) (fresh : name ∉ opened) :
      Opens fragments opened node name
  | through {opened : List String} {node fragment : Node} {between name : String}
      (spreads : node.Spreads fragments between) (fresh : between ∉ opened)
      (defined : OrderedMap.get? fragments between = some fragment)
      (further : Opens fragments (between :: opened) fragment name) :
      Opens fragments opened node name

/-- A way that keeps clear of some fragments, and may meet others many times. -/
inductive ReachesPast (fragments : FragmentMap) (barred : List String) : Node → String → Prop where
  | spread {node : Node} {name : String} (spreads : node.Spreads fragments name)
      (clear : name ∉ barred) : ReachesPast fragments barred node name
  | through {node fragment : Node} {between name : String}
      (spreads : node.Spreads fragments between) (clear : between ∉ barred)
      (defined : OrderedMap.get? fragments between = some fragment)
      (further : ReachesPast fragments barred fragment name) :
      ReachesPast fragments barred node name

/-- A way either ends at a given fragment, or keeps clear of it, or can be begun at it anew. -/
private theorem ReachesPast.cut {barred : List String} {node fragment : Node} {pivot name : String}
    (defined : OrderedMap.get? fragments pivot = some fragment)
    (reaches : ReachesPast fragments barred node name) :
    name = pivot ∨ ReachesPast fragments (pivot :: barred) node name ∨
      ReachesPast fragments (pivot :: barred) fragment name := by
  induction reaches with
  | spread spreads clear =>
    rename_i name
    by_cases same : name = pivot
    · exact .inl same
    · exact .inr (.inl (.spread spreads (by simp [same, clear])))
  | through spreads clear found further ih =>
    rename_i between name
    obtain same | direct | anew := ih
    · exact .inl same
    · by_cases same : between = pivot
      · -- the way passes the fragment itself, so what follows begins there
        subst same
        cases found.symm.trans defined
        exact .inr (.inr direct)
      · exact .inr (.inl (.through spreads (by simp [same, clear]) found direct))
    · exact .inr (.inr anew)

/-- What can be reached is reached without meeting a fragment twice. -/
private theorem ReachesPast.opens {barred : List String} {node : Node} {name : String}
    (reaches : ReachesPast fragments barred node name) : Opens fragments barred node name := by
  induction left : unopened fragments barred using Nat.strong_induction_on
    generalizing barred node with
  | _ left ih =>
    cases reaches with
    | spread spreads clear => exact .spread spreads clear
    | through spreads clear defined further =>
      obtain rfl | direct | anew := further.cut defined
      · exact .spread spreads clear
      all_goals
        have less := unopened_cons clear defined
        exact .through spreads clear defined (ih _ (by omega) ‹_› rfl)

private theorem Reaches.past {node : Node} {name : String}
    (reaches : Reaches fragments node name) : ReachesPast fragments [] node name := by
  induction reaches with
  | spread spreads => exact .spread spreads List.not_mem_nil
  | through spreads defined _ ih => exact .through spreads List.not_mem_nil defined ih

private theorem Opens.reaches {opened : List String} {node : Node} {name : String}
    (opens : Opens fragments opened node name) : Reaches fragments node name := by
  induction opens with
  | spread spreads _ => exact .spread spreads
  | through spreads _ defined _ ih => exact .through spreads defined ih

/-- Dropping what is open already costs nothing at a root. -/
theorem opens_iff_reaches {node : Node} {name : String} :
    Opens fragments [] node name ↔ Reaches fragments node name :=
  ⟨Opens.reaches, fun reaches => reaches.past.opens⟩

/-! ## Keys -/

theorem spread_eq_field_iff {depth : Nat} {opened : List String} {name : String} :
    Node.spread fragments depth opened name = .field ↔ name ∉ OrderedMap.keys fragments := by
  constructor
  · intro field defined
    exact spread_ne_field defined field
  · intro undefined
    exact spread_field ((OrderedMap.get?_eq_none_iff fragments name).mpr undefined) depth opened

/-- A node has its own keys, and those that are brought in. -/
theorem mem_keys_expand_iff {opened : List String} {depth : Nat} {node : Node}
    {key : String} : key ∈ OrderedMap.keys (Node.expand fragments depth opened node) ↔
      node.Owns fragments key ∨ node.Brings (Node.spread fragments depth opened) key := by
  rw [expand_eq, inlineSpreads, mem_keys_absorbSpreads, mem_keys_ownEntries]
  simp only [spread_eq_field_iff]
  rfl

/-- What is brought in are the own keys of the fragments that are opened. -/
theorem brings_iff {opened : List String} {depth : Nat}
    (enough : unopened fragments opened ≤ depth) {node : Node} {key : String} :
    node.Brings (Node.spread fragments depth opened) key ↔ ∃ name fragment, node.Opens fragments opened name ∧
      OrderedMap.get? fragments name = some fragment ∧ fragment.Owns fragments key := by
  induction depth using Nat.strong_induction_on generalizing opened node with
  | _ depth ih =>
    constructor
    · rintro ⟨name, _, asked, plain, inlined, inside⟩
      obtain ⟨less, fragment, rfl, defined, rfl⟩ := inlined_of_spread inlined
      have listed : name ∈ OrderedMap.keys fragments :=
        List.mem_map_of_mem (OrderedMap.mem_of_get?_eq_some defined)
      have fresh : name ∉ opened := by
        intro member
        cases (spread_opened listed member).symm.trans inlined
      have left := unopened_cons fresh defined
      obtain own | brought := mem_keys_expand_iff.mp inside
      · exact ⟨name, fragment, .spread ⟨asked, plain, listed⟩ fresh, defined, own⟩
      · obtain ⟨further, inner, opens, found, own⟩ := (ih less (by omega) (by omega)).mp brought
        exact ⟨further, inner, .through ⟨asked, plain, listed⟩ fresh defined opens, found, own⟩
    · rintro ⟨name, fragment, opens, found, own⟩
      cases opens with
      | spread spreads fresh =>
        obtain ⟨less, rfl, left, inlined⟩ := spread_fresh enough fresh found
        exact ⟨name, _, spreads.1, spreads.2.1, inlined, mem_keys_expand_iff.mpr (.inl own)⟩
      | through spreads fresh defined further =>
        obtain ⟨less, rfl, left, inlined⟩ := spread_fresh enough fresh defined
        have brought := (ih less (by omega) left).mpr ⟨name, fragment, further, found, own⟩
        exact ⟨_, _, spreads.1, spreads.2.1, inlined, mem_keys_expand_iff.mpr (.inr brought)⟩

/-- At a root that are the own keys of all fragments that the node reaches. -/
theorem brings_iff_reaches {node : Node} {key : String} :
    node.Brings (Node.spread fragments fragments.length []) key ↔
      ∃ name fragment, node.Reaches fragments name ∧
        OrderedMap.get? fragments name = some fragment ∧ fragment.Owns fragments key := by
  simp only [brings_iff (unopened_nil fragments), opens_iff_reaches]

/-! ## Relations -/

/-- A mapping that a node has already is not replaced. -/
theorem get?_absorb_mapping {node : Node} {key : String} {present : Entry}
    (mapping : present.isMapping = true) (found : OrderedMap.get? node key = some present)
    (fragment : Node) : OrderedMap.get? (node.absorb fragment) key = some present := by
  induction fragment generalizing node with
  | nil => exact found
  | cons first rest ih =>
    obtain ⟨name, entry⟩ := first
    obtain ⟨other, held, shape⟩ | free := node.held_or_free name
    · rw [absorb_held held shape]
      exact ih found
    · rw [absorb_free free]
      apply ih
      rw [OrderedMap.get?_insert_of_ne node entry, found]
      rintro rfl
      rw [free present found] at mapping
      cases mapping

theorem get?_absorbSpreads_mapping {resolve : String → Spread} {own : Node} {key : String}
    {present : Entry} (mapping : present.isMapping = true)
    (found : OrderedMap.get? own key = some present) (written : Node) :
    OrderedMap.get? (absorbSpreads resolve own written) key = some present := by
  induction written generalizing own with
  | nil => exact found
  | cons first rest ih =>
    obtain ⟨name, entry⟩ := first
    obtain skipped | ⟨fragment, rfl, plain, inlined⟩ := skipped_or_inlined resolve name entry
    · rw [absorbSpreads_skipped skipped]
      exact ih found
    · rw [absorbSpreads_inlined plain inlined]
      exact ih (get?_absorb_mapping mapping found fragment)

theorem get?_ownEntries_relation {resolve : String → Spread} {entries below : Node} {key : String}
    (plain : isReserved key = false)
    (found : OrderedMap.get? entries key = some (.relation below)) :
    OrderedMap.get? (Entry.ownEntries resolve entries) key =
      some (.relation (Node.inlineSpreads resolve below)) := by
  induction entries with
  | nil => cases found
  | cons entry rest ih =>
    obtain ⟨name, entry⟩ := entry
    by_cases same : name = key
    · subst same
      have first : entry = .relation below := by simpa [OrderedMap.get?] using found
      rw [first, ownEntries_relation plain, OrderedMap.get?, if_pos rfl]
    · have later := ih (by simpa [OrderedMap.get?, same] using found)
      cases marked : isReserved name with
      | true => simpa [ownEntries_reserved marked, OrderedMap.get?, same] using later
      | false =>
        cases entry with
        | requested =>
          by_cases field : resolve name = .field
          · simpa [ownEntries_field marked field, OrderedMap.get?, same] using later
          · simpa [ownEntries_spread marked field] using later
        | literal value => simpa [ownEntries_literal, OrderedMap.get?, same] using later
        | relation inner => simpa [ownEntries_relation marked, OrderedMap.get?, same] using later

/-- A relation that a node has of its own keeps its node, with fragments inlined below it. -/
theorem get?_expand_relation {node below : Node} {key : String} (plain : isReserved key = false)
    (found : OrderedMap.get? node key = some (.relation below)) (depth : Nat)
    (opened : List String) :
    OrderedMap.get? (Node.expand fragments depth opened node) key =
      some (.relation (Node.expand fragments depth opened below)) := by
  rw [expand_eq, expand_eq, inlineSpreads]
  exact get?_absorbSpreads_mapping rfl (get?_ownEntries_relation plain found) node

end Node

namespace Prototype

/-- The keys of an expanded root are its own and those of all fragments that it reaches by
following spreads from fragment to fragment, whether or not fragments lead back to themselves.
A relation that the root asks for itself leads to the node that was asked for. -/
theorem expand_loses_nothing {prototype : Prototype} (fragments : FragmentMap) {root : String}
    {node : Node} (written : OrderedMap.get? prototype root = some node) :
    ∃ expanded, OrderedMap.get? (prototype.expand fragments) root = some expanded ∧
      (∀ key, key ∈ OrderedMap.keys expanded ↔
        node.Owns fragments key ∨ ∃ name fragment, node.Reaches fragments name ∧
          OrderedMap.get? fragments name = some fragment ∧ fragment.Owns fragments key) ∧
      ∀ key below, isReserved key = false →
        OrderedMap.get? node key = some (.relation below) →
        OrderedMap.get? expanded key =
          some (.relation (Node.expand fragments fragments.length [] below)) := by
  refine ⟨Node.expand fragments fragments.length [] node, ?_, fun key => ?_, ?_⟩
  · rw [expand, OrderedMap.get?_map prototype fun _ => Node.expand fragments fragments.length [],
      written]
    rfl
  · rw [Node.mem_keys_expand_iff, Node.brings_iff_reaches]
  · intro key below plain found
    exact Node.get?_expand_relation plain found fragments.length []

end Prototype

namespace MutualSpreads

/-- Two fragments that spread each other; the second one has a relation. -/
def fragments : FragmentMap :=
  [("A", [("name", .requested), ("B", .requested)]),
   ("B", [("title", .requested), ("A", .requested), ("parent", .relation [("name", .requested)])])]

def parent : Node := [("id", .requested), ("B", .requested)]

/-- A node that spreads the first fragment, and has that relation of its own. -/
def node : Node :=
  [("id", .requested), ("A", .requested), ("parent", .relation parent),
   (Mark.typeName, .literal (.string "node"))]

end MutualSpreads

open MutualSpreads in
/-- The title is asked for by the second fragment, which only the first one spreads. -/
theorem Prototype.expand_loses_nothing_circle :
    ∃ expanded, OrderedMap.get? (Prototype.expand [("node", node)] fragments) "node" =
        some expanded ∧
      "title" ∈ OrderedMap.keys expanded ∧
      OrderedMap.get? expanded "parent" = some (.relation (Node.expand fragments 2 [] parent)) := by
  have written : OrderedMap.get? [("node", node)] "node" = some node := rfl
  obtain ⟨expanded, found, keys, relations⟩ := expand_loses_nothing fragments written
  refine ⟨expanded, found, (keys "title").mpr (.inr ?_), relations "parent" parent (by decide) rfl⟩
  have first : node.Spreads fragments "A" := ⟨by simp [node], by decide, by decide⟩
  have second : Node.Spreads fragments [("name", .requested), ("B", .requested)] "B" :=
    ⟨by simp, by decide, by decide⟩
  exact ⟨"B", _, .through first rfl (.spread second), rfl, .requested, List.mem_cons_self,
    fun _ _ => by decide⟩

end GraphCache
