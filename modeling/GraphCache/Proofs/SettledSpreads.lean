import GraphCache.Proofs.Inlining
import Mathlib.Data.Finset.Card
import Mathlib.Data.Finset.SDiff
import Mathlib.Data.Finset.Dedup

/-! Inlining fragments ends, and it is done in one go. The recursion goes down into relations, and
it jumps into fragments that are not open yet. Each jump leaves one fragment less to open, so
that every run is finite, however fragments refer to each other. A spread is replaced or
dropped wherever it is met: none is left, and inlining once more changes nothing. -/
namespace GraphCache

namespace Node

variable {fragments : FragmentMap}

/-- A node spreads a fragment that it requests by name. -/
def Spreads (fragments : FragmentMap) (node : Node) (name : String) : Prop :=
  (name, Entry.requested) ∈ node ∧ isReserved name = false ∧ name ∈ OrderedMap.keys fragments

/-! ## Runs -/

mutual

/-- A finished run of the recursion, from a node to the node that it gives when some fragments are
open already. Nothing bounds how deep a run goes, but it is a tree of finitely many steps. -/
inductive Expands (fragments : FragmentMap) : List String → Node → Node → Prop where
  | passes {opened : List String} {node own result : Node}
      (kept : Keeps fragments opened node own)
      (followed : Follows fragments opened own node result) :
      Expands fragments opened node result

/-- The first pass goes through the entries of a node. Spreads are set aside, marks stay as they
are, and each relation is a run of its own. -/
inductive Keeps (fragments : FragmentMap) : List String → Node → Node → Prop where
  | nil {opened : List String} : Keeps fragments opened [] []
  | mark {opened : List String} {key : String} {entry : Entry} {entries own : Node}
      (reserved : isReserved key = true) (rest : Keeps fragments opened entries own) :
      Keeps fragments opened ((key, entry) :: entries) ((key, entry) :: own)
  | spread {opened : List String} {key : String} {entries own : Node}
      (plain : isReserved key = false) (defined : key ∈ OrderedMap.keys fragments)
      (rest : Keeps fragments opened entries own) :
      Keeps fragments opened ((key, .requested) :: entries) own
  | field {opened : List String} {key : String} {entries own : Node}
      (plain : isReserved key = false) (undefined : key ∉ OrderedMap.keys fragments)
      (rest : Keeps fragments opened entries own) :
      Keeps fragments opened ((key, .requested) :: entries) ((key, .requested) :: own)
  | literal {opened : List String} {key : String} {value : Json} {entries own : Node}
      (plain : isReserved key = false) (rest : Keeps fragments opened entries own) :
      Keeps fragments opened ((key, .literal value) :: entries) ((key, .literal value) :: own)
  | relation {opened : List String} {key : String} {inner changed entries own : Node}
      (plain : isReserved key = false) (below : Expands fragments opened inner changed)
      (rest : Keeps fragments opened entries own) :
      Keeps fragments opened ((key, .relation inner) :: entries) ((key, .relation changed) :: own)

/-- The second pass goes through the spreads. A fragment that is not open is opened for a run of
its own, and the node takes in what the run gives; any other spread is dropped. -/
inductive Follows (fragments : FragmentMap) : List String → Node → Node → Node → Prop where
  | nil {opened : List String} {merged : Node} : Follows fragments opened merged [] merged
  | skip {opened : List String} {key : String} {entry : Entry} {entries merged result : Node}
      (skipped : entry = .requested → isReserved key = false →
        key ∈ OrderedMap.keys fragments → key ∈ opened)
      (rest : Follows fragments opened merged entries result) :
      Follows fragments opened merged ((key, entry) :: entries) result
  | inline {opened : List String} {key : String} {fragment expanded entries merged result : Node}
      (plain : isReserved key = false) (fresh : key ∉ opened)
      (defined : OrderedMap.get? fragments key = some fragment)
      (run : Expands fragments (key :: opened) fragment expanded)
      (rest : Follows fragments opened (merged.absorb expanded) entries result) :
      Follows fragments opened merged ((key, .requested) :: entries) result

end

/-! ## Fragments that are left to open -/

/-- How many fragments can still be opened. -/
def unopened (fragments : FragmentMap) (opened : List String) : Nat :=
  ((OrderedMap.keys fragments).toFinset \ opened.toFinset).card

theorem unopened_nil (fragments : FragmentMap) : unopened fragments [] ≤ fragments.length := by
  have all : (OrderedMap.keys fragments).toFinset \ ([] : List String).toFinset =
      (OrderedMap.keys fragments).toFinset := by simp
  calc unopened fragments [] = (OrderedMap.keys fragments).toFinset.card := by rw [unopened, all]
    _ ≤ (OrderedMap.keys fragments).length := List.toFinset_card_le _
    _ = fragments.length := by simp [OrderedMap.keys]

/-- Opening a fragment leaves one less to open. -/
theorem unopened_cons {opened : List String} {name : String} {fragment : Node}
    (fresh : name ∉ opened) (defined : OrderedMap.get? fragments name = some fragment) :
    unopened fragments (name :: opened) < unopened fragments opened := by
  have listed : name ∈ OrderedMap.keys fragments :=
    (OrderedMap.get?_isSome_iff fragments name).mp (by simp [defined])
  rw [unopened, unopened, List.toFinset_cons, Finset.sdiff_insert]
  apply Finset.card_erase_lt_of_mem
  simp [listed, fresh]

/-! ## Every run ends, in one way -/

/-- What becomes of each name, where a fragment that is not open becomes what its run gives. -/
structure Resolved (fragments : FragmentMap) (opened : List String) (resolve : String → Spread) :
    Prop where
  field : ∀ name, name ∉ OrderedMap.keys fragments → resolve name = .field
  dropped : ∀ name ∈ opened, name ∈ OrderedMap.keys fragments → resolve name = .recursive
  inlined : ∀ name fragment, name ∉ opened → OrderedMap.get? fragments name = some fragment →
    ∃ expanded, resolve name = .inlined expanded ∧
      ∀ result, Expands fragments (name :: opened) fragment result ↔ result = expanded

namespace Resolved

variable {opened : List String} {resolve : String → Spread}

private theorem skipped (resolved : Resolved fragments opened resolve) {key : String}
    (skipped : key ∈ OrderedMap.keys fragments → key ∈ opened) (fragment : Node) :
    resolve key ≠ .inlined fragment := by
  by_cases defined : key ∈ OrderedMap.keys fragments
  · simp [resolved.dropped key (skipped defined) defined]
  · simp [resolved.field key defined]

private theorem spread (resolved : Resolved fragments opened resolve) {key : String}
    (defined : key ∈ OrderedMap.keys fragments) : resolve key ≠ .field := by
  by_cases member : key ∈ opened
  · simp [resolved.dropped key member defined]
  · obtain ⟨fragment, found⟩ :=
      Option.isSome_iff_exists.mp ((OrderedMap.get?_isSome_iff fragments key).mpr defined)
    obtain ⟨expanded, inlined, _⟩ := resolved.inlined key fragment member found
    simp [inlined]

private theorem follows_iff (resolved : Resolved fragments opened resolve)
    {merged written result : Node} :
    Follows fragments opened merged written result ↔
      result = absorbSpreads resolve merged written := by
  induction written generalizing merged with
  | nil =>
    constructor
    · intro followed
      cases followed
      rfl
    · intro same
      rw [same]
      exact .nil
  | cons entry rest ih =>
    obtain ⟨key, entry⟩ := entry
    constructor
    · intro followed
      cases followed with
      | skip skipped rest =>
        rw [ih.mp rest, absorbSpreads_skipped fun asked plain =>
          resolved.skipped (skipped asked plain)]
      | inline plain fresh defined run rest =>
        obtain ⟨expanded, inlined, only⟩ := resolved.inlined _ _ fresh defined
        rw [ih.mp rest, (only _).mp run, absorbSpreads_inlined plain inlined]
    · intro same
      by_cases skipped : entry = .requested → isReserved key = false →
          key ∈ OrderedMap.keys fragments → key ∈ opened
      · rw [absorbSpreads_skipped fun asked plain => resolved.skipped (skipped asked plain)] at same
        exact .skip skipped (ih.mpr same)
      · push Not at skipped
        obtain ⟨rfl, plain, defined, fresh⟩ := skipped
        obtain ⟨fragment, found⟩ :=
          Option.isSome_iff_exists.mp ((OrderedMap.get?_isSome_iff fragments key).mpr defined)
        obtain ⟨expanded, inlined, only⟩ := resolved.inlined _ _ fresh found
        rw [absorbSpreads_inlined plain inlined] at same
        exact .inline plain fresh found ((only _).mpr rfl) (ih.mpr same)

private theorem keeps_iff (resolved : Resolved fragments opened resolve) (entries : Node) :
    ∀ own, Keeps fragments opened entries own ↔ own = Entry.ownEntries resolve entries := by
  match entries with
  | [] =>
    intro own
    constructor
    · intro kept
      cases kept
      rfl
    · intro same
      rw [same]
      exact .nil
  | (key, .requested) :: rest =>
    have later := resolved.keeps_iff rest
    intro own
    constructor
    · intro kept
      cases kept with
      | mark reserved rest => rw [ownEntries_reserved reserved, (later _).mp rest]
      | spread plain defined rest =>
        rw [ownEntries_spread plain (resolved.spread defined), (later _).mp rest]
      | field plain undefined rest =>
        rw [ownEntries_field plain (resolved.field key undefined), (later _).mp rest]
    · intro same
      cases plain : isReserved key with
      | true =>
        rw [same, ownEntries_reserved plain]
        exact .mark plain ((later _).mpr rfl)
      | false =>
        by_cases defined : key ∈ OrderedMap.keys fragments
        · rw [same, ownEntries_spread plain (resolved.spread defined)]
          exact .spread plain defined ((later _).mpr rfl)
        · rw [same, ownEntries_field plain (resolved.field key defined)]
          exact .field plain defined ((later _).mpr rfl)
  | (key, .literal value) :: rest =>
    have later := resolved.keeps_iff rest
    intro own
    rw [ownEntries_literal]
    constructor
    · intro kept
      cases kept with
      | mark reserved rest => rw [(later _).mp rest]
      | literal plain rest => rw [(later _).mp rest]
    · intro same
      rw [same]
      cases plain : isReserved key with
      | true => exact .mark plain ((later _).mpr rfl)
      | false => exact .literal plain ((later _).mpr rfl)
  | (key, .relation inner) :: rest =>
    have below := resolved.keeps_iff inner
    have later := resolved.keeps_iff rest
    intro own
    constructor
    · intro kept
      cases kept with
      | mark reserved rest => rw [ownEntries_reserved reserved, (later _).mp rest]
      | relation plain run rest =>
        obtain ⟨kept, followed⟩ := run
        rw [resolved.follows_iff.mp followed, (below _).mp kept, (later _).mp rest,
          ownEntries_relation plain, Node.inlineSpreads]
    · intro same
      rw [same]
      cases plain : isReserved key with
      | true =>
        rw [ownEntries_reserved plain]
        exact .mark plain ((later _).mpr rfl)
      | false =>
        rw [ownEntries_relation plain]
        exact .relation plain (.passes ((below _).mpr rfl) (resolved.follows_iff.mpr rfl))
          ((later _).mpr rfl)
termination_by sizeOf entries

/-- A run is the two passes over the names as they are resolved. -/
private theorem expands_iff (resolved : Resolved fragments opened resolve) {node result : Node} :
    Expands fragments opened node result ↔ result = node.inlineSpreads resolve := by
  constructor
  · rintro ⟨kept, followed⟩
    rw [resolved.follows_iff.mp followed, (resolved.keeps_iff node _).mp kept, Node.inlineSpreads]
  · intro same
    exact .passes ((resolved.keeps_iff node _).mpr rfl) (resolved.follows_iff.mpr same)

end Resolved

section Resolving

variable {opened : List String} {depth : Nat} {name : String}

/-- As long as there is a fragment to open the depth is not used up. -/
theorem spread_fresh {fragment : Node} (enough : unopened fragments opened ≤ depth)
    (fresh : name ∉ opened) (defined : OrderedMap.get? fragments name = some fragment) :
    ∃ less, depth = less + 1 ∧ unopened fragments (name :: opened) ≤ less ∧
      Node.spread fragments depth opened name =
        .inlined (Node.expand fragments less (name :: opened) fragment) := by
  have left := unopened_cons fresh defined
  obtain ⟨less, rfl⟩ : ∃ less, depth = less + 1 := ⟨depth - 1, by omega⟩
  refine ⟨less, rfl, by omega, ?_⟩
  simp [Node.spread, defined, fresh]

end Resolving

/-- From every node there is one run, however the fragments refer to each other, and it gives the
node with its fragments inlined: a depth that allows for the fragments left to open is enough. -/
theorem expands_iff {opened : List String} {depth : Nat}
    (enough : unopened fragments opened ≤ depth) {node result : Node} :
    Expands fragments opened node result ↔ result = Node.expand fragments depth opened node := by
  induction depth using Nat.strong_induction_on generalizing opened node result with
  | _ depth ih =>
    rw [expand_eq]
    refine Resolved.expands_iff ⟨fun name undefined =>
        spread_field ((OrderedMap.get?_eq_none_iff fragments name).mpr undefined) depth opened,
      fun name member defined => spread_opened defined member, ?_⟩
    intro name fragment fresh defined
    obtain ⟨less, same, left, inlined⟩ := spread_fresh enough fresh defined
    exact ⟨_, inlined, fun result => ih less (by omega) left⟩

/-! ## Nothing is left to inline -/

/-- Neither a node nor a node below it spreads a fragment. -/
inductive Settled (fragments : FragmentMap) : Node → Prop where
  | intro {node : Node} (own : ∀ name, ¬node.Spreads fragments name)
      (inside : ∀ key entries, isReserved key = false → (key, Entry.relation entries) ∈ node →
        Settled fragments entries) : Settled fragments node

/-- A name that is left as a request is a field. -/
theorem field_of_mem_ownEntries {resolve : String → Spread} {entries : Node} {key : String}
    (plain : isReserved key = false)
    (member : (key, Entry.requested) ∈ Entry.ownEntries resolve entries) :
    resolve key = .field := by
  induction entries with
  | nil => cases member
  | cons first rest ih =>
    obtain ⟨name, entry⟩ := first
    cases unmarked : isReserved name with
    | true =>
      rw [ownEntries_reserved unmarked] at member
      obtain same | later := List.mem_cons.mp member
      · cases same
        rw [unmarked] at plain
        cases plain
      · exact ih later
    | false =>
      cases entry with
      | requested =>
        by_cases field : resolve name = .field
        · rw [ownEntries_field unmarked field] at member
          obtain same | later := List.mem_cons.mp member
          · cases same
            exact field
          · exact ih later
        · rw [ownEntries_spread unmarked field] at member
          exact ih member
      | literal value =>
        rw [ownEntries_literal] at member
        exact ih (by simpa using member)
      | relation inner =>
        rw [ownEntries_relation unmarked] at member
        exact ih (by simpa using member)

/-- What is inlined is settled, and so is what it is inlined in. -/
private theorem settled_inlineSpreads {resolve : String → Spread}
    (spread : ∀ name ∈ OrderedMap.keys fragments, resolve name ≠ .field)
    (settled : ∀ name fragment, resolve name = .inlined fragment → Settled fragments fragment)
    (node : Node) : Settled fragments (node.inlineSpreads resolve) := by
  refine .intro (fun name spreads => ?_) fun key entries plain member => ?_
  · obtain ⟨asked, plain, defined⟩ := spreads
    obtain own | ⟨_, fragment, _, _, inlined, inside⟩ := mem_absorbSpreads asked
    · exact spread name defined (field_of_mem_ownEntries plain own)
    · cases settled _ _ inlined with
      | intro own _ => exact own name ⟨inside, plain, defined⟩
  · obtain ⟨below, inside, same⟩ | ⟨name, fragment, _, _, inlined, inside⟩ :=
      relation_of_mem_inlineSpreads member
    · rw [plain, if_neg Bool.false_ne_true] at same
      rw [same]
      exact settled_inlineSpreads spread settled below
    · cases settled _ _ inlined with
      | intro _ below => exact below key entries plain inside
termination_by sizeOf node
decreasing_by
  have inner := List.sizeOf_lt_of_mem inside
  simp only [Prod.mk.sizeOf_spec, Entry.relation.sizeOf_spec] at inner
  omega

/-- Wherever inlining stops, no spread is left. -/
theorem settled_expand (depth : Nat) (opened : List String) (node : Node) :
    Settled fragments (Node.expand fragments depth opened node) := by
  refine expand_induction (motive := fun _ node => Settled fragments node) ?_ depth opened node
  intro depth opened node inside
  refine settled_inlineSpreads (fun name defined => spread_ne_field defined) ?_ node
  intro name fragment inlined
  obtain ⟨_, _, settled⟩ := inside name fragment inlined
  exact settled

theorem Spreads.tail {entry : String × Entry} {rest : Node} {name : String}
    (spreads : Spreads fragments rest name) : Spreads fragments (entry :: rest) name :=
  ⟨List.mem_cons_of_mem _ spreads.1, spreads.2⟩

section Unspread

variable {resolve : String → Spread} {written : Node}

private theorem absorbSpreads_unspread
    (field : ∀ name, name ∉ OrderedMap.keys fragments → resolve name = .field)
    (unspread : ∀ name, ¬written.Spreads fragments name) (merged : Node) :
    absorbSpreads resolve merged written = merged := by
  induction written with
  | nil => rfl
  | cons entry rest ih =>
    obtain ⟨key, entry⟩ := entry
    rw [absorbSpreads_skipped, ih fun name spreads => unspread name spreads.tail]
    rintro rfl plain fragment inlined
    by_cases defined : key ∈ OrderedMap.keys fragments
    · exact unspread key ⟨List.mem_cons_self, plain, defined⟩
    · rw [field key defined] at inlined
      cases inlined

private theorem ownEntries_unspread
    (field : ∀ name, name ∉ OrderedMap.keys fragments → resolve name = .field)
    (unspread : ∀ name, ¬written.Spreads fragments name)
    (inside : ∀ key entries, isReserved key = false → (key, Entry.relation entries) ∈ written →
      Node.inlineSpreads resolve entries = entries) :
    Entry.ownEntries resolve written = written := by
  induction written with
  | nil => rfl
  | cons entry rest ih =>
    obtain ⟨key, entry⟩ := entry
    have later := ih (fun name spreads => unspread name spreads.tail)
      fun key entries plain member => inside key entries plain (List.mem_cons_of_mem _ member)
    cases plain : isReserved key with
    | true => rw [ownEntries_reserved plain, later]
    | false =>
      cases entry with
      | requested =>
        have undefined : key ∉ OrderedMap.keys fragments := fun defined =>
          unspread key ⟨List.mem_cons_self, plain, defined⟩
        rw [ownEntries_field plain (field key undefined), later]
      | literal value => rw [ownEntries_literal, later]
      | relation inner =>
        rw [ownEntries_relation plain, inside key inner plain List.mem_cons_self, later]

/-- A settled node stays as it is. -/
theorem Settled.inlineSpreads (settled : Settled fragments written)
    (field : ∀ name, name ∉ OrderedMap.keys fragments → resolve name = .field) :
    written.inlineSpreads resolve = written := by
  induction settled with
  | intro own inside ih =>
    rw [Node.inlineSpreads, ownEntries_unspread field own ih, absorbSpreads_unspread field own]

end Unspread

end Node

namespace Prototype

/-- A finished run for each root, in order. -/
def Expands (fragments : FragmentMap) (prototype result : Prototype) : Prop :=
  List.Forall₂ (fun written expanded =>
    written.1 = expanded.1 ∧ Node.Expands fragments [] written.2 expanded.2) prototype result

theorem expands_iff (prototype : Prototype) (fragments : FragmentMap) (result : Prototype) :
    Expands fragments prototype result ↔ result = prototype.expand fragments := by
  have run (node expanded : Node) : Node.Expands fragments [] node expanded ↔
      expanded = Node.expand fragments fragments.length [] node :=
    Node.expands_iff (Node.unopened_nil fragments)
  induction prototype generalizing result with
  | nil => simp [Expands, expand]
  | cons root rest ih =>
    constructor
    · intro runs
      cases runs with
      | cons first later =>
        obtain ⟨named, expanded⟩ := first
        rw [(ih _).mp later]
        exact congrArg (· :: _) (Prod.ext named.symm ((run _ _).mp expanded))
    · rintro rfl
      exact .cons ⟨rfl, (run _ _).mpr rfl⟩ ((ih _).mpr rfl)

/-- Inlining ends for every prototype and all fragments, also where fragments lead back to
themselves, directly, through each other or through relations: there is one finished run, and
it gives the expanded prototype. No root and no node below a root spreads a fragment then,
and inlining once more changes nothing. -/
theorem expand_settles (prototype : Prototype) (fragments : FragmentMap) :
    (∀ result, Expands fragments prototype result ↔ result = prototype.expand fragments) ∧
      (∀ root ∈ prototype.expand fragments, root.2.Settled fragments) ∧
      (prototype.expand fragments).expand fragments = prototype.expand fragments := by
  have settled : ∀ root ∈ prototype.expand fragments, root.2.Settled fragments := by
    intro root member
    obtain ⟨written, _, rfl⟩ := List.mem_map.mp member
    exact Node.settled_expand _ _ _
  refine ⟨expands_iff prototype fragments, settled, ?_⟩
  calc (prototype.expand fragments).expand fragments
      = (prototype.expand fragments).map id := List.map_congr_left fun root member => by
        rw [Node.expand_eq, (settled root member).inlineSpreads fun name undefined =>
          Node.spread_field ((OrderedMap.get?_eq_none_iff fragments name).mpr undefined) _ _]
        rfl
    _ = prototype.expand fragments := List.map_id _

end Prototype
end GraphCache
