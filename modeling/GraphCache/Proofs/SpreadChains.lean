import GraphCache.Proofs.Eligibility
import GraphCache.Proofs.FaithfulAnswer
import GraphCache.Proofs.Inlining
import GraphCache.Proofs.Unmarked

/-! How far spreads are followed when fragments are inlined. A field offers the fragments that it
spreads under their names, and a fragment offers its fields alone, so that what a fragment
spreads is not there to be inlined. A root is left with its own fields and those of the
fragments that it spreads itself; a leaf at the end of a longer chain is missing, unless it is
asked for nearer by. -/
namespace GraphCache

/-! ## Nodes of fields and fragments -/

theorem Selection.mem_offered {selections : List Selection} {key : String} :
    key ∈ offered selections ↔
      key ∈ leafKeys selections ∨ ∃ directives, .spread key directives ∈ selections := by
  simp only [offered, leafKeys, List.mem_filterMap]
  constructor
  · rintro ⟨selection, member, found⟩
    cases selection with
    | leaf head => exact .inl ⟨_, member, found⟩
    | spread fragment directives =>
      cases found
      exact .inr ⟨directives, member⟩
    | relation head below => cases found
    | inlineFragment condition directives below => cases found
  · rintro (⟨selection, member, found⟩ | ⟨directives, member⟩)
    · refine ⟨selection, member, ?_⟩
      cases selection <;> first | exact found | cases found
    · exact ⟨_, member, rfl⟩

namespace Fragment

variable {shared : Fragment} {custom : Option String} {key : String}

theorem mem_keys_node : key ∈ OrderedMap.keys (shared.node custom) ↔
    key ∈ Selection.responseKeys shared.selections := by
  rw [← OrderedMap.get?_isSome_iff, get?_node, Option.isSome_or, Bool.or_eq_true,
    Option.isSome_map, Selection.last?_isSome_iff, or_comm, Selection.responseKeys,
    List.mem_append]
  refine or_congr_left ?_
  split <;> simp_all

/-- A fragment asks for its leaves by name. -/
theorem leaf_of_requested (member : (key, Entry.requested) ∈ shared.node custom) :
    key ∈ Selection.leafKeys shared.selections := by
  obtain ⟨_, _, relation⟩ | ⟨leaf, _⟩ := mem_node member
  · cases relation
  · exact leaf

end Fragment

namespace FieldHead

variable {head : FieldHead} {custom : Option String} {selections : List Selection} {key : String}

theorem mem_keys_node : key ∈ OrderedMap.keys (head.node custom selections) ↔
    key ∈ OrderedMap.keys (head.marks custom) ∨ key ∈ Selection.offered selections ∨
      key ∈ (Selection.branches selections).map Prod.fst := by
  have names : key ∈ OrderedMap.keys (Node.ofNames (Selection.offered selections)) ↔
      key ∈ Selection.offered selections := by
    rw [← OrderedMap.get?_isSome_iff, Node.get?_ofNames]
    split <;> simp_all
  have relations : key ∈ OrderedMap.keys ((Selection.relationsOf custom selections).map
      fun relation => (relation.1, Entry.relation relation.2)) ↔
        key ∈ (Selection.branches selections).map Prod.fst := by
    simp [OrderedMap.keys, Selection.relationsOf_eq_map]
  rw [node, Node.withRelations, OrderedMap.mem_keys_overlay, opening, OrderedMap.mem_keys_overlay,
    names, relations, or_comm (b := key ∈ OrderedMap.keys (head.marks custom)), or_assoc]

/-- A field asks by name for what it offers and does not select further. -/
theorem requested_iff (plain : isReserved key = false) :
    (key, Entry.requested) ∈ head.node custom selections ↔
      key ∈ Selection.offered selections ∧
        key ∉ (Selection.branches selections).map Prod.fst := by
  have found : OrderedMap.get? (head.node custom selections) key = some .requested ↔
      key ∈ Selection.offered selections ∧
        key ∉ (Selection.branches selections).map Prod.fst := by
    rw [head.get?_node_offered custom selections plain, ← Selection.last?_isSome_iff]
    cases Selection.last? selections key <;> simp
  rw [← found]
  exact ⟨OrderedMap.get?_eq_some_of_mem (head.keys_node_nodup custom selections),
    OrderedMap.mem_of_get?_eq_some⟩

end FieldHead

/-! ## Chains -/

namespace Document

/-- The fragments that selections reach through spreads: those that they spread themselves, and
those that a fragment spreads that they reach. -/
inductive Chained (document : Document) (selections : List Selection) : Fragment → Prop where
  | direct {name : String} {directives : List Directive} {shared : Fragment}
      (spread : .spread name directives ∈ selections)
      (defined : document.fragment? name = some shared) : Chained document selections shared
  | next {name : String} {directives : List Directive} {between shared : Fragment}
      (chained : Chained document selections between)
      (spread : .spread name directives ∈ between.selections)
      (defined : document.fragment? name = some shared) : Chained document selections shared

/-- A document in which every spread names a fragment and no fragment reaches itself. -/
structure Resolved (document : Document) : Prop where
  defined : ∀ definition ∈ document.definitions, ∀ name directives,
    (Selection.spread name directives).Within definition.selections →
    (document.fragment? name).isSome
  acyclic : ∀ shared ∈ document.fragments, ¬document.Chained shared.selections shared

/-- A document whose fragments have names of their own: they are no response keys of the roots or of
the fragments, and they do not look like marks. -/
structure Apart (document : Document) : Prop where
  unreserved : ∀ shared ∈ document.fragments, isReserved shared.name = false
  roots : ∀ root head selections,
    (root, head, selections) ∈ Selection.branches document.rootSelections →
    ∀ shared ∈ document.fragments, shared.name ∉ Selection.responseKeys selections
  inside : ∀ other ∈ document.fragments, ∀ shared ∈ document.fragments,
    shared.name ∉ Selection.responseKeys other.selections

/-- What a field offers without any chain: its marks, its own fields, the fields of the fragments
that it spreads itself, and spreads that name no fragment. -/
inductive Offers (document : Document) (custom : Option String) (head : FieldHead)
    (selections : List Selection) (key : String) : Prop where
  | mark (marked : key ∈ OrderedMap.keys (head.marks custom))
  | own (asked : key ∈ Selection.responseKeys selections)
  | shared {name : String} {directives : List Directive} {shared : Fragment}
      (spread : .spread name directives ∈ selections)
      (defined : document.fragment? name = some shared)
      (inside : key ∈ Selection.responseKeys shared.selections)
  | undefined {directives : List Directive} (spread : .spread key directives ∈ selections)
      (undefined : document.fragment? key = none)

variable {document : Document} {custom : Option String}

theorem Chained.mem {selections : List Selection} {shared : Fragment}
    (chained : document.Chained selections shared) : shared ∈ document.fragments := by
  cases chained with
  | direct _ defined => exact (named_of_fragment? defined).1
  | next _ _ defined => exact (named_of_fragment? defined).1

/-- A name that no fragment has is no fragment. -/
private theorem undefined_of_unnamed {name : String}
    (unnamed : ∀ shared ∈ document.fragments, shared.name ≠ name) :
    OrderedMap.get? (document.translatedFragments custom) name = none := by
  rw [get?_translatedFragments]
  cases defined : document.fragment? name with
  | none => rfl
  | some shared =>
    obtain ⟨member, named⟩ := named_of_fragment? defined
    exact absurd named (unnamed shared member)

/-- Of a fragment its own fields are inlined, and nothing that it spreads. -/
private theorem Apart.mem_keys_fragment (apart : document.Apart) {shared : Fragment}
    (member : shared ∈ document.fragments) (depth : Nat) (opened : List String) (key : String) :
    key ∈ OrderedMap.keys (Node.expand (document.translatedFragments custom) depth opened
        (shared.node custom)) ↔ key ∈ Selection.responseKeys shared.selections := by
  rw [Node.mem_keys_expand_of_unspread, Fragment.mem_keys_node]
  intro name asked
  refine undefined_of_unnamed fun other inside same => ?_
  exact apart.inside shared member other inside
    (same ▸ List.mem_append_left _ (Fragment.leaf_of_requested asked))

/-- A fragment that is spread in a root is inlined there. -/
private theorem spread_inlined (custom : Option String) {name : String} {shared : Fragment}
    (defined : document.fragment? name = some shared) :
    ∃ depth, Node.spread (document.translatedFragments custom)
        (document.translatedFragments custom).length [] name =
      .inlined (Node.expand (document.translatedFragments custom) depth [name]
        (shared.node custom)) := by
  have found : OrderedMap.get? (document.translatedFragments custom) name =
      some (shared.node custom) := by
    rw [get?_translatedFragments, defined, Option.map_some]
  have some : (document.translatedFragments custom).length ≠ 0 := by
    rw [List.length_eq_zero_iff.ne]
    rintro empty
    rw [empty] at found
    cases found
  obtain ⟨depth, length⟩ := Nat.exists_eq_succ_of_ne_zero some
  exact ⟨depth, by simp [Node.spread, found, length]⟩

/-- The node of a root, with fragments inlined. -/
def inlinedRoot (document : Document) (custom : Option String) (head : FieldHead)
    (selections : List Selection) : Node :=
  Node.expand (document.translatedFragments custom) (document.translatedFragments custom).length []
    (head.node custom selections)

section Root

variable (apart : document.Apart) {root : String} {head : FieldHead} {selections : List Selection}
  (member : (root, head, selections) ∈ Selection.branches document.rootSelections)
include apart member

/-- A root asks for the fragments that it spreads by their names. -/
private theorem Apart.requested_of_spread {name : String} {directives : List Directive}
    {shared : Fragment} (spread : .spread name directives ∈ selections)
    (defined : document.fragment? name = some shared) :
    isReserved name = false ∧ (name, Entry.requested) ∈ head.node custom selections := by
  obtain ⟨listed, rfl⟩ := named_of_fragment? defined
  have plain := apart.unreserved shared listed
  refine ⟨plain, (FieldHead.requested_iff plain).mpr
    ⟨Selection.mem_offered.mpr (.inr ⟨directives, spread⟩), fun relation => ?_⟩⟩
  exact apart.roots root head selections member shared listed (List.mem_append_right _ relation)

/-- A root has no other keys than its field offers. -/
private theorem Apart.offers_of_mem {key : String}
    (inside : key ∈ OrderedMap.keys (document.inlinedRoot custom head selections)) :
    document.Offers custom head selections key := by
  rw [inlinedRoot, Node.expand_eq, Node.inlineSpreads, Node.mem_keys_absorbSpreads,
    Node.mem_keys_ownEntries] at inside
  obtain ⟨entry, present, kept⟩ | ⟨name, fragment, asked, plain, inlined, inside⟩ := inside
  · obtain marked | offered | relation := FieldHead.mem_keys_node.mp (List.mem_map_of_mem present)
    · exact .mark marked
    · obtain leaf | ⟨directives, spread⟩ := Selection.mem_offered.mp offered
      · exact .own (List.mem_append_left _ leaf)
      · cases defined : document.fragment? key with
        | none => exact .undefined spread defined
        | some shared =>
          -- its own entries have lost the name of a fragment
          obtain ⟨plain, asked⟩ := apart.requested_of_spread member spread defined
          have unique := head.keys_node_nodup custom selections
          cases (OrderedMap.get?_eq_some_of_mem unique present).symm.trans
            (OrderedMap.get?_eq_some_of_mem unique asked)
          obtain ⟨depth, inlined⟩ := spread_inlined custom defined
          cases (kept rfl plain).symm.trans inlined
    · exact .own (List.mem_append_right _ relation)
  · obtain ⟨depth, written, _, found, rfl⟩ := Node.inlined_of_spread inlined
    obtain ⟨shared, defined, rfl⟩ := get?_translatedFragments_iff.mp found
    obtain ⟨listed, named⟩ := named_of_fragment? defined
    obtain ⟨offered, _⟩ := (FieldHead.requested_iff plain).mp asked
    obtain leaf | ⟨directives, spread⟩ := Selection.mem_offered.mp offered
    · exact absurd (named ▸ List.mem_append_left _ leaf)
        (apart.roots root head selections member shared listed)
    · exact .shared spread defined ((apart.mem_keys_fragment listed _ _ _).mp inside)

/-- A root has all keys that its field offers. -/
private theorem Apart.mem_of_offers {key : String}
    (offers : document.Offers custom head selections key) :
    key ∈ OrderedMap.keys (document.inlinedRoot custom head selections) := by
  rw [inlinedRoot, Node.expand_eq, Node.inlineSpreads, Node.mem_keys_absorbSpreads,
    Node.mem_keys_ownEntries]
  have kept (present : key ∈ OrderedMap.keys (head.node custom selections))
      (unspread : isReserved key = false → document.fragment? key = none) :
      ∃ entry, (key, entry) ∈ head.node custom selections ∧
        (entry = .requested → isReserved key = false →
          Node.spread (document.translatedFragments custom)
            (document.translatedFragments custom).length [] key = .field) := by
    obtain ⟨⟨_, entry⟩, inside, rfl⟩ := List.mem_map.mp present
    refine ⟨entry, inside, fun _ plain => Node.spread_field ?_ _ _⟩
    rw [get?_translatedFragments, unspread plain, Option.map_none]
  cases offers with
  | mark marked =>
    refine .inl (kept (FieldHead.mem_keys_node.mpr (.inl marked)) fun plain => ?_)
    rw [FieldHead.reserved_of_mark marked] at plain
    cases plain
  | own asked =>
    refine .inl (kept (FieldHead.mem_keys_node.mpr (.inr ?_)) fun _ => ?_)
    · refine (List.mem_append.mp asked).imp_left fun leaf => ?_
      exact Selection.mem_offered.mpr (.inl leaf)
    · by_contra defined
      obtain ⟨shared, defined⟩ := Option.ne_none_iff_exists'.mp defined
      obtain ⟨listed, named⟩ := named_of_fragment? defined
      exact apart.roots root head selections member shared listed (named ▸ asked)
  | shared spread defined inside =>
    obtain ⟨plain, asked⟩ := apart.requested_of_spread member spread defined
    obtain ⟨depth, inlined⟩ := spread_inlined custom defined
    refine .inr ⟨_, _, asked, plain, inlined, ?_⟩
    exact (apart.mem_keys_fragment (named_of_fragment? defined).1 _ _ _).mpr inside
  | undefined spread undefined =>
    refine .inl (kept (FieldHead.mem_keys_node.mpr (.inr (.inl ?_))) fun _ => undefined)
    exact Selection.mem_offered.mpr (.inr ⟨_, spread⟩)

end Root

private theorem get?_expanded (clear : (document.compile custom).obstacle = none) {root : String}
    {field : FieldHead × List Selection}
    (last : Selection.last? document.rootSelections root = some field) :
    OrderedMap.get? (document.expanded custom) root =
      some (document.inlinedRoot custom field.1 field.2) := by
  obtain ⟨prototype, fragments⟩ := compiled_trees clear
  rw [expanded, Prototype.expand, prototype, fragments,
    OrderedMap.get?_map _ fun _ node => Node.expand (document.translatedFragments custom)
      (document.translatedFragments custom).length [] node,
    get?_translatedRoots, last]
  rfl

/-- The node of a root, with all fragments inlined, has exactly the keys that the last field under
its response key offers: chains of spreads are followed for one step. So every leaf that a field
asks for through chains is among the keys exactly if it is also offered without them. -/
theorem chains_inlined_iff (clear : (document.compile custom).obstacle = none)
    (apart : document.Apart) {root : String} {head : FieldHead} {selections : List Selection}
    (requested : (root, head, selections) ∈ Selection.branches document.rootSelections) :
    ∃ field node, Selection.last? document.rootSelections root = some field ∧
      OrderedMap.get? (document.expanded custom) root = some node ∧
      (∀ key, key ∈ OrderedMap.keys node ↔ document.Offers custom field.1 field.2 key) ∧
      ((∀ shared, document.Chained selections shared →
          ∀ key ∈ Selection.leafKeys shared.selections, key ∈ OrderedMap.keys node) ↔
        ∀ shared, document.Chained selections shared →
          ∀ key ∈ Selection.leafKeys shared.selections,
            document.Offers custom field.1 field.2 key) := by
  have named : root ∈ (Selection.branches document.rootSelections).map Prod.fst :=
    List.mem_map_of_mem requested
  obtain ⟨field, last⟩ := Option.isSome_iff_exists.mp
    ((Selection.last?_isSome_iff document.rootSelections root).mpr named)
  have member := Selection.mem_of_last? last
  have keys (key : String) : key ∈ OrderedMap.keys (document.inlinedRoot custom field.1 field.2) ↔
      document.Offers custom field.1 field.2 key :=
    ⟨apart.offers_of_mem member, apart.mem_of_offers member⟩
  refine ⟨field, _, last, get?_expanded clear last, keys, ?_⟩
  simp only [keys]

end Document

namespace Chains

def first : Fragment := ⟨"A", "Country", [], [.leaf ⟨none, "name", [], []⟩, .spread "B" []]⟩

def second : Fragment := ⟨"B", "Country", [], [.leaf ⟨none, "capital", [], []⟩]⟩

def country : FieldHead := ⟨none, "country", [⟨"id", .int "1"⟩], []⟩

/-- A country with its identifier and what is spread. -/
def asking (spreads : List Selection) : List Selection := .leaf ⟨none, "id", [], []⟩ :: spreads

/-- The first fragment spreads the second one. -/
def document (spreads : List Selection) : Document :=
  ⟨[.operation ⟨.query, none, [], [], [.relation country (asking spreads)]⟩, .fragment first,
    .fragment second]⟩

theorem apart {spreads : List Selection}
    (named : ∀ shared ∈ [first, second], shared.name ∉ Selection.responseKeys (asking spreads)) :
    (document spreads).Apart where
  unreserved := by
    intro shared member
    have listed : shared ∈ [first, second] := member
    simp only [List.mem_cons, List.not_mem_nil, or_false] at listed
    obtain rfl | rfl := listed <;> decide
  roots := by
    intro root head selections member shared listed
    obtain ⟨_, inside⟩ := Selection.mem_branches.mp member
    cases List.mem_singleton.mp inside
    exact named shared listed
  inside := by
    intro other member shared listed
    have one : other ∈ [first, second] := member
    have two : shared ∈ [first, second] := listed
    simp only [List.mem_cons, List.not_mem_nil, or_false] at one two
    obtain rfl | rfl := one <;> obtain rfl | rfl := two <;> decide

variable {spreads : List Selection}

/-- Nothing is spread in a fragment but the second one, and that in the first. -/
theorem spread_in_fragment {shared : Fragment} (member : shared ∈ (document spreads).fragments)
    {name : String} {directives : List Directive}
    (spread : .spread name directives ∈ shared.selections) : shared = first ∧ name = "B" := by
  have listed : shared ∈ [first, second] := member
  simp only [List.mem_cons, List.not_mem_nil, or_false] at listed
  obtain rfl | rfl := listed
  · simp only [first, List.mem_cons, reduceCtorEq, Selection.spread.injEq, List.not_mem_nil,
      or_false, false_or] at spread
    exact ⟨rfl, spread.1⟩
  · simp [second] at spread

private theorem mem_of_within {selection : Selection} {selections : List Selection}
    (flat : ∀ head inner, .relation head inner ∉ selections)
    (within : selection.Within selections) : selection ∈ selections := by
  cases within with
  | here member => exact member
  | inside member _ => exact absurd member (flat _ _)

/-- Where the first fragment is spread, every spread names a fragment. -/
theorem defined : ∀ definition ∈ (document [.spread "A" []]).definitions, ∀ name directives,
    (Selection.spread name directives).Within definition.selections →
    ((document [.spread "A" []]).fragment? name).isSome := by
  intro definition member name directives within
  simp only [document, List.mem_cons, List.not_mem_nil, or_false] at member
  obtain rfl | rfl | rfl := member
  · obtain same | inner := Selection.within_relation.mp within
    · cases same
    · have spread := mem_of_within (by simp [asking]) inner
      obtain ⟨rfl, _⟩ : name = "A" ∧ directives = [] := by simpa [asking] using spread
      rfl
  · have spread := mem_of_within (by simp [first, Definition.selections]) within
    obtain ⟨rfl, _⟩ : name = "B" ∧ directives = [] := by
      simpa [first, Definition.selections] using spread
    rfl
  · have spread := mem_of_within (by simp [second, Definition.selections]) within
    simp [second, Definition.selections] at spread

/-- No fragment leads back to itself. -/
theorem acyclic {shared : Fragment} (member : shared ∈ (document spreads).fragments) :
    ¬(document spreads).Chained shared.selections shared := by
  intro chained
  cases chained with
  | direct spread defined =>
    obtain ⟨rfl, rfl⟩ := spread_in_fragment member spread
    exact absurd (Option.some.inj defined) (by simp [first, second])
  | next chained spread defined =>
    obtain ⟨rfl, rfl⟩ := spread_in_fragment chained.mem spread
    cases Option.some.inj defined
    cases chained with
    | direct spread _ => simp [second] at spread
    | next further spread defined =>
      obtain ⟨rfl, rfl⟩ := spread_in_fragment further.mem spread
      exact absurd (Option.some.inj defined) (by simp [first, second])

end Chains

open Chains in
/-- Where both fragments are spread in the field, nothing is missing. -/
theorem Document.chains_inlined_short :
    ∃ node, OrderedMap.get? ((document [.spread "A" [], .spread "B" []]).expanded none) "country" =
        some node ∧
      ∀ shared, (document [.spread "A" [], .spread "B" []]).Chained
          (asking [.spread "A" [], .spread "B" []]) shared →
        ∀ key ∈ Selection.leafKeys shared.selections, key ∈ OrderedMap.keys node := by
  have requested : ("country", country, asking [.spread "A" [], .spread "B" []]) ∈
      Selection.branches (document [.spread "A" [], .spread "B" []]).rootSelections :=
    List.mem_singleton_self _
  have clear : ((document [.spread "A" [], .spread "B" []]).compile none).obstacle = none := by
    decide
  obtain ⟨field, node, last, found, _, complete⟩ :=
    chains_inlined_iff clear (apart (by decide)) requested
  cases last
  refine ⟨node, found, complete.mpr fun shared chained key leaf => ?_⟩
  have inside : key ∈ Selection.responseKeys shared.selections := List.mem_append_left _ leaf
  cases chained with
  | direct spread defined => exact .shared spread defined inside
  | next chained spread defined =>
    obtain ⟨_, rfl⟩ := spread_in_fragment chained.mem spread
    have own : Selection.spread "B" [] ∈ asking [.spread "A" [], .spread "B" []] := by simp [asking]
    exact .shared own defined inside

open Chains in
/-- The capital is asked for through both fragments, and is not there. -/
theorem Document.chains_not_inlined_long :
    ((document [.spread "A" []]).compile none).obstacle = none ∧
      (document [.spread "A" []]).Resolved ∧
      (document [.spread "A" []]).Chained (asking [.spread "A" []]) second ∧
      "capital" ∈ Selection.leafKeys second.selections ∧
      ∃ node, OrderedMap.get? ((document [.spread "A" []]).expanded none) "country" = some node ∧
        "capital" ∉ OrderedMap.keys node := by
  have missing : (OrderedMap.get? ((document [.spread "A" []]).expanded none) "country").map
      (fun node => decide ("capital" ∈ OrderedMap.keys node)) = some false := by decide +kernel
  obtain ⟨node, found, absent⟩ := Option.map_eq_some_iff.mp missing
  have reached : (document [.spread "A" []]).Chained (asking [.spread "A" []]) first :=
    .direct (List.mem_cons_of_mem _ (List.mem_singleton_self _)) rfl
  have spread : Selection.spread "B" [] ∈ first.selections :=
    List.mem_cons_of_mem _ (List.mem_singleton_self _)
  exact ⟨by decide, ⟨defined, fun _ => acyclic⟩, .next reached spread rfl, by decide, node, found,
    of_decide_eq_false absent⟩

end GraphCache
