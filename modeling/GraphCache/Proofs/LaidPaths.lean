import GraphCache.Proofs.LaidTrees

/-! Mappings that are laid over others, read path by path, whether or not the two agree on where
there are mappings. What the upper one has on a path is found there. Where a walk through the
upper one comes to a mapping without the next key, the lower one is read, and behind anything
that is no mapping there is nothing. -/
namespace GraphCache.Tree

theorem at?_append (tree : Tree) (walked rest : List Scalar.Key) :
    tree.at? (walked ++ rest) = (tree.at? walked).bind (·.at? rest) := by
  induction walked generalizing tree with
  | nil => rfl
  | cons key later ih =>
    simp only [List.cons_append, at?, ih, Option.bind_assoc]

theorem isMapping_of_at?_cons {tree upper : Tree} {key : Scalar.Key} {rest : List Scalar.Key}
    (reached : tree.at? (key :: rest) = some upper) : tree.isMapping = true := by
  by_contra other
  have none : tree.entries = [] := entries_of_not_isMapping (by simpa using other)
  simp [at?, none] at reached

theorem isMapping_laidOn (below : Option Tree) (above : Tree) :
    (laidOn below above).isMapping = above.isMapping := by
  cases below with
  | none => rw [laidOn_none]
  | some below =>
    rw [laidOn_some]
    split
    · next both => simp_all
    · rfl

/-- One step into a mapping that has been laid over what stood at its place. -/
theorem at?_laidOn_cons (below : Option Tree) {above : Tree} (distinct : Distinct above)
    (shape : above.isMapping = true) (key : Scalar.Key) (rest : List Scalar.Key) :
    (laidOn below above).at? (key :: rest) =
      match underKey? above.entries key with
      | some upper => (laidOn (below.bind fun low => underKey? low.entries key) upper).at? rest
      | none => below.bind (·.at? (key :: rest)) := by
  cases below with
  | none => cases found : underKey? above.entries key <;> simp [laidOn_none, at?, found]
  | some low =>
    cases lower : low.isMapping with
    | true =>
      rw [laidOn_mapping lower shape, at?, entries_mapping, underKey?_layEntries _ distinct.root]
      cases found : underKey? above.entries key <;> simp [at?]
    | false =>
      have none : low.entries = [] := entries_of_not_isMapping lower
      rw [laidOn_some, lower, Bool.false_and, if_neg Bool.false_ne_true]
      cases found : underKey? above.entries key <;> simp [at?, none, found, laidOn_none]

/-- Where the upper tree has something, it has been laid over what stood there. -/
theorem at?_laidOn_of_reached {above upper : Tree} (distinct : Distinct above)
    {path : List Scalar.Key} (reached : above.at? path = some upper) (below : Option Tree) :
    ∃ lower, (laidOn below above).at? path = some (laidOn lower upper) := by
  induction path generalizing below above with
  | nil =>
    cases reached
    exact ⟨below, rfl⟩
  | cons key rest ih =>
    have shape := isMapping_of_at?_cons reached
    obtain ⟨inner, found, later⟩ := Option.bind_eq_some_iff.mp reached
    rw [at?_laidOn_cons below distinct shape, found]
    exact ih (distinct.under found) later _

/-- Where the upper tree lacks a key, the lower one is read. -/
theorem at?_laidOn_of_lacking {above here : Tree} (distinct : Distinct above)
    {walked : List Scalar.Key} (reached : above.at? walked = some here)
    (shape : here.isMapping = true) {key : Scalar.Key} (lacking : underKey? here.entries key = none)
    (rest : List Scalar.Key) (below : Option Tree) :
    (laidOn below above).at? (walked ++ key :: rest) =
      below.bind (·.at? (walked ++ key :: rest)) := by
  induction walked generalizing below above with
  | nil =>
    cases reached
    rw [List.nil_append, at?_laidOn_cons below distinct shape, lacking]
  | cons first later ih =>
    have outer := isMapping_of_at?_cons reached
    obtain ⟨inner, found, within⟩ := Option.bind_eq_some_iff.mp reached
    rw [List.cons_append, at?_laidOn_cons below distinct outer, found]
    refine (ih (distinct.under found) within _).trans ?_
    cases below <;> simp [at?]

/-! ## Neutral layers -/

theorem layEntries_nil {above : Entries} (unique : (keysOf above).Nodup) :
    layEntries [] above = above := by
  have apart : ∀ key ∈ keysOf above, true → key ∉ keysOf ([] : Entries) :=
    fun _ _ _ => List.not_mem_nil
  simpa using filter_layEntries (fun _ => true) unique apart

/-- Laying what is there already, where this changes nothing, leaves a mapping as it is. -/
theorem layEntries_of_kept {below above : Entries} (unique : (keysOf below).Nodup)
    (kept : ∀ entry ∈ above, entry ∈ below ∧ laidOn (some entry.2) entry.2 = entry.2) :
    layEntries below above = below := by
  induction above with
  | nil => rfl
  | cons entry rest ih =>
    obtain ⟨⟨present, same⟩, others⟩ := List.forall_mem_cons.mp kept
    have found := underKey?_of_mem unique present
    have held : OrderedMap.get? below (entry.1.spelledIn below) = some entry.2 := by
      rw [get?_spelledIn, found]
    rw [layEntries, held, same, OrderedMap.insert_of_get? held]
    exact ih others

/-- Mappings in which every key stands once and no mapping contains itself, at any depth. -/
inductive Nested : Entries → Prop where
  | intro {entries : Entries} (unique : (keysOf entries).Nodup)
      (finite : ∀ entry ∈ entries, entry.2.isMapping = true → ∃ inner, entry.2 = .mapping inner)
      (inside : ∀ entry ∈ entries, ∀ inner, entry.2 = .mapping inner → Nested inner) :
      Nested entries

/-- A nested mapping that is laid over itself is as it was. -/
theorem Nested.layEntries_self {entries : Entries} (nested : Nested entries) :
    layEntries entries entries = entries := by
  induction nested with
  | @intro entries unique finite inside ih =>
    apply layEntries_of_kept unique
    intro entry member
    refine ⟨member, ?_⟩
    cases shape : entry.2.isMapping with
    | false => exact laidOn_of_not_isMapping _ shape
    | true =>
      obtain ⟨inner, same⟩ := finite entry member shape
      rw [same, laidOn_mapping rfl rfl, entries_mapping, ih entry member inner same]

theorem Nested.distinct {entries : Entries} (nested : Nested entries) :
    Distinct (mapping entries) := by
  induction nested with
  | @intro entries unique finite inside ih =>
    apply distinct_mapping unique
    intro entry member
    cases shape : entry.2.isMapping with
    | false => exact distinct_of_not_isMapping shape
    | true =>
      obtain ⟨inner, same⟩ := finite entry member shape
      rw [same]
      exact ih entry member inner same

/-- Mappings without mappings in them. -/
theorem nested_of_leaves {entries : Entries} (unique : (keysOf entries).Nodup)
    (leaves : ∀ entry ∈ entries, entry.2.isMapping = false) : Nested entries := by
  refine .intro unique (fun entry member shape => ?_) fun entry member inner same => ?_
  · simp [leaves entry member] at shape
  · have other := leaves entry member
    simp [same] at other

/-! ## Reading -/

theorem at?_eq_none_of_leaf {tree leaf : Tree} {walked rest : List Scalar.Key}
    (reached : tree.at? walked = some leaf) (other : leaf.isMapping = false) (further : rest ≠ []) :
    tree.at? (walked ++ rest) = none := by
  obtain ⟨key, later, rfl⟩ := List.exists_cons_of_ne_nil further
  simp [at?_append, reached, at?, entries_of_not_isMapping other]

/-- One mapping laid over another, read on any path. What is no mapping in the upper one is found
as it is, and nothing behind it. Where the upper one has a mapping there is one. Where a walk in
the upper one comes to a mapping without the next key, the lower one is read. So an empty mapping
makes no difference on either side, and neither does laying a nested one over itself. -/
theorem overlay_reads_paths (base : Entries) {above : Entries}
    (distinct : (mapping above).Distinct) (path : List Scalar.Key) :
    (∀ leaf, (mapping above).at? path = some leaf → leaf.isMapping = false →
      (mapping (overlay base above)).at? path = some leaf) ∧
    (∀ branch, (mapping above).at? path = some branch → branch.isMapping = true →
      ∃ merged, (mapping (overlay base above)).at? path = some merged ∧
        merged.isMapping = true) ∧
    (∀ walked rest leaf, path = walked ++ rest → rest ≠ [] →
      (mapping above).at? walked = some leaf → leaf.isMapping = false →
        (mapping (overlay base above)).at? path = none) ∧
    (∀ walked key rest branch, path = walked ++ key :: rest →
      (mapping above).at? walked = some branch → branch.isMapping = true →
      (mapping above).at? (walked ++ [key]) = none →
        (mapping (overlay base above)).at? path = (mapping base).at? path) ∧
    overlay [] above = above ∧ overlay base [] = base ∧
    (Nested above → overlay above above = above) := by
  have laid : mapping (overlay base above) = laidOn (some (mapping base)) (mapping above) := by
    rw [laidOn_mapping rfl rfl]
    rfl
  have leaves (walked : List Scalar.Key) (leaf : Tree)
      (reached : (mapping above).at? walked = some leaf) (other : leaf.isMapping = false) :
      (mapping (overlay base above)).at? walked = some leaf := by
    obtain ⟨lower, merged⟩ := at?_laidOn_of_reached distinct reached (some (mapping base))
    rw [laid, merged, laidOn_of_not_isMapping lower other]
  refine ⟨leaves path, ?_, ?_, ?_, layEntries_nil distinct.root, rfl, Nested.layEntries_self⟩
  · intro branch reached shape
    obtain ⟨lower, merged⟩ := at?_laidOn_of_reached distinct reached (some (mapping base))
    exact ⟨laidOn lower branch, laid ▸ merged, by rw [isMapping_laidOn, shape]⟩
  · rintro walked rest leaf rfl further reached other
    exact at?_eq_none_of_leaf (leaves walked leaf reached other) other further
  · rintro walked key rest branch rfl reached shape absent
    have lacking : underKey? branch.entries key = none := by
      simpa [at?_append, reached, at?] using absent
    rw [laid, at?_laidOn_of_lacking distinct reached shape lacking]
    rfl

namespace Limits

/-- A path of names. -/
def path (names : List String) : List Scalar.Key := names.map fun name => .scalar (.text name)

def number (value : Int) : Tree := .scalar (.int value)

def below : Entries :=
  [(.text "limits", .mapping [(.text "low", number 1), (.text "high", number 9)]),
    (.text "unit", number 3), (.text "range", .mapping [(.text "end", number 8)])]

def above : Entries :=
  [(.text "limits", .mapping [(.text "high", number 5)]),
    (.text "unit", .mapping [(.text "name", .text "mile")]), (.text "range", number 7)]

theorem nested : Nested above := by
  refine .intro (by decide) (by simp [above, number, isMapping, bare]) ?_
  simp only [above, number, List.forall_mem_cons, List.not_mem_nil, false_imp_iff, implies_true,
    and_true, Tree.mapping.injEq, forall_eq', reduceCtorEq]
  exact ⟨nested_of_leaves (by decide) (by decide), nested_of_leaves (by decide) (by decide)⟩

end Limits

open Limits in
/-- Limits of which one is laid over, a number that gives way to a mapping, and a mapping that
gives way to a number. -/
theorem overlay_reads_limits :
    (mapping above).Distinct ∧ Nested above ∧
      (mapping (overlay below above)).at? (path ["limits", "high"]) = some (number 5) ∧
      (mapping (overlay below above)).at? (path ["limits", "low"]) =
        (mapping below).at? (path ["limits", "low"]) ∧
      (∃ merged, (mapping (overlay below above)).at? (path ["unit"]) = some merged ∧
        merged.isMapping = true) ∧
      (mapping (overlay below above)).at? (path ["range", "end"]) = none ∧
      overlay above above = above := by
  have distinct := nested.distinct
  have reads (names : List String) := overlay_reads_paths below distinct (path names)
  refine ⟨distinct, nested, ?_, ?_, ?_, ?_, ?_⟩
  · exact (reads ["limits", "high"]).1 (number 5) rfl rfl
  · exact (reads ["limits", "low"]).2.2.2.1 (path ["limits"]) (.scalar (.text "low")) [] _ rfl rfl
      rfl rfl
  · exact (reads ["unit"]).2.1 _ rfl rfl
  · exact (reads ["range", "end"]).2.2.1 (path ["range"]) (path ["end"]) _ rfl (by decide) rfl rfl
  · exact (reads []).2.2.2.2.2.2 nested

end GraphCache.Tree
