import GraphCache.Proofs.LaidTrees
import GraphCache.Proofs.Outcomes
import GraphCache.Settings.Layers

/-! What a settings file says has every key once, at every depth. A mapping is filled entry by
entry, and a key that is there keeps its place, so this holds of all collections of a file; a
tree has the keys of its collections, however deep one that contains itself is unfolded. -/
namespace GraphCache

open GraphCache.Tree

/-! ## Collections -/

namespace Yaml

/-- A collection in which no key stands twice. -/
def Collection.Once : Collection → Prop
  | .mapping entries => (keysOf entries).Nodup
  | _ => True

/-- A graph in which no collection has a key twice. -/
def Graph.Once (graph : Graph) : Prop := ∀ collection ∈ graph.collections, collection.Once

namespace Graph

/-- A step that keeps the keys of all collections apart. -/
abbrev Keeps {α : Type} (step : GraphM α) : Prop := Preserves Once step fun _ => True

theorem keeps_add {collection : Collection} (own : collection.Once) : Keeps (add collection) := by
  refine Preserves.get.bind fun graph kept => (Preserves.set ?_).bind fun _ _ => .pure trivial
  intro other member
  obtain inside | rfl := Array.mem_push.mp member
  · exact kept other inside
  · exact own

theorem keeps_openOf (number : Nat) {collection : Collection} (own : collection.Once) :
    Keeps (openOf number collection) := by
  refine (keeps_add own).bind fun opened _ => (Preserves.modify ?_).bind fun _ _ => .pure trivial
  exact fun _ kept => kept

theorem keeps_valueOf (number : Nat) : Keeps (valueOf number) := by
  refine Preserves.get.bind fun graph _ => ?_
  cases graph.values.getD number none with
  | some value => exact .pure trivial
  | none =>
    have remember (value : Value) : Keeps (do
        modify fun graph =>
          { graph with values := graph.values.setIfInBounds number (some value) }
        return value : GraphM Value) := by
      refine (Preserves.modify ?_).bind fun _ _ => .pure trivial
      exact fun _ kept => kept
    have opens {collection : Collection} (own : collection.Once) :=
      (keeps_openOf number own).bind fun value _ => remember value
    dsimp only
    split
    · exact opens trivial
    · exact opens trivial
    · exact opens List.nodup_nil
    · exact opens trivial
    · refine (Preserves.lift _).bind fun scalar _ => ?_
      have given : Keeps (pure (.scalar scalar) : GraphM Value) := .pure trivial
      exact given.bind fun value _ => remember value

theorem preserves_entriesOf (number : Nat) :
    Preserves Once (entriesOf number) fun entries => (keysOf entries).Nodup := by
  refine Preserves.get.bind fun graph kept => ?_
  refine (Preserves.lift _).bind fun joined _ => ?_
  refine (Preserves.set ?_).bind fun _ _ => ?_
  · exact kept
  · refine Preserves.foldlM (fun entries entry unique => ?_) List.nodup_nil
    refine (keeps_valueOf entry.1).bind fun key _ => ?_
    cases key with
    | collection other => exact .throw _
    | scalar key =>
      exact (keeps_valueOf entry.2).bind fun value _ =>
        .pure (keysOf_insert_nodup unique key value)

theorem keeps_pairOf (number : Nat) : Keeps (pairOf number) := by
  refine Preserves.get.bind fun graph _ => ?_
  split
  · refine (keeps_valueOf _).bind fun key _ => (keeps_valueOf _).bind fun value _ => ?_
    have own : (Collection.pair key value).Once := trivial
    exact (keeps_add own).bind fun _ _ => .pure trivial
  · exact .throw _

theorem preserves_contentsOf (number : Nat) :
    Preserves Once (contentsOf number) Collection.Once := by
  refine Preserves.get.bind fun graph _ => ?_
  dsimp only
  split
  · exact (Preserves.mapM keeps_valueOf).bind fun _ _ => .pure trivial
  · exact (Preserves.mapM keeps_pairOf).bind fun _ _ => .pure trivial
  · exact (preserves_entriesOf number).bind fun _ unique => .pure unique
  · exact (preserves_entriesOf number).bind fun _ _ => .pure trivial
  · exact .throw _

theorem keeps_fill (rounds : Nat) : Keeps (fill rounds) := by
  induction rounds with
  | zero => exact .throw _
  | succ rounds ih =>
    refine Preserves.get.bind fun graph _ => ?_
    dsimp only
    split
    · exact .pure trivial
    · refine (Preserves.modify ?_).bind fun _ _ => ?_
      · exact fun _ kept => kept
      · refine (Preserves.forM fun opened _ => ?_).bind fun _ _ => ih
        refine (preserves_contentsOf opened.1).bind fun contents own => Preserves.modify ?_
        intro graph kept collection member
        obtain inside | rfl := Array.mem_or_eq_of_mem_setIfInBounds member
        · exact kept collection inside
        · exact own

/-- The collections of a document have every key once. -/
theorem once_of_ofDocument {document : Document} {collections : Array Collection} {value : Value}
    (made : ofDocument document = .ok (collections, value)) :
    ∀ collection ∈ collections, collection.Once := by
  unfold ofDocument at made
  split at made
  · cases made
    simp
  · obtain ⟨⟨own, graph⟩, built, done⟩ := except_bind_ok.mp made
    cases done
    have keeps (root : Nat) (rounds : Nat) : Keeps (do
        let value ← valueOf root
        fill rounds
        return value : GraphM Value) :=
      (keeps_valueOf root).bind fun _ _ => (keeps_fill rounds).bind fun _ _ => .pure trivial
    exact (keeps _ _ _ _ _ (by intro collection member; simp at member) built).1

end Graph

/-! ## Trees -/

/-- Trees in which every key stands once, as far as they are known. -/
def Trees.Once (trees : Trees) : Prop := ∀ tree, some tree ∈ trees → tree.Distinct

/-- What stands at a number is there, or it is what stands for nothing. -/
private theorem getD_mem {α : Type} (entries : Array α) (number : Nat) (fallback : α) :
    entries.getD number fallback ∈ entries ∨ entries.getD number fallback = fallback := by
  rw [Array.getD_eq_getD_getElem?]
  cases held : entries[number]? with
  | none => exact .inr rfl
  | some entry => exact .inl (Array.mem_of_getElem? held)

theorem Trees.Once.find? {trees : Trees} (once : trees.Once) {value : Value} {tree : Tree}
    (found : trees.find? value = some tree) : tree.Distinct := by
  cases value with
  | scalar value =>
    cases found
    exact distinct_of_not_isMapping rfl
  | collection number =>
    obtain inside | nothing := getD_mem trees number none
    · exact once tree (found ▸ inside)
    · cases nothing.symm.trans found

theorem Trees.Once.setIfInBounds {trees : Trees} (once : trees.Once) (number : Nat)
    {known : Option Tree} (own : ∀ tree, known = some tree → tree.Distinct) :
    Trees.Once (trees.setIfInBounds number known) := by
  intro tree member
  obtain inside | same := Array.mem_or_eq_of_mem_setIfInBounds member
  · exact once tree inside
  · exact own tree same.symm

/-- The keys of entries are there again when their values have become trees. -/
theorem entries_toTree {content : Value → Option Tree} {entries : OrderedMap Scalar Value}
    {trees : Entries}
    (made : (entries.mapM fun entry => return (entry.1, ← content entry.2)) = some trees) :
    keysOf trees = keysOf entries ∧ ∀ entry ∈ trees, ∃ value, content value = some entry.2 := by
  induction entries generalizing trees with
  | nil =>
    cases made
    simp [keysOf]
  | cons entry rest ih =>
    simp only [List.mapM_cons, bind, Option.bind_eq_some_iff, pure, Option.some.injEq] at made
    obtain ⟨_, ⟨tree, own, rfl⟩, others, later, rfl⟩ := made
    obtain ⟨keys, each⟩ := ih later
    refine ⟨by simpa [keysOf] using keys, ?_⟩
    exact List.forall_mem_cons.mpr ⟨⟨entry.2, own⟩, each⟩

theorem Collection.Once.toTree {collection : Collection} (once : collection.Once)
    {content : Value → Option Tree}
    (inside : ∀ value tree, content value = some tree → tree.Distinct) {tree : Tree}
    (made : collection.toTree content = some tree) : tree.Distinct := by
  cases collection with
  | list items =>
    obtain ⟨trees, -, done⟩ := Option.bind_eq_some_iff.mp made
    cases done
    exact distinct_of_not_isMapping rfl
  | mapping entries =>
    obtain ⟨trees, each, done⟩ := Option.bind_eq_some_iff.mp made
    cases done
    obtain ⟨keys, given⟩ := entries_toTree each
    refine distinct_mapping (keys ▸ once) fun entry member => ?_
    obtain ⟨value, own⟩ := given entry member
    exact inside value entry.2 own
  | pair key value =>
    obtain ⟨one, -, rest⟩ := Option.bind_eq_some_iff.mp made
    obtain ⟨two, -, done⟩ := Option.bind_eq_some_iff.mp rest
    cases done
    exact distinct_of_not_isMapping rfl
  | set members =>
    cases made
    exact distinct_of_not_isMapping rfl

theorem distinct_cyclic {inside : Tree} (distinct : inside.Distinct) (shown : String) :
    (Tree.cyclic shown inside).Distinct := by
  cases inside with
  | mapping entries => exact (distinct_iff _).mpr ⟨distinct.root, fun _ _ => distinct.under⟩
  | _ => exact distinct_of_not_isMapping rfl

namespace Unfolding

variable {collections : Array Collection} (each : ∀ collection ∈ collections, collection.Once)
include each

theorem once_getD (number : Nat) : (collections.getD number default).Once := by
  obtain inside | nothing := getD_mem collections number default
  · exact each _ inside
  · rw [nothing]
    trivial

theorem once_grow {trees : Trees} (once : trees.Once) : (grow collections trees).Once := by
  refine List.foldlRecOn _ _ once fun trees once number _ => ?_
  split
  · exact once
  · exact once.setIfInBounds number fun tree made =>
      (once_getD each number).toTree (fun value tree found => once.find? found) made

theorem once_growAll (rounds : Nat) {trees : Trees} (once : trees.Once) :
    (growAll collections rounds trees).Once := by
  induction rounds generalizing trees with
  | zero => exact once
  | succ rounds ih =>
    rw [growAll]
    split
    · exact once_grow each once
    · exact ih (once_grow each once)

theorem once_unfold {known : Trees} (once : known.Once) (cyclic : List Nat) (depth : Nat) :
    (unfold collections known cyclic depth).Once := by
  induction depth with
  | zero =>
    refine once_growAll each _ (List.foldlRecOn _ _ once fun trees once number _ => ?_)
    refine once.setIfInBounds number fun tree same => ?_
    cases same
    exact distinct_cyclic (distinct_of_not_isMapping rfl) _
  | succ depth ih =>
    refine once_growAll each _ (List.foldlRecOn _ _ once fun trees once number _ => ?_)
    refine once.setIfInBounds number fun tree same => ?_
    obtain ⟨inside, made, rfl⟩ := Option.map_eq_some_iff.mp same
    exact distinct_cyclic
      ((once_getD each number).toTree (fun value tree found => ih.find? found) made) _

end Unfolding

open Unfolding in
/-- A value has every key once if the collections do. -/
theorem Value.distinct_toTree {collections : Array Collection}
    (each : ∀ collection ∈ collections, collection.Once) (value : Value) :
    (value.toTree collections).Distinct := by
  have nothing : Trees.Once (Array.replicate collections.size none) := by
    intro tree member
    cases Array.eq_of_mem_replicate member
  have known := once_growAll each (collections.size + 1) nothing
  have found {trees : Trees} (once : trees.Once) : ((trees.find? value).getD .null).Distinct := by
    cases held : trees.find? value with
    | none => exact distinct_of_not_isMapping rfl
    | some tree => exact once.find? held
  rw [toTree]
  apply found
  split
  · exact known
  · exact once_unfold each known _ _

/-- So has what is read from a text. -/
theorem distinct_of_read {text : String} {tree : Tree} (done : read text = .ok tree) :
    tree.Distinct := by
  unfold read at done
  dsimp only at done
  split at done
  · cases done
  · simp only [bind, except_bind_ok] at done
    obtain ⟨_, -, ⟨collections, value⟩, made, same⟩ := done
    cases same
    exact value.distinct_toTree (Graph.once_of_ofDocument made)

end Yaml

/-- A file of settings has every key once. -/
theorem readSettings_distinct {path : String} {text : Option String} {tree : Tree}
    (done : readSettings path text = .ok tree) : tree.Distinct := by
  have empty : (Tree.mapping []).Distinct := distinct_mapping List.nodup_nil fun _ => nofun
  unfold readSettings at done
  split at done
  · cases done
    exact empty
  · split at done
    · next read =>
      cases done
      split
      · exact Yaml.distinct_of_read read
      · exact empty
    · cases done
    · cases done

end GraphCache
