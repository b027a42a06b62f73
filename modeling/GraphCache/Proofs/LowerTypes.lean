import GraphCache.Proofs.FaithfulAnswer
import GraphCache.Proofs.Inlining
import GraphCache.Proofs.Lowercase

/-! The types of compiled nodes are in lower case. A walk writes every type mark in lower case,
whatever it meets and wherever it ends, and inlining fragments only moves marks about. A
mark that something else has taken the place of is no text, and says nothing here. -/
namespace GraphCache

/-- A node whose type mark, if it is a text, is in lower case, with such nodes below it. -/
inductive Node.LowerTyped : Node → Prop where
  | intro {node : Node}
      (own : ∀ name, (Mark.typeName, Entry.literal (.string name)) ∈ node → Text.Lowered name)
      (inside : ∀ key entries, (key, Entry.relation entries) ∈ node → Node.LowerTyped entries) :
      Node.LowerTyped node

namespace Node

theorem LowerTyped.own {node : Node} (typed : node.LowerTyped) {name : String}
    (member : (Mark.typeName, Entry.literal (.string name)) ∈ node) : Text.Lowered name := by
  cases typed with
  | intro own _ => exact own name member

theorem LowerTyped.inside {node : Node} (typed : node.LowerTyped) {key : String}
    {entries : List (String × Entry)} (member : (key, Entry.relation entries) ∈ node) :
    LowerTyped entries := by
  cases typed with
  | intro _ inside => exact inside key entries member

/-- The type of such a node is in lower case. -/
theorem LowerTyped.typeLabel {node : Node} (typed : node.LowerTyped) {name : String}
    (label : node.typeLabel = .text name) : Text.Lowered name := by
  have empty : Text.Lowered "" := rfl
  rw [Node.typeLabel, Node.typeName, mark] at label
  cases found : OrderedMap.get? node Mark.typeName with
  | none =>
    rw [found] at label
    cases label
    exact empty
  | some entry =>
    rw [found] at label
    cases entry with
    | requested => cases label
    | relation entries =>
      simp only [Option.map_some, Option.getD_some, Entry.toJson] at label
      split at label <;> cases label
      exact empty
    | literal value =>
      simp only [Option.map_some, Option.getD_some, Entry.toJson] at label
      split at label
      · cases label
        exact typed.own (OrderedMap.mem_of_get?_eq_some found)
      · split at label <;> cases label
        exact empty

/-! ## Writing -/

theorem lowerTyped_nil : LowerTyped [] := .intro (by simp) (by simp)

/-- What is put together from such nodes is one. -/
theorem LowerTyped.of_mem {node first second : Node} (one : first.LowerTyped)
    (two : second.LowerTyped) (parts : ∀ entry ∈ node, entry ∈ first ∨ entry ∈ second) :
    node.LowerTyped := by
  refine .intro (fun name member => ?_) fun key entries member => ?_
  · exact (parts _ member).elim one.own two.own
  · exact (parts _ member).elim one.inside two.inside

theorem LowerTyped.overlay {base above : Node} (one : base.LowerTyped) (two : above.LowerTyped) :
    LowerTyped (OrderedMap.overlay base above) :=
  one.of_mem two fun _ member => OrderedMap.mem_of_mem_overlay member

theorem LowerTyped.insert {node record : Node} (typed : node.LowerTyped) (key : String)
    (below : record.LowerTyped) : LowerTyped (OrderedMap.insert node key (.relation record)) := by
  refine .intro (fun name member => ?_) fun probe entries member => ?_
  · obtain old | same := OrderedMap.mem_of_mem_insert member
    · exact typed.own old
    · cases same
  · obtain old | same := OrderedMap.mem_of_mem_insert member
    · exact typed.inside old
    · cases same
      exact below

theorem lowerTyped_ofNames (names : List String) : LowerTyped (Node.ofNames names) := by
  have requested : ∀ entry ∈ Node.ofNames names, entry.2 = .requested := by
    intro entry member
    obtain none | named := OrderedMap.mem_of_mem_overlay member
    · cases none
    · obtain ⟨name, _, rfl⟩ := List.mem_map.mp named
      rfl
  refine .intro (fun name member => ?_) fun key entries member => ?_
  · cases requested _ member
  · cases requested _ member

theorem LowerTyped.writeAt {node record : Node} (typed : node.LowerTyped)
    (below : record.LowerTyped) (path : List String) : (node.writeAt path record).LowerTyped := by
  induction path generalizing node with
  | nil => exact typed
  | cons key rest ih =>
    cases rest with
    | nil => exact typed.insert key below
    | cons next later =>
      refine typed.insert key (ih ?_)
      split
      · rename_i entries found
        exact typed.inside (OrderedMap.mem_of_get?_eq_some found)
      · exact lowerTyped_nil

end Node

theorem FieldHead.lowerTyped_marks (head : FieldHead) (custom : Option String) :
    (head.marks custom).LowerTyped := by
  refine .intro (fun name member => ?_) fun key entries member => ?_
  · have found := OrderedMap.get?_eq_some_of_mem (head.keys_marks_nodup custom) member
    rw [head.get?_marks_typeName] at found
    cases found
    exact Text.lowered_lowercase head.name
  · exact absurd rfl (head.flat_marks custom _ member entries)

/-! ## The walk -/

namespace Prototype

/-- All nodes have types in lower case. -/
def LowerTyped (prototype : Prototype) : Prop := ∀ root ∈ prototype, root.2.LowerTyped

theorem LowerTyped.insert {prototype : Prototype} (typed : prototype.LowerTyped) (key : String)
    {node : Node} (own : node.LowerTyped) : LowerTyped (OrderedMap.insert prototype key node) := by
  intro root member
  obtain old | rfl := OrderedMap.mem_of_mem_insert member
  · exact typed root old
  · exact own

theorem LowerTyped.writeAt {prototype : Prototype} (typed : prototype.LowerTyped) {record : Node}
    (own : record.LowerTyped) (path : List String) : (prototype.writeAt path record).LowerTyped := by
  match path with
  | [] => exact typed
  | [root] => exact typed.insert root own
  | root :: next :: rest =>
    refine typed.insert root (Node.LowerTyped.writeAt ?_ own (next :: rest))
    cases found : OrderedMap.get? prototype root with
    | none => exact Node.lowerTyped_nil
    | some node => exact typed _ (OrderedMap.mem_of_get?_eq_some found)

end Prototype

namespace Walk

/-- Everything a walk has written so far, or keeps to be written, has types in lower case. -/
structure LowerTyped (walk : Walk) : Prop where
  prototype : walk.prototype.LowerTyped
  fragments : Prototype.LowerTyped walk.fragments
  marks : ∀ entry ∈ walk.marks, entry.2.LowerTyped

theorem lowerTyped_start : Walk.start.LowerTyped :=
  ⟨by simp [start, Prototype.LowerTyped], by simp [start, Prototype.LowerTyped], by simp [start]⟩

theorem LowerTyped.write {walk : Walk} (typed : walk.LowerTyped) {record : Node}
    (own : record.LowerTyped) : (walk.write record).LowerTyped := by
  rw [Walk.write]
  split
  · exact ⟨typed.prototype, typed.fragments.writeAt own _, typed.marks⟩
  · exact ⟨typed.prototype.writeAt own _, typed.fragments, typed.marks⟩

/-- A visit keeps all types in lower case. -/
theorem LowerTyped.step {custom : Option String} {walk next : Walk} (typed : walk.LowerTyped)
    {visit : Visit} (stepped : walk.step custom visit = .ok next) : next.LowerTyped := by
  cases visit with
  | operation kind directives =>
    simp only [Walk.step] at stepped
    split at stepped
    · cases stepped
    · split at stepped <;> cases stepped
      exact ⟨typed.prototype, typed.fragments, typed.marks⟩
  | fragment name directives leaves =>
    simp only [Walk.step] at stepped
    split at stepped <;> cases stepped
    exact ⟨typed.prototype, typed.fragments.insert name (Node.lowerTyped_ofNames leaves), typed.marks⟩
  | endFragment =>
    cases stepped
    exact ⟨typed.prototype, typed.fragments, typed.marks⟩
  | field head =>
    simp only [Walk.step] at stepped
    split at stepped
    · cases stepped
    split at stepped
    · cases stepped
    split at stepped <;> cases stepped
    refine ⟨typed.prototype, typed.fragments, fun entry member => ?_⟩
    obtain old | rfl := OrderedMap.mem_of_mem_insert member
    · exact typed.marks entry old
    · exact head.lowerTyped_marks custom
  | selectionSet offered =>
    simp only [Walk.step] at stepped
    split at stepped <;> cases stepped
    refine typed.write ((Node.lowerTyped_ofNames offered).overlay ?_)
    cases found : OrderedMap.get? walk.marks walk.stack with
    | none => exact Node.lowerTyped_nil
    | some marks => exact typed.marks _ (OrderedMap.mem_of_get?_eq_some found)
  | endField =>
    cases stepped
    exact ⟨typed.prototype, typed.fragments, typed.marks⟩
  | inlineFragment => cases stepped
  | other directives =>
    simp only [Walk.step] at stepped
    split at stepped <;> cases stepped
    exact typed

/-- So does a walk, up to its end or to its first obstacle. -/
theorem LowerTyped.run {walk : Walk} (typed : walk.LowerTyped) (custom : Option String)
    (visits : List Visit) : (walk.run custom visits).1.LowerTyped := by
  induction visits generalizing walk with
  | nil => exact typed
  | cons visit rest ih =>
    rw [Walk.run]
    split
    · rename_i next stepped
      exact ih (typed.step stepped)
    · exact typed

end Walk

/-! ## Inlining -/

namespace Node

/-- Inlining fragments whose types are in lower case keeps types in lower case. -/
theorem LowerTyped.inlineSpreads {resolve : String → Spread}
    (lower : ∀ name fragment, resolve name = .inlined fragment → fragment.LowerTyped) {node : Node}
    (typed : node.LowerTyped) : (node.inlineSpreads resolve).LowerTyped := by
  induction typed with
  | intro own inside ih =>
    rename_i node
    refine .intro (fun name member => ?_) fun key entries member => ?_
    · obtain written | ⟨spread, fragment, _, _, inlined, part⟩ := mem_absorbSpreads member
      · exact own name (literal_of_mem_ownEntries written)
      · exact (lower spread fragment inlined).own part
    · obtain ⟨below, written, rfl⟩ | ⟨spread, fragment, _, _, inlined, part⟩ :=
        relation_of_mem_inlineSpreads member
      · split
        · exact inside key below written
        · exact ih key below written
      · exact (lower spread fragment inlined).inside part

theorem LowerTyped.expand {fragments : FragmentMap} (lower : Prototype.LowerTyped fragments)
    (depth : Nat) (opened : List String) {node : Node} (typed : node.LowerTyped) :
    (Node.expand fragments depth opened node).LowerTyped := by
  refine expand_induction (motive := fun written node => written.LowerTyped → node.LowerTyped)
    ?_ depth opened node typed
  intro depth opened node inside typed
  refine typed.inlineSpreads fun name fragment inlined => ?_
  obtain ⟨written, found, kept⟩ := inside name fragment inlined
  exact kept (lower _ (OrderedMap.mem_of_get?_eq_some found))

end Node

/-- A prototype that comes from compiling a document, with its spreads or with its fragments
inlined. -/
def Prototype.Compiled (prototype : Prototype) : Prop :=
  ∃ (document : Document) (custom : Option String),
    prototype = (document.compile custom).prototype ∨ prototype = document.expanded custom

/-- All types of a compiled prototype are in lower case. -/
theorem Prototype.Compiled.lowerTyped {prototype : Prototype} (compiled : prototype.Compiled) :
    prototype.LowerTyped := by
  obtain ⟨document, custom, rfl | rfl⟩ := compiled
  · exact (Walk.lowerTyped_start.run custom document.visits).prototype
  · have walked := Walk.lowerTyped_start.run custom document.visits
    intro root member
    obtain ⟨written, inside, rfl⟩ := List.mem_map.mp member
    exact (walked.prototype written inside).expand walked.fragments _ _

end GraphCache
