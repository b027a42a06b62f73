import GraphCache.Proofs.ExpandedNodes

/-! Marks that selections take the place of. Marks and fields share a node, and they are written
at different moments: a field's names first, its marks over them, then the relations below it,
and the fields of its fragments when these are inlined. So a leaf never harms a mark of its own
field. A relation does that is renamed to look like the mark, and so does any such field of a
fragment, unless the mark is a mapping. Nothing else that is selected changes a mark, and the
key of a root is the same whatever is selected under it, as long as its marks are kept. -/
namespace GraphCache

namespace FieldHead

/-- The arguments of a field that do not look like marks, with their values as they are written. -/
def literals (head : FieldHead) : OrderedMap String Json :=
  OrderedMap.ofList ((head.arguments.filter fun argument => !isReserved argument.name).map
    fun argument => (argument.name, argument.value.argumentValue))

/-- What the marks of a field are to say: its name in lower case, its alias, its arguments and
the argument that is an identifier. What is missing is null. -/
def ownMarks (head : FieldHead) (custom : Option String) : List (String × Json) :=
  [(Mark.typeName, .string (Text.lowercase head.name)),
   (Mark.aliasName, (head.aliasName.map Json.string).getD .null),
   (Mark.arguments, if head.literals.isEmpty then .null else .object head.literals),
   (Mark.identifier, (firstIdentifier? head.literals custom).getD .null)]

variable {head : FieldHead} {custom : Option String} {mark : String} {value : Json}

theorem reserved_of_ownMarks (own : (mark, value) ∈ head.ownMarks custom) :
    isReserved mark = true := by
  simp only [ownMarks, List.mem_cons, Prod.mk.injEq, List.not_mem_nil, or_false] at own
  rcases own with ⟨rfl, -⟩ | ⟨rfl, -⟩ | ⟨rfl, -⟩ | ⟨rfl, -⟩ <;> decide

theorem exists_ownMark (head : FieldHead) (custom : Option String) {mark : String}
    (marked : mark ∈ Node.markNames) : ∃ value, (mark, value) ∈ head.ownMarks custom := by
  simp only [Node.markNames, List.mem_cons, List.not_mem_nil, or_false] at marked
  rcases marked with rfl | rfl | rfl
  · exact ⟨_, .head _⟩
  · exact ⟨_, .tail _ (.tail _ (.tail _ (.head _)))⟩
  · exact ⟨_, .tail _ (.tail _ (.head _))⟩

/-- The marks of a field say what they are to say, whatever options are given with it. -/
theorem get?_marks (own : (mark, value) ∈ head.ownMarks custom) :
    OrderedMap.get? (head.marks custom) mark = some (.literal value) := by
  have given : (head.arguments.map fun argument =>
        (argument.name, argument.value.argumentValue)).filter (fun entry => !isReserved entry.1) =
      (head.arguments.filter fun argument => !isReserved argument.name).map
        fun argument => (argument.name, argument.value.argumentValue) := by
    rw [List.filter_map]
    rfl
  simp only [ownMarks, List.mem_cons, Prod.mk.injEq, List.not_mem_nil, or_false] at own
  rw [marks, OrderedMap.get?_overlay, given]
  rcases own with ⟨rfl, rfl⟩ | ⟨rfl, rfl⟩ | ⟨rfl, rfl⟩ | ⟨rfl, rfl⟩ <;> rfl

/-- As it is written a node has the marks of its field, but for relations in their place. -/
theorem get?_node_ownMark_iff {selections : List Selection}
    (own : (mark, value) ∈ head.ownMarks custom) :
    OrderedMap.get? (head.node custom selections) mark = some (.literal value) ↔
      mark ∉ (Selection.branches selections).map Prod.fst := by
  rw [head.get?_node_mark custom (get?_marks own), ← Selection.last?_isSome_iff]
  cases Selection.last? selections mark <;> simp

end FieldHead

/-! ## What is written over a mark -/

namespace Node

/-- Under a key that a fragment has stands what the fragment has there, if it is no mapping. -/
private theorem mem_of_get?_absorb {node fragment : Node} {key : String} {entry : Entry}
    (found : OrderedMap.get? (node.absorb fragment) key = some entry)
    (single : entry.isMapping = false) (present : key ∈ OrderedMap.keys fragment) :
    (key, entry) ∈ fragment := by
  induction fragment generalizing node with
  | nil => cases present
  | cons first rest ih =>
    obtain ⟨name, written⟩ := first
    by_cases later : key ∈ OrderedMap.keys rest
    · exact List.mem_cons_of_mem _ (ih found later)
    · -- the first entry is the last one that is written under the key
      obtain rfl : key = name := (List.mem_cons.mp present).resolve_right later
      obtain ⟨mapping, held, shape⟩ | free := node.held_or_free key
      · rw [absorb_held held shape, get?_absorb later, held] at found
        cases found
        rw [shape] at single
        cases single
      · rw [absorb_free free, get?_absorb later, OrderedMap.get?_insert_self] at found
        cases found
        exact List.mem_cons_self

/-- Under a key that is brought in stands what one of the fragments has there, if it is no mapping. -/
private theorem mem_of_get?_absorbSpreads {resolve : String → Spread} {own written : Node}
    {key : String} {entry : Entry}
    (found : OrderedMap.get? (absorbSpreads resolve own written) key = some entry)
    (single : entry.isMapping = false) (brought : Brings resolve written key) :
    ∃ name fragment, resolve name = .inlined fragment ∧ (key, entry) ∈ fragment := by
  induction written generalizing own with
  | nil => exact absurd brought (not_brings_nil key)
  | cons first rest ih =>
    obtain ⟨name, asked⟩ := first
    obtain skipped | ⟨fragment, rfl, plain, inlined⟩ := skipped_or_inlined resolve name asked
    · rw [absorbSpreads_skipped skipped] at found
      exact ih found ((brings_skipped skipped key).mp brought)
    · rw [absorbSpreads_inlined plain inlined] at found
      by_cases later : Brings resolve rest key
      · exact ih found later
      · -- the first spread is the last one that brings the key in
        have inside := ((brings_inlined plain inlined key).mp brought).resolve_right later
        rw [get?_absorbSpreads later] at found
        exact ⟨name, fragment, inlined, mem_of_get?_absorb found single inside⟩

/-- Fragments without literals leave a literal mark in its place exactly if none of those that are
inlined has the key, or the mark is a mapping. -/
theorem get?_expand_mark_iff {fragments : FragmentMap} {node : Node} {mark : String} {value : Json}
    (reserved : isReserved mark = true) (unique : (OrderedMap.keys node).Nodup)
    (bare : ∀ name fragment, OrderedMap.get? fragments name = some fragment →
      (mark, Entry.literal value) ∉ fragment) (depth : Nat) (opened : List String) :
    OrderedMap.get? (Node.expand fragments depth opened node) mark = some (.literal value) ↔
      OrderedMap.get? node mark = some (.literal value) ∧
        (value.isObject = true ∨ ¬node.Brings (Node.spread fragments depth opened) mark) := by
  constructor
  · intro found
    obtain own | ⟨name, fragment, defined, inside⟩ :=
      mem_expand_of_reserved reserved (OrderedMap.mem_of_get?_eq_some found)
    · refine ⟨OrderedMap.get?_eq_some_of_mem unique own, ?_⟩
      cases shape : value.isObject with
      | true => exact .inl rfl
      | false =>
        refine .inr fun brought => ?_
        rw [expand_eq, inlineSpreads] at found
        obtain ⟨name, _, inlined, member⟩ := mem_of_get?_absorbSpreads found shape brought
        obtain ⟨less, written, _, defined, rfl⟩ := inlined_of_spread inlined
        obtain here | ⟨further, fragment, defined, here⟩ := mem_expand_of_reserved reserved member
        · exact bare name written defined here
        · exact bare further fragment defined here
    · exact absurd inside (bare name fragment defined)
  · rintro ⟨own, kept⟩
    rw [← get?_ownEntries reserved] at own
    rw [expand_eq, inlineSpreads]
    obtain shape | unbrought := kept
    · have mapping : (Entry.literal value).isMapping = true := shape
      exact get?_absorbSpreads_mapping mapping own node
    · rw [get?_absorbSpreads unbrought, own]

end Node

/-- A fragment has names and relations, and no literal. -/
theorem Fragment.not_literal_mem_node (shared : Fragment) (custom : Option String) (key : String)
    (value : Json) : (key, Entry.literal value) ∉ shared.node custom := by
  intro member
  obtain ⟨_, _, relation⟩ | ⟨_, requested⟩ := mem_node member
  · cases relation
  · cases requested

namespace Document

variable {document : Document} {custom : Option String}

/-- A fragment that a field reaches selects something under the key of a mark. -/
def Overwrites (document : Document) (custom : Option String) (head : FieldHead)
    (selections : List Selection) (mark : String) : Prop :=
  ∃ name shared,
    (head.node custom selections).Reaches (document.translatedFragments custom) name ∧
      document.fragment? name = some shared ∧ mark ∈ Selection.responseKeys shared.selections

private theorem brings_iff_overwrites {head : FieldHead} {selections : List Selection}
    {mark : String} (reserved : isReserved mark = true) :
    (head.node custom selections).Brings (Node.spread (document.translatedFragments custom)
        (document.translatedFragments custom).length []) mark ↔
      document.Overwrites custom head selections mark := by
  rw [Node.brings_iff_reaches]
  constructor
  · rintro ⟨name, fragment, reaches, found, entry, member, _⟩
    obtain ⟨shared, defined, rfl⟩ := get?_translatedFragments_iff.mp found
    exact ⟨name, shared, reaches, defined, Fragment.mem_keys_node.mp (List.mem_map_of_mem member)⟩
  · rintro ⟨name, shared, reaches, defined, inside⟩
    have present : mark ∈ OrderedMap.keys (shared.node custom) := Fragment.mem_keys_node.mpr inside
    obtain ⟨⟨_, entry⟩, member, rfl⟩ := List.mem_map.mp present
    refine ⟨name, _, reaches, get?_translatedFragments_iff.mpr ⟨shared, defined, rfl⟩, entry, member,
      fun _ plain => ?_⟩
    rw [reserved] at plain
    cases plain

/-- With fragments inlined a node still has a mark of its field unless something is written over it. -/
theorem get?_expand_ownMark_iff {head : FieldHead} {selections : List Selection} {mark : String}
    {value : Json} (own : (mark, value) ∈ head.ownMarks custom) :
    OrderedMap.get? (document.inlinedRoot custom head selections) mark = some (.literal value) ↔
      mark ∉ (Selection.branches selections).map Prod.fst ∧
        (value.isObject = true ∨ ¬document.Overwrites custom head selections mark) := by
  have reserved := FieldHead.reserved_of_ownMarks own
  rw [inlinedRoot, Node.get?_expand_mark_iff reserved (head.keys_node_nodup custom selections),
    FieldHead.get?_node_ownMark_iff own, brings_iff_overwrites reserved]
  intro name fragment found
  obtain ⟨shared, defined, rfl⟩ := get?_translatedFragments_iff.mp found
  exact shared.not_literal_mem_node custom mark value

/-- Wherever a node has become of a relation, it has the marks of that field which no relation of the
field's own replaces, and no fragment of the document. -/
theorem Stands.get?_ownMark {head : FieldHead} {selections : List Selection} {node : Node}
    (stands : document.Stands custom head selections node) {mark : String} {value : Json}
    (own : (mark, value) ∈ head.ownMarks custom)
    (unbranched : mark ∉ (Selection.branches selections).map Prod.fst)
    (unshared : ∀ shared ∈ document.fragments, mark ∉ Selection.responseKeys shared.selections) :
    OrderedMap.get? node mark = some (.literal value) := by
  have written := (FieldHead.get?_node_ownMark_iff own).mpr unbranched
  obtain rfl | ⟨depth, opened, rfl⟩ := stands
  · exact written
  · rw [Node.get?_expand (FieldHead.reserved_of_ownMarks own), written]
    intro name fragment found
    obtain ⟨shared, defined, rfl⟩ := get?_translatedFragments_iff.mp found
    exact Fragment.get?_node_absent (unshared shared (named_of_fragment? defined).1)

/-! ## Marks in a document -/

/-- Every field with a selection set that is selected below the roots has a node, as it is written
and with fragments inlined. As written, a mark says what it is to say exactly if no relation is
selected in its place; with fragments inlined it does exactly if, besides, no fragment that is
reached selects anything in its place. Objects are not replaced by fragments, and nothing is
where a key on the way looks like a mark. While the marks that make it are kept, the key of a
node is made by the field alone. In fragments, and in what comes out of them, marks are kept
likewise. -/
theorem marks_kept_iff (clear : (document.compile custom).obstacle = none) :
    (∀ path head selections,
      Selection.fieldAt? document.rootSelections path = some (head, selections) →
      ∃ written node, (document.compile custom).prototype.at? path = some written ∧
        (document.expanded custom).at? path = some node ∧
        (∀ mark value, (mark, value) ∈ head.ownMarks custom →
          (OrderedMap.get? written mark = some (.literal value) ↔
            mark ∉ (Selection.branches selections).map Prod.fst) ∧
          (OrderedMap.get? node mark = some (.literal value) ↔
            mark ∉ (Selection.branches selections).map Prod.fst ∧
              (path.tail.any isReserved = true ∨ value.isObject = true ∨
                ¬document.Overwrites custom head selections mark))) ∧
        ∀ either ∈ [written, node], (∀ mark ∈ Node.markNames, ∀ value,
            (mark, value) ∈ head.ownMarks custom →
              OrderedMap.get? either mark = some (.literal value)) →
          ∀ name, either.queryKey name = (head.marks custom).queryKey name) ∧
    (∀ fragment key rest head selections,
      ((document.fragment? fragment).bind fun shared =>
        Selection.fieldAt? shared.selections (key :: rest)) = some (head, selections) →
      ∃ written,
        Prototype.at? (document.compile custom).fragments (fragment :: key :: rest) = some written ∧
        ∀ mark value, (mark, value) ∈ head.ownMarks custom →
          (OrderedMap.get? written mark = some (.literal value) ↔
            mark ∉ (Selection.branches selections).map Prod.fst)) ∧
    ∀ path node, (document.expanded custom).at? path = some node →
      ∃ head selections, document.Relates head selections ∧
        path.getLast? = some head.responseKey ∧
        ∀ mark value, (mark, value) ∈ head.ownMarks custom →
          mark ∉ (Selection.branches selections).map Prod.fst →
          (∀ shared ∈ document.fragments, mark ∉ Selection.responseKeys shared.selections) →
          OrderedMap.get? node mark = some (.literal value) := by
  obtain ⟨roots, fragments⟩ := compiled_trees clear
  refine ⟨?_, ?_, ?_⟩
  · intro path head selections selected
    refine ⟨head.node custom selections, _, ?_, expanded_at? clear selected, ?_, ?_⟩
    · rw [roots, translatedRoots_at?, selected]
      rfl
    · intro mark value own
      refine ⟨FieldHead.get?_node_ownMark_iff own, ?_⟩
      cases path.tail.any isReserved with
      | true => simp [FieldHead.get?_node_ownMark_iff own]
      | false => simp [get?_expand_ownMark_iff own]
    · intro either _ kept name
      refine Node.queryKey_congr (fun mark marked => ?_) name
      obtain ⟨value, own⟩ := head.exists_ownMark custom marked
      rw [kept mark marked value own, FieldHead.get?_marks own]
  · intro fragment key rest head selections selected
    obtain ⟨shared, defined, found⟩ := Option.bind_eq_some_iff.mp selected
    refine ⟨head.node custom selections, ?_, fun mark value => FieldHead.get?_node_ownMark_iff⟩
    rw [fragments, translatedFragments_at?, defined, Option.bind_some, found]
    rfl
  · intro path node found
    obtain ⟨head, selections, relates, named, stands⟩ := exists_relates_of_at? clear found
    exact ⟨head, selections, relates, named, fun mark value => stands.get?_ownMark⟩

end Document

namespace Renamed

def head : FieldHead := ⟨none, "country", [⟨"id", .int "1"⟩], []⟩

def selections : List Selection := [.leaf ⟨none, "id", [], []⟩, .spread "F" []]

def shared : Fragment := ⟨"F", "Country", [], [.leaf ⟨some "__type", "name", [], []⟩]⟩

/-- A document in which a leaf of a fragment is renamed to look like the mark for the type. -/
def document : Document where
  definitions := [.operation ⟨.query, none, [], [], [.relation head selections]⟩, .fragment shared]

theorem identifier_own : (Mark.identifier, .string "1") ∈ head.ownMarks none :=
  .tail _ (.tail _ (.tail _ (.head _)))

theorem type_own : (Mark.typeName, .string "country") ∈ head.ownMarks none := by
  have lower : Text.lowercase head.name = "country" := by decide
  rw [FieldHead.ownMarks, lower]
  exact .head _

end Renamed

open Renamed in
/-- The fragment leaves the identifier as it is. -/
theorem Document.marks_kept_country :
    (document.compile none).obstacle = none ∧
      ∃ node, (document.expanded none).at? ["country"] = some node ∧
        OrderedMap.get? node Mark.identifier = some (.literal (.string "1")) := by
  have clear : (document.compile none).obstacle = none := by decide
  obtain ⟨written, node, _, found, kept, _⟩ :=
    (marks_kept_iff clear).1 ["country"] head selections rfl
  refine ⟨clear, node, found, ((kept _ _ identifier_own).2).mpr ⟨by decide, .inr (.inr ?_)⟩⟩
  rintro ⟨name, other, _, defined, inside⟩
  have member : other ∈ [shared] := (named_of_fragment? defined).1
  rw [List.mem_singleton.mp member] at inside
  exact absurd inside (by decide)

open Renamed in
/-- The type is replaced. -/
theorem Document.type_overwritten_country :
    (document.compile none).isCacheable = true ∧
      Selection.fieldAt? document.rootSelections ["country"] = some (head, selections) ∧
      (Mark.typeName, .string "country") ∈ head.ownMarks none ∧
      ∃ node, (document.expanded none).at? ["country"] = some node ∧
        OrderedMap.get? node Mark.typeName ≠ some (.literal (.string "country")) := by
  have clear : (document.compile none).obstacle = none := by decide
  have spreads : (head.node none selections).Spreads (document.translatedFragments none) "F" :=
    ⟨(FieldHead.requested_iff (by decide)).mpr (by decide), by decide, by decide⟩
  have overwritten : document.Overwrites none head selections Mark.typeName :=
    ⟨"F", shared, .spread spreads, rfl, by decide⟩
  refine ⟨by decide, rfl, type_own, _, expanded_at? clear rfl, ?_⟩
  intro kept
  obtain object | absent := ((get?_expand_ownMark_iff type_own).mp kept).2
  · cases object
  · exact absent overwritten

end GraphCache
