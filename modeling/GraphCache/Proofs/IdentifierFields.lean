import GraphCache.Proofs.ExpandedNodes
import GraphCache.Proofs.WidenedEligibility

/-! Whether the identifier of a selection set is an identifier. A document compiles if each
selection set offers some identifier name, and what is offered are the response keys of leaves and
the names of spreads. So two things can stand in for an identifier: another leaf that is renamed
to it, and a fragment that has its name. A selection set in which neither occurs requests a true
identifier field. All selection sets of a document do exactly if it still compiles once everything
that stands in is taken out. -/
namespace GraphCache

namespace Selection
variable {custom : Option String}

/-- A leaf that requests an identifier field under its own name. -/
inductive Identifies (custom : Option String) : Selection → Prop where
  | leaf {head : FieldHead} (own : head.name = head.responseKey)
      (named : head.name ∈ identifierNames custom) : Identifies custom (.leaf head)

/-- What is offered under an identifier name without being that field: another leaf that is renamed
to it, or a fragment of the name. -/
inductive StandsIn (custom : Option String) : Selection → Prop where
  | leaf {head : FieldHead} (renamed : head.name ≠ head.responseKey)
      (named : head.responseKey ∈ identifierNames custom) : StandsIn custom (.leaf head)
  | spread {fragment : String} {directives : List Directive}
      (named : fragment ∈ identifierNames custom) : StandsIn custom (.spread fragment directives)

/-- Whether a selection stands in for an identifier. -/
def standsIn (custom : Option String) : Selection → Bool
  | .leaf head => head.name ≠ head.responseKey ∧ head.responseKey ∈ identifierNames custom
  | .spread fragment _ => fragment ∈ identifierNames custom
  | .relation .. => false
  | .inlineFragment .. => false

theorem standsIn_iff {selection : Selection} :
    selection.standsIn custom = true ↔ selection.StandsIn custom := by
  constructor
  · intro stands
    cases selection with
    | leaf head =>
      obtain ⟨renamed, named⟩ := of_decide_eq_true stands
      exact .leaf renamed named
    | spread fragment directives => exact .spread (of_decide_eq_true stands)
    | relation head selections => cases stands
    | inlineFragment condition directives selections => cases stands
  · intro stands
    cases stands with
    | leaf renamed named => exact decide_eq_true ⟨renamed, named⟩
    | spread named => exact decide_eq_true named

instance (selection : Selection) : Decidable (selection.StandsIn custom) :=
  decidable_of_iff _ standsIn_iff

/-- What a selection set offers under an identifier name is that field or stands in for it. -/
theorem identifies_or_standsIn {selections : List Selection} {name : String}
    (offers : name ∈ offered selections) (named : name ∈ identifierNames custom) :
    ∃ selection ∈ selections, selection.Identifies custom ∨ selection.StandsIn custom := by
  obtain leaf | ⟨directives, spread⟩ := mem_offered.mp offers
  · obtain ⟨selection, member, picked⟩ := List.mem_filterMap.mp leaf
    cases selection <;> cases picked
    rename_i head
    by_cases own : head.name = head.responseKey
    · exact ⟨_, member, .inl (.leaf own (own ▸ named))⟩
    · exact ⟨_, member, .inr (.leaf own named)⟩
  · exact ⟨_, spread, .inr (.spread named)⟩

/-- An identifier field does not stand in, and is offered under its name. -/
theorem Identifies.offered {selections : List Selection} {selection : Selection}
    (identifies : selection.Identifies custom) (member : selection ∈ selections) :
    ¬selection.StandsIn custom ∧ ∃ name ∈ identifierNames custom, name ∈ offered selections := by
  cases identifies with
  | @leaf head own named =>
    constructor
    · intro stands
      cases stands with
      | leaf renamed _ => exact renamed own
    · exact ⟨_, named, mem_offered.mpr (.inl (List.mem_filterMap.mpr ⟨_, member, by simp [own]⟩))⟩

/-! ## Taking out what stands in -/

mutual

/-- A selection below which nothing stands in for an identifier. -/
def withoutStandIns (custom : Option String) : Selection → Selection
  | .relation head selections => .relation head (allWithoutStandIns custom selections)
  | .leaf head => .leaf head
  | .spread fragment directives => .spread fragment directives
  | .inlineFragment condition directives selections =>
    .inlineFragment condition directives selections

def allWithoutStandIns (custom : Option String) : List Selection → List Selection
  | [] => []
  | selection :: rest =>
    if selection.StandsIn custom then allWithoutStandIns custom rest
    else selection.withoutStandIns custom :: allWithoutStandIns custom rest

end

theorem mem_allWithoutStandIns {selections : List Selection} {selection : Selection} :
    selection ∈ allWithoutStandIns custom selections ↔
      ∃ own ∈ selections, ¬own.StandsIn custom ∧ own.withoutStandIns custom = selection := by
  induction selections with
  | nil => simp [allWithoutStandIns]
  | cons first rest ih =>
    by_cases stands : first.StandsIn custom <;>
      simp [allWithoutStandIns, stands, ih, eq_comm]

/-- Only what stands below a selection is taken out of it, which makes it no other. -/
theorem identifies_withoutStandIns {selection : Selection} :
    ((selection.withoutStandIns custom).Identifies custom ↔ selection.Identifies custom) ∧
      ((selection.withoutStandIns custom).StandsIn custom ↔ selection.StandsIn custom) := by
  cases selection with
  | leaf head => exact ⟨Iff.rfl, Iff.rfl⟩
  | spread fragment directives => exact ⟨Iff.rfl, Iff.rfl⟩
  | inlineFragment condition directives below => exact ⟨Iff.rfl, Iff.rfl⟩
  | relation head below =>
    constructor <;> constructor <;> intro impossible <;> cases impossible

/-- A relation that is left is one that was selected. -/
private theorem relation_left {head : FieldHead} {inner : List Selection} {own : Selection}
    (left : own.withoutStandIns custom = .relation head inner) :
    ∃ below, own = .relation head below ∧ inner = allWithoutStandIns custom below := by
  cases own with
  | relation own below =>
    cases left
    exact ⟨below, rfl, rfl⟩
  | _ => cases left

/-- What is left at any depth was selected, and did not stand in. -/
theorem Within.of_left {selection : Selection} {left : List Selection}
    (within : selection.Within left) {selections : List Selection}
    (same : left = allWithoutStandIns custom selections) :
    ∃ own : Selection, own.Within selections ∧ own.withoutStandIns custom = selection := by
  induction within generalizing selections with
  | here member =>
    rw [same] at member
    obtain ⟨own, inside, _, kept⟩ := mem_allWithoutStandIns.mp member
    exact ⟨own, .here inside, kept⟩
  | inside member _ ih =>
    rw [same] at member
    obtain ⟨own, inside, _, kept⟩ := mem_allWithoutStandIns.mp member
    obtain ⟨below, rfl, inner⟩ := relation_left kept
    obtain ⟨deep, within, kept⟩ := ih inner
    exact ⟨deep, .inside inside within, kept⟩

/-- Every relation is left. -/
theorem Within.left {head : FieldHead} {inner selections : List Selection}
    (within : (Selection.relation head inner).Within selections) :
    (Selection.relation head (allWithoutStandIns custom inner)).Within
      (allWithoutStandIns custom selections) := by
  have kept {head : FieldHead} {inner selections : List Selection}
      (member : .relation head inner ∈ selections) :
      .relation head (allWithoutStandIns custom inner) ∈ allWithoutStandIns custom selections :=
    mem_allWithoutStandIns.mpr ⟨_, member, by rintro ⟨⟩, rfl⟩
  induction within with
  | here member => exact .here (kept member)
  | inside member _ ih => exact .inside (kept member) ih

end Selection

/-- A definition in which nothing stands in for an identifier. -/
def Definition.withoutStandIns (custom : Option String) : Definition → Definition
  | .operation asked => .operation { asked with
      selections := Selection.allWithoutStandIns custom asked.selections }
  | .fragment shared => .fragment { shared with
      selections := Selection.allWithoutStandIns custom shared.selections }
  | .typeSystem directives => .typeSystem directives

namespace Document
variable {document : Document} {custom : Option String}

/-- The document without anything that stands in for an identifier. -/
def withoutStandIns (document : Document) (custom : Option String) : Document where
  definitions := document.definitions.map (Definition.withoutStandIns custom)

/-- Every selection set of a field has an identifier field directly in it. -/
def Addressed (document : Document) (custom : Option String) : Prop :=
  ∀ head selections, document.Relates head selections →
    ∃ selection ∈ selections, selection.Identifies custom

theorem relates_withoutStandIns {head : FieldHead} {selections : List Selection}
    (relates : document.Relates head selections) :
    (document.withoutStandIns custom).Relates head
      (Selection.allWithoutStandIns custom selections) := by
  obtain ⟨definition, member, within⟩ := relates
  refine ⟨_, List.mem_map_of_mem member, ?_⟩
  cases definition with
  | operation asked => exact within.left
  | fragment shared => exact within.left
  | typeSystem lists => obtain ⟨member⟩ | ⟨member⟩ := within <;> cases member

/-- Whatever is in the way of a relation is in the way of the document. -/
theorem Relates.blocks {head : FieldHead} {selections : List Selection} {reason : Reason}
    (relates : document.Relates head selections)
    (blocks : (Selection.relation head selections).Blocks custom reason) :
    document.Blocks custom reason := by
  obtain ⟨definition, member, within⟩ := relates
  refine ⟨definition, member, ?_⟩
  cases definition with
  | operation asked => exact .requested within blocks
  | fragment shared => exact .shared within blocks
  | typeSystem lists => obtain ⟨member⟩ | ⟨member⟩ := within <;> cases member

/-- A selection set of a document that compiles offers an identifier name. -/
theorem Relates.offers (clear : (document.compile custom).obstacle = none) {head : FieldHead}
    {selections : List Selection} (relates : document.Relates head selections) :
    ∃ name ∈ identifierNames custom, name ∈ Selection.offered selections := by
  by_contra none
  exact obstacle_eq_none_iff.mp clear _ (relates.blocks (.missingIdentifier fun name named offers =>
    none ⟨name, named, offers⟩))

/-- Without stand-ins only a missing identifier can be new in the way. -/
private theorem blocks_of_left {reason : Reason}
    (blocks : (document.withoutStandIns custom).Blocks custom reason) :
    document.Blocks custom reason ∨ ∃ head selections, document.Relates head selections ∧
      ∀ name ∈ identifierNames custom,
        name ∉ Selection.offered (Selection.allWithoutStandIns custom selections) := by
  obtain ⟨_, left, blocks⟩ := blocks
  obtain ⟨definition, member, rfl⟩ := List.mem_map.mp left
  -- what blocks a selection that is left blocks what it was, or is a set without names
  have selected {selection : Selection} {selections : List Selection}
      (within : selection.Within (Selection.allWithoutStandIns custom selections))
      (blocks : selection.Blocks custom reason) :
      (∃ own : Selection, own.Within selections ∧ own.Blocks custom reason) ∨
        ∃ head inner, (Selection.relation head inner).Within selections ∧
          ∀ name ∈ identifierNames custom,
            name ∉ Selection.offered (Selection.allWithoutStandIns custom inner) := by
    obtain ⟨own, inside, rfl⟩ := within.of_left rfl
    cases own with
    | leaf head => exact .inl ⟨_, inside, blocks⟩
    | spread fragment directives => exact .inl ⟨_, inside, blocks⟩
    | inlineFragment condition directives below => exact .inl ⟨_, inside, blocks⟩
    | relation head inner =>
      cases blocks with
      | relation own => exact .inl ⟨_, inside, .relation own⟩
      | missingIdentifier missing => exact .inr ⟨head, inner, inside, missing⟩
  cases definition with
  | operation asked =>
    cases blocks with
    | operation given => exact .inl ⟨_, member, .operation given⟩
    | subscription kind => exact .inl ⟨_, member, .subscription kind⟩
    | parameter inside given => exact .inl ⟨_, member, .parameter inside given⟩
    | requested within blocks =>
      obtain ⟨own, within, blocks⟩ | ⟨head, inner, within, missing⟩ := selected within blocks
      · exact .inl ⟨_, member, .requested within blocks⟩
      · exact .inr ⟨head, inner, ⟨_, member, within⟩, missing⟩
  | fragment shared =>
    cases blocks with
    | fragment given => exact .inl ⟨_, member, .fragment given⟩
    | shared within blocks =>
      obtain ⟨own, within, blocks⟩ | ⟨head, inner, within, missing⟩ := selected within blocks
      · exact .inl ⟨_, member, .shared within blocks⟩
      · exact .inr ⟨head, inner, ⟨_, member, within⟩, missing⟩
  | typeSystem lists =>
    cases blocks with
    | typeSystem inside given => exact .inl ⟨_, member, .typeSystem inside given⟩

/-- In a document that compiles, every selection set of a field has an identifier field directly in
it or something that stands in for one. All of them have the field exactly if the document still
compiles without anything that stands in. -/
theorem addressed_iff_compiles_left (clear : (document.compile custom).obstacle = none) :
    (∀ head selections, document.Relates head selections →
      ∃ selection ∈ selections, selection.Identifies custom ∨ selection.StandsIn custom) ∧
    (document.Addressed custom ↔
      ((document.withoutStandIns custom).compile custom).obstacle = none) := by
  refine ⟨fun head selections relates => ?_, fun addressed => ?_,
    fun left head selections relates => ?_⟩
  · obtain ⟨name, named, offers⟩ := relates.offers clear
    exact Selection.identifies_or_standsIn offers named
  · refine obstacle_eq_none_iff.mpr fun reason blocks => ?_
    obtain own | ⟨head, selections, relates, missing⟩ := blocks_of_left blocks
    · exact obstacle_eq_none_iff.mp clear reason own
    · obtain ⟨selection, member, identifies⟩ := addressed head selections relates
      have kept := Selection.mem_allWithoutStandIns.mpr
        ⟨selection, member, (identifies.offered member).1, rfl⟩
      obtain ⟨_, name, named, offers⟩ :=
        (Selection.identifies_withoutStandIns.1.mpr identifies).offered kept
      exact missing name named offers
  · obtain ⟨name, named, offers⟩ := (relates_withoutStandIns relates).offers left
    obtain ⟨_, inside, found⟩ := Selection.identifies_or_standsIn offers named
    obtain ⟨own, member, genuine, rfl⟩ := Selection.mem_allWithoutStandIns.mp inside
    have same := @Selection.identifies_withoutStandIns custom own
    exact ⟨own, member, same.1.mp (found.resolve_right (mt same.2.mp genuine))⟩

end Document

namespace Addresses

def head : FieldHead := ⟨none, "countries", [], []⟩

/-- Countries with their identifiers and their cities. -/
def addressed : Document where
  definitions := [.operation ⟨.query, none, [], [],
    [.relation head
      [.leaf ⟨none, "id", [], []⟩, .relation ⟨none, "cities", [], []⟩ [.leaf ⟨none, "_id", [], []⟩]]]⟩]

/-- Countries whose names are renamed to be their identifiers. -/
def renamed : Document where
  definitions := [.operation ⟨.query, none, [], [],
    [.relation head [.leaf ⟨some "id", "name", [], []⟩]]⟩]

end Addresses

open Addresses in
theorem Document.addressed_countries :
    (addressed.compile none).obstacle = none ∧ addressed.Addressed none := by
  have clear : (addressed.compile none).obstacle = none := by decide
  exact ⟨clear, (addressed_iff_compiles_left clear).2.mpr (by decide)⟩

open Addresses in
/-- The name stands in for an identifier. -/
theorem Document.renamed_not_addressed :
    (renamed.compile none).isCacheable = true ∧
      ∃ selections, renamed.Relates head selections ∧
        ∀ selection ∈ selections, ¬selection.Identifies none := by
  refine ⟨by decide, _, ⟨_, List.mem_singleton_self _, .here (List.mem_singleton_self _)⟩, ?_⟩
  intro selection member identifies
  rw [List.mem_singleton.mp member] at identifies
  cases identifies with
  | leaf own named => exact absurd own (by decide)

end GraphCache
