import GraphCache.Proofs.Provenance

/-! What an identifier name adds to the conventional ones. It is used when a document is
compiled and when the items of an answer are paired with cached ones. A document that does not
use it is compiled as without it, and items are paired as without it if it gives every object
the same identifier as the conventional names do, but for a renaming. -/
namespace GraphCache

/-! ## Objects under two names -/

/-- In every object of a value a further name gives the same identifier as the conventional
names do, but for a renaming of all identifiers. -/
def Json.IdentifiesAlike (name : String) (rename : String → String) (value : Json) : Prop :=
  ∀ path fields, value.Reaches path (.object fields) →
    entityIdOf fields (some name) = (entityIdOf fields none).map rename

/-- A renaming that keeps identifiers apart, and those that say nothing as they are. -/
structure KeepsApart (rename : String → String) : Prop where
  injective : Function.Injective rename
  nothing : rename "" = ""

section Pairing
variable {name : String} {rename : String → String}

theorem KeepsApart.id : KeepsApart id := ⟨Function.injective_id, rfl⟩

theorem KeepsApart.eq_empty_iff (apart : KeepsApart rename) {identifier : String} :
    rename identifier = "" ↔ identifier = "" := by
  constructor
  · intro nothing
    exact apart.injective (nothing.trans apart.nothing.symm)
  · rintro rfl
    exact apart.nothing

namespace Json

theorem IdentifiesAlike.reached {value inner : Json} (alike : value.IdentifiesAlike name rename)
    {path : List String} (reaches : value.Reaches path inner) :
    inner.IdentifiesAlike name rename :=
  fun rest fields below => alike (path ++ rest) fields (reaches.trans below)

theorem IdentifiesAlike.own {fields : OrderedMap String Json}
    (alike : (Json.object fields).IdentifiesAlike name rename) :
    entityIdOf fields (some name) = (entityIdOf fields none).map rename :=
  alike [] fields (.here _)

theorem IdentifiesAlike.field {fields : OrderedMap String Json} {key : String} {inner : Json}
    (alike : (Json.object fields).IdentifiesAlike name rename)
    (found : OrderedMap.get? fields key = some inner) : inner.IdentifiesAlike name rename :=
  alike.reached (.field found (.here _))

theorem IdentifiesAlike.item {items : List Json} {inner : Json}
    (alike : (Json.array items).IdentifiesAlike name rename) (member : inner ∈ items) :
    inner.IdentifiesAlike name rename :=
  alike.reached (.item member (.here _))

end Json

/-- Renamed keys find what the keys found. -/
private theorem get?_renamed (injective : Function.Injective rename)
    (entries : OrderedMap String Json) (key : String) :
    OrderedMap.get? (entries.map fun entry => (rename entry.1, entry.2)) (rename key) =
      OrderedMap.get? entries key := by
  induction entries with
  | nil => rfl
  | cons entry rest ih =>
    rw [List.map_cons, OrderedMap.get?, OrderedMap.get?, ih]
    simp only [injective.eq_iff]

/-- Items are found by the renamed identifiers as they are by the others. -/
private theorem get?_renamedItems (apart : KeepsApart rename) {items : List Json}
    (alike : ∀ item ∈ items, item.IdentifiesAlike name rename) (identifier : String) :
    OrderedMap.get? (identifiedItems (some name) items) (rename identifier) =
      OrderedMap.get? (identifiedItems none items) identifier := by
  have renamed : (items.filterMap fun item => do
        let fields ← item.fields?
        let identifier ← entityIdOf fields (some name)
        if identifier.isEmpty then none else some (identifier, item)) =
      (items.filterMap fun item => do
        let fields ← item.fields?
        let identifier ← entityIdOf fields none
        if identifier.isEmpty then none else some (identifier, item)).map
          fun entry => (rename entry.1, entry.2) := by
    rw [List.map_filterMap]
    refine List.filterMap_congr fun item member => ?_
    cases item with
    | object fields =>
      have own := (alike _ member).own
      cases found : entityIdOf fields none with
      | none =>
        rw [found] at own
        simp [Json.fields?, own, found]
      | some identifier =>
        rw [found, Option.map_some] at own
        by_cases empty : identifier = "" <;>
          simp [Json.fields?, own, found, apart.eq_empty_iff, empty]
    | _ => rfl
  simp only [identifiedItems, OrderedMap.get?_ofList]
  rw [renamed, ← List.map_reverse, get?_renamed apart.injective]

/-- An item is paired with the same cached one. -/
private theorem pairedItem?_eq (apart : KeepsApart rename) {cached : List Json}
    (alike : ∀ item ∈ cached, item.IdentifiesAlike name rename) {fields : OrderedMap String Json}
    (own : (Json.object fields).IdentifiesAlike name rename) :
    pairedItem? none (identifiedItems none cached) fields =
      pairedItem? (some name) (identifiedItems (some name) cached) fields := by
  simp only [pairedItem?]
  rw [own.own]
  cases entityIdOf fields none with
  | none => rfl
  | some identifier =>
    rw [Option.map_some, Option.bind_some, Option.bind_some, get?_renamedItems apart alike]

/-! ## Merging under two names -/

/-- Ways to merge two objects that cannot be told apart on alike sides. -/
private def MergesAlike (name : String) (rename : String → String)
    (merge other : Option Json → Option Json → Json) : Prop :=
  ∀ fresh cached : Option Json, (∀ value ∈ fresh, value.IdentifiesAlike name rename) →
    (∀ value ∈ cached, value.IdentifiesAlike name rename) → merge fresh cached = other fresh cached

private theorem mergeRelation_eq (apart : KeepsApart rename)
    {merge other : Option Json → Option Json → Json} (same : MergesAlike name rename merge other)
    {fresh cached : Option Json} (new : ∀ value ∈ fresh, value.IdentifiesAlike name rename)
    (old : ∀ value ∈ cached, value.IdentifiesAlike name rename) :
    mergeRelation none merge fresh cached = mergeRelation (some name) other fresh cached := by
  have one {value : Json} (alike : value.IdentifiesAlike name rename) :
      ∀ inner ∈ some value, inner.IdentifiesAlike name rename := by
    intro inner found
    obtain rfl := Option.mem_some_iff.mp found
    exact alike
  cases fresh with
  | none =>
    cases cached with
    | none => rfl
    | some value =>
      have alike := old value rfl
      cases value with
      | null => rfl
      | array items =>
        simp only [mergeRelation, mergeItems]
        rw [List.map_congr_left fun item member => same none (some item) (by simp) (one (alike.item member))]
      | _ => exact same none _ (by simp) old
  | some value =>
    have alike := new value rfl
    cases value with
    | null => rfl
    | array items =>
      have listed : ∀ item ∈ listItems cached, item.IdentifiesAlike name rename := by
        intro item member
        cases cached with
        | none => cases member
        | some value =>
          cases value with
          | array items => exact (old _ rfl).item member
          | _ => cases member
      simp only [mergeRelation, mergeItems]
      rw [List.map_congr_left fun item member => ?_]
      have own := alike.item member
      cases item with
      | object fields =>
        simp only
        rw [← pairedItem?_eq apart listed own]
        refine same _ _ (one own) fun partner found => listed partner (Node.mem_of_paired found)
      | _ => rfl
    | _ => exact same _ _ new old

mutual

private theorem Entry.merge_eq (apart : KeepsApart rename) (entry : Entry)
    {fresh cached : Option Json} (new : ∀ value ∈ fresh, value.IdentifiesAlike name rename)
    (old : ∀ value ∈ cached, value.IdentifiesAlike name rename) :
    entry.merge none fresh cached = entry.merge (some name) fresh cached := by
  match entry with
  | .requested => rfl
  | .literal _ => rfl
  | .relation entries =>
    rw [Entry.merge, Entry.merge]
    refine mergeRelation_eq apart (fun fresh cached new old => ?_) new old
    rw [Entry.mergeFields_eq apart entries new old]

private theorem Entry.mergeFields_eq (apart : KeepsApart rename) (entries : List (String × Entry))
    {fresh cached : Option Json} (new : ∀ value ∈ fresh, value.IdentifiesAlike name rename)
    (old : ∀ value ∈ cached, value.IdentifiesAlike name rename) :
    Entry.mergeFields none (objectFields fresh) (objectFields cached) entries =
      Entry.mergeFields (some name) (objectFields fresh) (objectFields cached) entries := by
  match entries with
  | [] => rfl
  | (key, entry) :: rest =>
    have inside {side : Option Json} (alike : ∀ value ∈ side, value.IdentifiesAlike name rename) :
        ∀ value ∈ OrderedMap.get? (objectFields side) key, value.IdentifiesAlike name rename := by
      intro value found
      obtain ⟨own, same, reaches⟩ := Json.reaches_objectFields (List.cons_ne_nil key [])
        (.field found (.here _))
      exact (alike own same).reached reaches
    simp only [Entry.mergeFields]
    rw [Entry.mergeFields_eq apart rest new old, Entry.merge_eq apart entry (inside new) (inside old)]

end

/-- The cached value of a root is made of its records. -/
private theorem alike_cachedRoot {τ : Type} {records : List (Record τ)}
    (alike : ∀ record ∈ records, (Json.object record.data).IdentifiesAlike name rename)
    (node : Node) : ∀ value ∈ cachedRoot node records, value.IdentifiesAlike name rename := by
  intro value found
  cases records with
  | nil => cases found
  | cons first rest =>
    rw [cachedRoot] at found
    split at found
    · cases Option.mem_some_iff.mp found
      intro path fields reaches
      cases reaches with
      | item member below =>
        obtain ⟨record, inside, rfl⟩ := List.mem_map.mp member
        exact alike record inside _ _ below
    · cases Option.mem_some_iff.mp found
      exact alike first List.mem_cons_self

/-- An answer is completed to the same result. -/
theorem Client.complete_named {τ : Type} (apart : KeepsApart rename) (prototype : Prototype)
    {cached : OrderedMap String (List (Record τ))} {answer : Answer}
    (new : (dataOf answer).IdentifiesAlike name rename)
    (old : ∀ root, ∀ record ∈ (OrderedMap.get? cached root).getD [],
      (Json.object record.data).IdentifiesAlike name rename) :
    complete prototype none cached answer = complete prototype (some name) cached answer := by
  rw [complete, complete]
  split
  · rfl
  · -- Left to itself the kernel compares the two ways to go on, although none is taken.
    cases read : dataFields (dataOf answer) with
    | error fault => simp only [bind, Except.bind]
    | ok fresh =>
      have fields : ∀ root, ∀ value ∈ OrderedMap.get? fresh root,
          value.IdentifiesAlike name rename := by
        intro root value found
        rw [← objectFields_of_dataFields read] at found
        obtain ⟨own, same, reaches⟩ := Json.reaches_objectFields (List.cons_ne_nil root [])
          (.field found (.here _))
        cases same
        exact new.reached reaches
      have roots (entry : String × Node) :
          entry.2.merge none (OrderedMap.get? fresh entry.1)
              (cachedRoot entry.2 ((OrderedMap.get? cached entry.1).getD [])) =
            entry.2.merge (some name) (OrderedMap.get? fresh entry.1)
              (cachedRoot entry.2 ((OrderedMap.get? cached entry.1).getD [])) := by
        have merged := Entry.merge_eq apart (.relation entry.2) (fields entry.1)
          (alike_cachedRoot (old entry.1) entry.2)
        rw [Entry.merge, Entry.merge] at merged
        exact merged
      simp only [bind, Except.bind, Prototype.merge, roots]

end Pairing

/-! ## Documents under two names -/

/-- Compilations that take the same way, with the same roots where it leads through the cache. -/
inductive Compilation.Alike (one two : Compilation) : Prop where
  | query (way : one.route = .query) (other : two.route = .query)
      (same : Prototype.expand one.prototype one.fragments =
        Prototype.expand two.prototype two.fragments)
  | mutation (way : one.route = .mutation) (other : two.route = .mutation)
      (same : one.prototype = two.prototype)
  | pass {reason cause : Option String} (way : one.route = .pass reason)
      (other : two.route = .pass cause)

theorem Compilation.Alike.refl (compiled : Compilation) : compiled.Alike compiled := by
  cases way : compiled.route with
  | query => exact .query way way rfl
  | mutation => exact .mutation way way rfl
  | pass reason => exact .pass way way

/-- Visits at which a further identifier name changes nothing: no argument has it, and it makes
no selection set addressable. -/
def Visit.Ignores (name : String) : Visit → Prop
  | .field head => ∀ argument ∈ head.arguments, argument.name ≠ name
  | .selectionSet offered => name ∈ offered → hasIdentifier offered none = true
  | _ => True

/-- The first step at which two names could differ is a field or a selection set. -/
private theorem Walk.step_congr {custom other : Option String} {visit : Visit}
    (fields : ∀ head, visit = .field head → head.marks custom = head.marks other)
    (sets : ∀ offered, visit = .selectionSet offered →
      hasIdentifier offered custom = hasIdentifier offered other) (walk : Walk) :
    walk.step custom visit = walk.step other visit := by
  cases visit with
  | field head => simp only [Walk.step, fields head rfl]
  | selectionSet offered => simp only [Walk.step, sets offered rfl]
  | _ => rfl

private theorem FieldHead.marks_congr {head : FieldHead} {custom other : Option String}
    (same : ∀ arguments : OrderedMap String Json,
      (∀ key ∈ OrderedMap.keys arguments, ∃ argument ∈ head.arguments, argument.name = key) →
      firstIdentifier? arguments custom = firstIdentifier? arguments other) :
    head.marks custom = head.marks other := by
  simp only [FieldHead.marks]
  rw [same]
  intro key member
  rw [OrderedMap.ofList, OrderedMap.mem_keys_overlay] at member
  simp only [OrderedMap.keys, List.map_nil, List.not_mem_nil, false_or, List.mem_map,
    List.mem_filter] at member
  obtain ⟨_, ⟨⟨argument, inside, rfl⟩, _⟩, rfl⟩ := member
  exact ⟨argument, inside, rfl⟩

namespace Document

/-- A document is compiled alike where no visit tells the names apart. -/
private theorem compile_congr {document : Document} {custom other : Option String}
    (same : ∀ visit ∈ document.visits, ∀ walk : Walk, walk.step custom visit = walk.step other visit) :
    document.compile custom = document.compile other := by
  have run (visits : List Visit) (each : ∀ visit ∈ visits, ∀ walk : Walk,
      walk.step custom visit = walk.step other visit) (walk : Walk) :
      walk.run custom visits = walk.run other visits := by
    induction visits generalizing walk with
    | nil => rfl
    | cons visit rest ih =>
      rw [Walk.run, Walk.run, each visit List.mem_cons_self]
      cases walk.step other visit with
      | error obstacle => rfl
      | ok next => exact ih (fun visit member => each visit (List.mem_cons_of_mem _ member)) next
  rw [compile, compile, run _ same]

/-- A document that does not use a name is compiled as without it. -/
theorem compile_named {document : Document} {name : String}
    (ignores : ∀ visit ∈ document.visits, visit.Ignores name) :
    document.compile none = document.compile (some name) := by
  refine compile_congr fun visit member => Walk.step_congr ?_ ?_
  · rintro head rfl
    refine FieldHead.marks_congr fun arguments given => ?_
    have absent : OrderedMap.get? arguments name = none := by
      rw [OrderedMap.get?_eq_none_iff]
      intro inside
      obtain ⟨argument, written, same⟩ := given name inside
      exact ignores _ member argument written same
    rw [firstIdentifier?, firstIdentifier?, identifierNames, identifierNames]
    split
    · rfl
    · rw [List.findSome?_cons, absent]
  · rintro offered rfl
    have enough : name ∈ offered → hasIdentifier offered none = true := ignores _ member
    simp only [hasIdentifier, identifierNames] at enough ⊢
    split
    · rfl
    · rw [List.any_cons]
      by_cases inside : name ∈ offered
      · simp [enough inside]
      · simp [inside]

end Document

/-- The names that add nothing to the conventional ones: none at all, and the first of them. -/
def AddsNothing (name : String) : Prop := name = "" ∨ name = "id"

namespace AddsNothing
variable {name : String}

/-- The names are the conventional ones, or the first of these comes twice. -/
private theorem names_eq (adds : AddsNothing name) :
    identifierNames (some name) = identifierNames none ∨
      ∃ first rest, identifierNames none = first :: rest ∧
        identifierNames (some name) = first :: first :: rest := by
  rcases adds with rfl | rfl
  · exact .inl rfl
  · exact .inr ⟨"id", ["_id", "ID", "Id"], rfl, by decide⟩

private theorem findSome?_eq (adds : AddsNothing name) {α : Type} (pick : String → Option α) :
    (identifierNames none).findSome? pick = (identifierNames (some name)).findSome? pick := by
  rcases adds.names_eq with same | ⟨first, rest, plain, twice⟩
  · rw [same]
  · rw [plain, twice]
    simp only [List.findSome?_cons]
    cases pick first <;> rfl

theorem compile_eq (adds : AddsNothing name) (document : Document) :
    document.compile none = document.compile (some name) := by
  refine Document.compile_congr fun visit _ => Walk.step_congr ?_ ?_
  · rintro head rfl
    exact FieldHead.marks_congr fun arguments _ => adds.findSome?_eq _
  · rintro offered rfl
    rw [hasIdentifier, hasIdentifier]
    rcases adds.names_eq with same | ⟨first, rest, plain, twice⟩
    · rw [same]
    · rw [plain, twice]
      simp only [List.any_cons, ← Bool.or_assoc, Bool.or_self]

theorem identifiesAlike (adds : AddsNothing name) (value : Json) :
    value.IdentifiesAlike name id := by
  intro path fields _
  rw [Option.map_id, id_eq]
  exact (adds.findSome?_eq _).symm

end AddsNothing

end GraphCache
