import GraphCache.Proofs.FieldNames
import GraphCache.Proofs.KeptMarks
import GraphCache.Proofs.ObjectPlaces
import GraphCache.Proofs.RenamedEntities
import GraphCache.Proofs.RequestKeys
import GraphCache.Proofs.UnfileableData

/-! Keys of entities. The type in a key ends at the first hyphen, whatever the identifier behind
it looks like, if types have no hyphens themselves. The types of fields have none: they are names
in lower case. So in the batch of an answer that is filed without maps each record is that of one
type and one identifier, and it has what objects of this type with this identifier carry, and
nothing else. -/
namespace GraphCache

/-! ## Keys -/

/-- A type without hyphens ends at the first hyphen of a key. -/
theorem entityKey_eq_iff {type other identifier identifier' : String} (one : '-' ∉ type.toList)
    (two : '-' ∉ other.toList) :
    entityKey type identifier = entityKey other identifier' ↔
      Text.lowercase type = Text.lowercase other ∧ identifier = identifier' := by
  have plain {type : String} (free : '-' ∉ type.toList) :
      ∀ c ∈ (Text.lowercase type).toList, c ≠ '-' := by
    rintro c member rfl
    exact free (Text.mem_of_mem_lowercase (by decide) member)
  have begins (text : List Char) :
      ∀ c more, '-' :: '-' :: text = c :: more → ¬c ≠ '-' := by
    rintro c more same
    cases same
    simp
  constructor
  · intro same
    have texts := congrArg String.toList same
    simp only [entityKey, String.toList_append, List.append_assoc] at texts
    obtain ⟨types, rest⟩ := append_split (plain one) (plain two) (begins _) (begins _) texts
    exact ⟨String.toList_inj.mp types, String.toList_inj.mp (by simpa using rest)⟩
  · rintro ⟨types, rfl⟩
    rw [entityKey, entityKey, types]

theorem FieldHead.Named.free {head : FieldHead} (named : head.Named) : '-' ∉ head.name.toList :=
  fun member => absurd (named.1 '-' member) (by decide)

/-- The type of a field is a name in lower case, which has no hyphen and is not empty. -/
theorem FieldHead.Named.type_free {head : FieldHead} (named : head.Named) :
    '-' ∉ (Text.lowercase head.name).toList :=
  fun member => named.free (Text.mem_of_mem_lowercase (by decide) member)

/-! ## Types -/

namespace Document
variable {document : Document} {custom : Option String} {head : FieldHead}
  {selections : List Selection} {node : Node}

/-- What stands for the type of a node that has become of a relation: the name of the field in lower
case, or something else in its place, which is no text and not empty. -/
private theorem Stands.typing (stands : document.Stands custom head selections node)
    {entry : Entry} (member : (Mark.typeName, entry) ∈ node) :
    entry.toJson = .string (Text.lowercase head.name) ∨
      entry.toJson.isTruthy = true ∧ ∀ name, entry.toJson ≠ .string name := by
  have own (inside : (Mark.typeName, entry) ∈ head.node custom selections) :
      entry.toJson = .string (Text.lowercase head.name) ∨
        entry.toJson.isTruthy = true ∧ ∀ name, entry.toJson ≠ .string name := by
    obtain rfl | ⟨field, rfl⟩ := FieldHead.mem_node_typeName custom inside
    · exact .inl rfl
    · exact .inr ((field.1.typing_relation custom field.2).resolve_left nofun)
  obtain rfl | ⟨depth, opened, rfl⟩ := stands
  · exact own member
  · obtain inside | ⟨name, fragment, found, part⟩ := Node.mem_expand_of_reserved rfl member
    · exact own inside
    · obtain ⟨shared, _, rfl⟩ := get?_translatedFragments_iff.mp found
      refine .inr ((shared.typing_node custom part).resolve_left ?_)
      rintro ⟨text, written, _⟩
      cases entry with
      | requested => cases written
      | relation entries => cases written
      | literal value => exact shared.not_literal_mem_node custom _ value part

/-- The type of a node that has become of a relation is the name of the field in lower case,
unless something else that is no text has taken its place. -/
theorem Stands.typeLabel (stands : document.Stands custom head selections node) :
    node.typeLabel = .text (Text.lowercase head.name) ∨
      ∃ mark, node.typeLabel = .displaced mark := by
  have written := head.typeName_mem_keys custom selections
  have present : Mark.typeName ∈ OrderedMap.keys node := by
    obtain rfl | ⟨depth, opened, rfl⟩ := id stands
    · exact written
    · exact Node.mem_keys_expand _ depth opened rfl written
  obtain ⟨entry, found⟩ := Option.isSome_iff_exists.mp
    ((OrderedMap.get?_isSome_iff _ _).mpr present)
  rw [Node.typeLabel, Node.typeName, Node.mark, found, Option.map_some, Option.getD_some]
  obtain own | ⟨truthy, other⟩ := stands.typing (OrderedMap.mem_of_get?_eq_some found)
  · rw [own]
    exact .inl rfl
  · refine .inr ⟨entry.toJson, ?_⟩
    split
    · rename_i name text
      exact absurd text (other name)
    · rw [if_pos truthy]

end Document

/-! ## Batches -/

theorem entityKey_lowercase (type identifier : String) :
    entityKey (Text.lowercase type) identifier = entityKey type identifier := by
  rw [entityKey, entityKey, Text.lowered_lowercase]

namespace Filing
variable {τ : Type} {filing : Filing τ} {occurrence : Occurrence} {type identifier : String}

/-- An object of a type with an identifier. The type is its category in lower case, and the
identifier is the text of the first of its identifier fields that is there. -/
def Shows (filing : Filing τ) (occurrence : Occurrence) (type identifier : String) : Prop :=
  (∃ category, filing.categoryOf occurrence.fieldKey occurrence.node = .ok (.text category) ∧
    type = Text.lowercase category) ∧
  entityIdOf occurrence.object filing.custom = some identifier

/-- No category of an object has a hyphen. -/
def Unhyphenated (filing : Filing τ) (occurrences : List Occurrence) : Prop :=
  ∀ occurrence ∈ occurrences, ∀ category,
    filing.categoryOf occurrence.fieldKey occurrence.node = .ok (.text category) →
      '-' ∉ category.toList

instance (category : Except Malformed Label) :
    Decidable (∀ text, category = .ok (.text text) → '-' ∉ text.toList) :=
  match category with
  | .ok (.text text) =>
    decidable_of_iff ('-' ∉ text.toList) ⟨by rintro free _ ⟨⟩; exact free, fun all => all text rfl⟩
  | .ok (.displaced _) => isTrue nofun
  | .error _ => isTrue nofun

instance (filing : Filing τ) (occurrences : List Occurrence) :
    Decidable (filing.Unhyphenated occurrences) :=
  inferInstanceAs (Decidable (∀ occurrence ∈ occurrences, ∀ category,
    filing.categoryOf occurrence.fieldKey occurrence.node = .ok (.text category) →
      '-' ∉ category.toList))

/-- A batch that keeps objects of different types or with different identifiers apart. -/
structure KeptApart (filing : Filing τ) (occurrences : List Occurrence) (batch : Batch τ) :
    Prop where
  /-- Every object with an identifier has a type. -/
  shown : ∀ occurrence ∈ occurrences, ∀ identifier,
    entityIdOf occurrence.object filing.custom = some identifier →
      ∃ type, filing.Shows occurrence type identifier
  /-- It is in a record of its type and its identifier. -/
  placed : ∀ occurrence ∈ occurrences, ∀ type identifier,
    filing.Shows occurrence type identifier →
      filing.keyOf? occurrence = some (entityKey type identifier) ∧
        ∃ record, OrderedMap.get? batch.entities (entityKey type identifier) = some record ∧
          Text.lowercase record.typeName = type ∧ record.entityId = identifier
  /-- Two objects are in one record exactly if they have the same type and the same identifier. -/
  apart : ∀ one ∈ occurrences, ∀ two ∈ occurrences, ∀ type other identifier identifier',
    filing.Shows one type identifier → filing.Shows two other identifier' →
      (filing.keyOf? one = filing.keyOf? two ↔ type = other ∧ identifier = identifier')
  /-- What a record has in a field, an object of its type with its identifier carries. -/
  own : ∀ key record, OrderedMap.get? batch.entities key = some record →
    ∀ field value, OrderedMap.get? record.data field = some value →
      ∃ occurrence ∈ occurrences,
        filing.Shows occurrence (Text.lowercase record.typeName) record.entityId ∧
          occurrence.carried? field = some value

/-- The key of an object is that of its type and its identifier. -/
theorem keyOf?_eq_some_iff_shows {key : String} :
    filing.keyOf? occurrence = some key ↔
      ∃ type identifier, filing.Shows occurrence type identifier ∧
        key = entityKey type identifier := by
  rw [keyOf?_eq_some_iff]
  constructor
  · rintro ⟨category, identifier, categorized, identified, rfl⟩
    exact ⟨_, identifier, ⟨⟨category, categorized, rfl⟩, identified⟩,
      (entityKey_lowercase _ _).symm⟩
  · rintro ⟨_, identifier, ⟨⟨category, categorized, rfl⟩, identified⟩, rfl⟩
    exact ⟨category, identifier, categorized, identified, entityKey_lowercase _ _⟩

theorem Shows.keyOf? (shows : filing.Shows occurrence type identifier) :
    filing.keyOf? occurrence = some (entityKey type identifier) :=
  keyOf?_eq_some_iff_shows.mpr ⟨type, identifier, shows, rfl⟩

/-- The record that an object leaves behind has its type and its identifier. -/
theorem shows_of_recordOf? {record : Record τ} (left : filing.recordOf? occurrence = some record) :
    filing.Shows occurrence (Text.lowercase record.typeName) record.entityId ∧
      record.key = entityKey (Text.lowercase record.typeName) record.entityId := by
  unfold recordOf? at left
  split at left
  · rename_i category categorized
    obtain ⟨identifier, identified, rfl⟩ := Option.map_eq_some_iff.mp left
    exact ⟨⟨⟨category, categorized, rfl⟩, identified⟩, (entityKey_lowercase _ _).symm⟩
  · cases left

/-- Keys of objects are the same only for one type and one identifier. -/
theorem Unhyphenated.key_eq_iff {occurrences : List Occurrence}
    (plain : filing.Unhyphenated occurrences) {other : Occurrence} {type' identifier' : String}
    (member : occurrence ∈ occurrences) (member' : other ∈ occurrences)
    (shows : filing.Shows occurrence type identifier)
    (shows' : filing.Shows other type' identifier') :
    entityKey type identifier = entityKey type' identifier' ↔
      type = type' ∧ identifier = identifier' := by
  obtain ⟨⟨category, categorized, rfl⟩, _⟩ := shows
  obtain ⟨⟨category', categorized', rfl⟩, _⟩ := shows'
  rw [entityKey_lowercase, entityKey_lowercase,
    entityKey_eq_iff (plain _ member _ categorized) (plain _ member' _ categorized')]

section Made
variable {prototype : Prototype} {data : Json} {fields : OrderedMap String Json} {batch : Batch τ}
  (read : dataFields data = .ok fields) (filed : filing.batchOf prototype data = .ok batch)
include read filed

/-- A record of a batch has the type and the identifier of an object, and its key is theirs. -/
theorem exists_shows_of_get? {key : String} {record : Record τ}
    (found : OrderedMap.get? batch.entities key = some record) :
    ∃ occurrence ∈ prototype.occurrences fields,
      filing.Shows occurrence (Text.lowercase record.typeName) record.entityId ∧
        key = entityKey (Text.lowercase record.typeName) record.entityId := by
  obtain ⟨entities, -⟩ := batchOf_filed read filed
  obtain ⟨occurrence, member, made, left, same⟩ :=
    mem_filed (entities ▸ OrderedMap.mem_of_get?_eq_some found)
  obtain ⟨rfl, shape⟩ := Prod.mk.inj same
  obtain ⟨shows, keyed⟩ := shows_of_recordOf? left
  rw [shape]
  exact ⟨occurrence, member, shows, keyed⟩

/-- So a batch keeps objects apart if no category of theirs has a hyphen. -/
theorem Unhyphenated.keptApart (plain : filing.Unhyphenated (prototype.occurrences fields)) :
    filing.KeptApart (prototype.occurrences fields) batch := by
  obtain ⟨-, -, addressed⟩ := batchOf_filed read filed
  obtain ⟨holds, -⟩ := batchOf_holds read filed
  constructor
  case shown =>
    intro occurrence member identifier identified
    have keyed : (filing.keyOf? occurrence).isSome := by
      rw [addressed occurrence member, identified]
      rfl
    obtain ⟨key, keyed⟩ := Option.isSome_iff_exists.mp keyed
    obtain ⟨type, identifier', ⟨category, identified'⟩, -⟩ := keyOf?_eq_some_iff_shows.mp keyed
    cases identified.symm.trans identified'
    exact ⟨type, category, identified⟩
  case placed =>
    intro occurrence member type identifier shows
    obtain ⟨record, found⟩ :=
      Option.isSome_iff_exists.mp (holds.present occurrence member _ shows.keyOf?)
    obtain ⟨origin, member', shows', same⟩ := exists_shows_of_get? read filed found
    obtain ⟨types, identifiers⟩ := (plain.key_eq_iff member member' shows shows').mp same
    exact ⟨shows.keyOf?, record, found, types.symm, identifiers.symm⟩
  case apart =>
    intro one member two member' type other identifier identifier' shows shows'
    rw [shows.keyOf?, shows'.keyOf?, Option.some.injEq,
      plain.key_eq_iff member member' shows shows']
  case own =>
    intro key record found field value carried
    obtain ⟨origin, member', shows', rfl⟩ := exists_shows_of_get? read filed found
    have kept := holds.carries (entityKey (Text.lowercase record.typeName) record.entityId) field
    rw [found, Option.bind_some, carried, eq_comm, lastCarried?_eq_some_iff] at kept
    obtain ⟨earlier, occurrence, later, split, left, -⟩ := kept
    have member : occurrence ∈ prototype.occurrences fields := by simp [split]
    obtain ⟨keyed, carried⟩ := Option.ite_none_right_eq_some.mp left
    obtain ⟨type, identifier, shows, same⟩ := keyOf?_eq_some_iff_shows.mp keyed
    obtain ⟨rfl, rfl⟩ := (plain.key_eq_iff member' member shows' shows).mp same
    exact ⟨occurrence, member, shows, carried⟩

end Made

/-- Without maps a field is filed under its type. -/
theorem categoryOf_type {node : Node} (fields : filing.fieldMap = []) (types : filing.typeMap = [])
    (label : node.typeLabel = .text type) (some : type ≠ "") (fieldKey : String) :
    filing.categoryOf fieldKey node = .ok (.text type) := by
  have unmapped (name : String) : mappedLabel? [] name = none := rfl
  simp only [categoryOf, category, fields, types, labels, List.map_nil, label]
  split
  · rename_i empty
    exact absurd (Label.text.inj empty) some
  · simp [Label.hashable, unmapped, bind, Except.bind, pure, Except.pure]

end Filing

/-! ## Batches without maps -/

namespace Document
variable {τ : Type} {document : Document} {custom : Option String}

/-- An object that was met under a field that the document selects. -/
def Meets (document : Document) (custom : Option String) (head : FieldHead)
    (occurrence : Occurrence) : Prop :=
  head.responseKey = occurrence.fieldKey ∧
    ∃ selections, document.Relates head selections ∧
      document.Stands custom head selections occurrence.node

/-- Under the prototype of a document, with its spreads or with its fragments inlined, objects
are met under fields of the document. -/
theorem exists_meets (clear : (document.compile custom).obstacle = none) {prototype : Prototype}
    (own : prototype ∈ [(document.compile custom).prototype, document.expanded custom])
    {data : OrderedMap String Json} {occurrence : Occurrence}
    (member : occurrence ∈ prototype.occurrences data) :
    ∃ head, document.Meets custom head occurrence := by
  have stands : ∃ path head selections, document.Relates head selections ∧
      (path ++ [occurrence.fieldKey]).getLast? = some head.responseKey ∧
      document.Stands custom head selections occurrence.node := by
    simp only [List.mem_cons, List.not_mem_nil, or_false] at own
    obtain rfl | rfl := own
    · have distinct : (document.compile custom).prototype.Distinct := by
        rw [(compiled_trees clear).1]
        exact document.translatedRoots_distinct custom
      obtain ⟨path, _, found, _⟩ := distinct.mem_occurrences_iff.mp member
      exact ⟨path, exists_relates_of_written clear found⟩
    · obtain ⟨path, _, found, _⟩ := (expanded_distinct clear).mem_occurrences_iff.mp member
      exact ⟨path, exists_relates_of_at? clear found⟩
  obtain ⟨path, head, selections, relates, last, stands⟩ := stands
  rw [List.getLast?_concat, Option.some.injEq] at last
  exact ⟨head, last.symm, selections, relates, stands⟩

theorem Relates.named {source : List Char} (read : Document.read source = .ok document)
    {head : FieldHead} {selections : List Selection} (relates : document.Relates head selections) :
    head.Named := by
  obtain ⟨definition, defined, within⟩ := relates
  exact spelled_of_read read definition defined head within.mem_headsOf

/-- Without maps a category that is a text is the name of the field in lower case. -/
theorem Meets.category {source : List Char} (read : Document.read source = .ok document)
    {filing : Filing τ} (fields : filing.fieldMap = []) (types : filing.typeMap = [])
    {occurrence : Occurrence} {head : FieldHead} (meets : document.Meets custom head occurrence)
    (category : String)
    (categorized : filing.categoryOf occurrence.fieldKey occurrence.node = .ok (.text category)) :
    category = Text.lowercase head.name := by
  obtain ⟨_, selections, relates, stands⟩ := meets
  obtain label | ⟨mark, label⟩ := stands.typeLabel
  · have some := Text.lowercase_ne_empty (relates.named read).2
    cases categorized.symm.trans (filing.categoryOf_type fields types label some _)
    rfl
  · have unmapped : filing.Unmapped := by
      intro name
      rw [fields]
      rfl
    exact absurd categorized (Filing.categoryOf_displaced unmapped label _ category)

/-- Keys tell objects apart. Types without hyphens and identifiers of any form make one key
exactly if they are the same types in lower case and the same identifiers, so a batch keeps
objects of different types or with different identifiers apart if no category has a hyphen.
Names of the fields that a text selects have none. Where its answers are filed without maps,
whether spreads are inlined or not, the category of each object is the name of its field in
lower case, so the batch keeps the objects apart. -/
theorem entities_kept_apart :
    (∀ type other identifier identifier' : String, '-' ∉ type.toList → '-' ∉ other.toList →
      (entityKey type identifier = entityKey other identifier' ↔
        Text.lowercase type = Text.lowercase other ∧ identifier = identifier')) ∧
    (∀ (prototype : Prototype) (filing : Filing τ) data fields batch, dataFields data = .ok fields →
      filing.batchOf prototype data = .ok batch →
      filing.Unhyphenated (prototype.occurrences fields) →
        filing.KeptApart (prototype.occurrences fields) batch) ∧
    ∀ source document, Document.read source = .ok document →
      (∀ head ∈ document.heads, '-' ∉ (Text.lowercase head.name).toList) ∧
      ∀ custom, (document.compile custom).obstacle = none →
        ∀ prototype ∈ [(document.compile custom).prototype, document.expanded custom],
          ∀ (filing : Filing τ) data fields batch, filing.fieldMap = [] → filing.typeMap = [] →
            dataFields data = .ok fields → filing.batchOf prototype data = .ok batch →
              (∀ occurrence ∈ prototype.occurrences fields,
                (∃ head, document.Meets custom head occurrence) ∧
                ∀ head, document.Meets custom head occurrence → ∀ category,
                  filing.categoryOf occurrence.fieldKey occurrence.node = .ok (.text category) →
                    category = Text.lowercase head.name) ∧
              filing.KeptApart (prototype.occurrences fields) batch := by
  refine ⟨fun _ _ _ _ => entityKey_eq_iff, fun _ _ _ _ _ => Filing.Unhyphenated.keptApart, ?_⟩
  intro source document read
  refine ⟨fun head member => ?_, ?_⟩
  · obtain ⟨definition, defined, within⟩ := List.mem_flatMap.mp member
    exact (spelled_of_read read definition defined head within).type_free
  intro custom clear prototype own filing data fields batch unmapped untyped given filed
  have met : ∀ occurrence ∈ prototype.occurrences fields,
      ∃ head, document.Meets custom head occurrence :=
    fun occurrence member => exists_meets clear own member
  have categorized {occurrence : Occurrence} {head : FieldHead}
      (meets : document.Meets custom head occurrence) (category : String) :=
    meets.category read unmapped untyped category
  have plain : filing.Unhyphenated (prototype.occurrences fields) := by
    intro occurrence member category same
    obtain ⟨head, meets⟩ := met occurrence member
    obtain ⟨_, _, relates, _⟩ := id meets
    rw [categorized meets category same]
    exact (relates.named read).type_free
  exact ⟨fun occurrence member => ⟨met occurrence member, fun _ meets => categorized meets⟩,
    plain.keptApart given filed⟩

end Document

/-! ## Towns and their halls -/

namespace Halls

def hall : Selection := .relation ⟨none, "hall", [], []⟩ [.leaf ⟨none, "id", [], []⟩]

def town : Selection := .relation ⟨none, "Town", [], []⟩ [.leaf ⟨none, "id", [], []⟩, hall]

def document : Document := ⟨[.operation ⟨.query, none, [], [], [town, hall]⟩]⟩

/-- The identifier of the town looks like the key of a hall. -/
def answer : OrderedMap String Json :=
  [("Town", .object [("id", .string "hall--1"), ("hall", .object [("id", .int 1)])]),
    ("hall", .object [("id", .string "1")])]

def filing (typeMap : OrderedMap String String) : Filing Int := ⟨[], typeMap, false, none, none⟩

set_option maxRecDepth 8000 in
theorem read : Document.read "\x7bTown\x7bid hall\x7bid\x7d\x7dhall\x7bid\x7d\x7d".toList =
    .ok document := by
  cbv

/-- Objects of the answer are filed as towns and halls, or as towns and buildings. -/
theorem batchOf_keys (typeMap : OrderedMap String String) (keys : List String)
    (filed : (((filing typeMap).batchOf (document.expanded none) (.object answer)).toOption.map
      fun batch => OrderedMap.keys batch.entities) = some keys) :
    ∃ batch, (filing typeMap).batchOf (document.expanded none) (.object answer) = .ok batch ∧
      OrderedMap.keys batch.entities = keys := by
  obtain ⟨batch, done, same⟩ := Option.map_eq_some_iff.mp filed
  exact ⟨batch, except_ok_of_toOption done, same⟩

end Halls

open Halls in
/-- The town and the hall have records of their own, and so do a town and a building. -/
theorem Document.entities_kept_apart_halls :
    entityKey "town" "hall--1" ≠ entityKey "hall" "1" ∧
    (document.compile none).obstacle = none ∧
      ∃ batch, (filing []).batchOf (document.expanded none) (.object answer) = .ok batch ∧
        OrderedMap.keys batch.entities = ["hall--1", "town--hall--1"] ∧
        (filing []).KeptApart ((document.expanded none).occurrences answer) batch ∧
      ∃ batch', (filing [("hall", "building")]).batchOf (document.expanded none) (.object answer) =
          .ok batch' ∧
        OrderedMap.keys batch'.entities = ["building--1", "town--hall--1"] ∧
        (filing [("hall", "building")]).KeptApart
          ((document.expanded none).occurrences answer) batch' := by
  have clear : (document.compile none).obstacle = none := by decide
  obtain ⟨keys, batches, documents⟩ := @Document.entities_kept_apart Int
  obtain ⟨batch, filed, named⟩ := batchOf_keys [] ["hall--1", "town--hall--1"]
    (by decide +kernel)
  obtain ⟨batch', filed', named'⟩ := batchOf_keys [("hall", "building")]
    ["building--1", "town--hall--1"] (by decide +kernel)
  refine ⟨?_, clear, batch, filed, named, ?_, batch', filed', named', ?_⟩
  · intro same
    exact absurd ((keys "town" "hall" _ _ (by decide) (by decide)).mp same).2 (by decide)
  · exact ((documents _ document Halls.read).2 none clear _ (by simp) (filing []) _ _ batch
      rfl rfl rfl filed).2
  · exact batches _ _ _ _ batch' rfl filed' (by decide +kernel)

end GraphCache
