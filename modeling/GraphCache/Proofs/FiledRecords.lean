import GraphCache.Proofs.FaithfulAnswer

/-! The records of an answer. Under a prototype whose types are texts every answer can be
filed, and the batch has a record for each key that an object of the answer has, and no
others. What a record says of a field is what the last of its objects says that carries the
field and was asked for it. -/
namespace GraphCache

/-- A prototype whose types are texts at every depth, and whose roots have arguments or none. -/
def Prototype.Formed (prototype : Prototype) : Prop :=
  ∀ root ∈ prototype, root.2.Labelled ∧ ∃ given, root.2.argumentFields = .ok given

/-- A root that has a key has arguments, or none. -/
theorem Node.argumentFields_of_queryKey {node : Node} {custom : Option String} {key : Label}
    (named : node.queryKey custom = .ok key) : ∃ given, node.argumentFields = .ok given := by
  simp only [queryKey, filters, bind, except_bind_ok] at named
  obtain ⟨_, ⟨given, arguments, -⟩, -⟩ := named
  exact ⟨given, arguments⟩

namespace Filing

variable {τ : Type} {filing : Filing τ}

/-- The last of the objects that leaves something behind under a key and a field leaves this
value there. -/
def LastLeaves (filing : Filing τ) (occurrences : List Occurrence) (key field : String)
    (value : Json) : Prop :=
  ∃ earlier occurrence later, occurrences = earlier ++ occurrence :: later ∧
    filing.left? key field occurrence = some value ∧
    ∀ other ∈ later, filing.left? key field other = none

theorem lastCarried?_eq_some_iff {occurrences : List Occurrence} {key field : String}
    {value : Json} :
    filing.lastCarried? occurrences key field = some value ↔
      filing.LastLeaves occurrences key field value := by
  rw [lastCarried?, List.findSome?_eq_some_iff]
  constructor
  · rintro ⟨after, occurrence, before, same, left, none⟩
    refine ⟨before.reverse, occurrence, after.reverse, ?_, left, ?_⟩
    · simpa using congrArg List.reverse same
    · simpa using none
  · rintro ⟨earlier, occurrence, later, rfl, left, none⟩
    exact ⟨later.reverse, occurrence, earlier.reverse, by simp, left, by simpa using none⟩

/-- A key is made of a category and an identifier. -/
theorem keyOf?_eq_some_iff {occurrence : Occurrence} {key : String} :
    filing.keyOf? occurrence = some key ↔ ∃ category identifier,
      filing.categoryOf occurrence.fieldKey occurrence.node = .ok (.text category) ∧
        entityIdOf occurrence.object filing.custom = some identifier ∧
        key = entityKey category identifier := by
  unfold keyOf?
  split
  · rename_i category categorized
    simp [categorized, eq_comm]
  · rename_i other
    simp only [reduceCtorEq, false_iff]
    rintro ⟨category, _, categorized, -⟩
    exact other category categorized

theorem recordOf?_fromMutation {occurrence : Occurrence} {record : Record τ}
    (found : filing.recordOf? occurrence = some record) :
    record.fromMutation = filing.fromMutation := by
  unfold recordOf? at found
  split at found
  · obtain ⟨identifier, _, rfl⟩ := Option.map_eq_some_iff.mp found
    rfl
  · cases found

/-- Data can be filed under a prototype that is formed. -/
theorem batchOf_of_formed (filing : Filing τ) {prototype : Prototype} (formed : prototype.Formed)
    (data : OrderedMap String Json) :
    ∃ batch, filing.batchOf prototype (.object data) = .ok batch := by
  refine filing.batchOf_ok (fun root member => ?_) data
  obtain ⟨labelled, given, arguments⟩ := formed root member
  obtain ⟨label, -⟩ := id labelled
  obtain ⟨key, keyed⟩ := Node.queryKey_of_text label arguments filing.custom
  exact ⟨labelled, .text key, keyed⟩

/-- All objects met under a prototype that is formed have a text for their category. -/
theorem categorized_of_formed (filing : Filing τ) {prototype : Prototype}
    (formed : prototype.Formed) (data : OrderedMap String Json) :
    ∀ occurrence ∈ prototype.occurrences data, ∃ category,
      filing.categoryOf occurrence.fieldKey occurrence.node = .ok (.text category) := by
  have inherited : Node.Inherited Node.Labelled := by
    rintro node key entries ⟨-, inside⟩ plain written
    exact inside key entries plain written
  intro occurrence member
  obtain ⟨label, -⟩ := Prototype.occurrences_inherit inherited
    (fun root member => (formed root member).1) data occurrence member
  exact filing.categoryOf_text occurrence.fieldKey label

/-- An answer can be filed under a prototype whose types are texts at every depth and whose
roots have arguments or none. The keys of its records are those of its objects, each made of
the object's category and identifier, and each record has, in every field, what the last
object under its key left there, with the flag and the expiry of the filing. -/
theorem batchOf_records {prototype : Prototype} (formed : prototype.Formed)
    (data : OrderedMap String Json) :
    ∃ batch, filing.batchOf prototype (.object data) = .ok batch ∧
      (OrderedMap.keys batch.entities).Nodup ∧
      (∀ occurrence ∈ prototype.occurrences data, ∃ category,
        filing.categoryOf occurrence.fieldKey occurrence.node = .ok (.text category)) ∧
      (∀ key, key ∈ OrderedMap.keys batch.entities ↔
        ∃ occurrence ∈ prototype.occurrences data, ∃ category identifier,
          filing.categoryOf occurrence.fieldKey occurrence.node = .ok (.text category) ∧
            entityIdOf occurrence.object filing.custom = some identifier ∧
            key = entityKey category identifier) ∧
      ∀ key record, OrderedMap.get? batch.entities key = some record →
        (∀ field value, OrderedMap.get? record.data field = some value ↔
          filing.LastLeaves (prototype.occurrences data) key field value) ∧
        record.fromMutation = filing.fromMutation ∧ record.expiresAt = filing.expiresAt := by
  obtain ⟨batch, filed⟩ := filing.batchOf_of_formed formed data
  have read : dataFields (.object data) = .ok data := rfl
  obtain ⟨entities, -⟩ := batchOf_filed read filed
  obtain ⟨holds, -⟩ := batchOf_holds read filed
  have made {entry : String × Record τ} (member : entry ∈ batch.entities) :=
    mem_filed (entities ▸ member)
  refine ⟨batch, filed, holds.unique, filing.categorized_of_formed formed data, ?_, ?_⟩
  · intro key
    simp only [← keyOf?_eq_some_iff]
    constructor
    · intro named
      obtain ⟨entry, member, rfl⟩ := List.mem_map.mp named
      obtain ⟨occurrence, inside, own, found, same⟩ := made member
      refine ⟨occurrence, inside, ?_⟩
      rw [← key_recordOf?, found, same]
      rfl
    · rintro ⟨occurrence, inside, keyed⟩
      rw [← OrderedMap.get?_isSome_iff]
      exact holds.present occurrence inside key keyed
  · intro key record found
    constructor
    · intro field value
      rw [← lastCarried?_eq_some_iff, ← holds.carries, found]
      rfl
    · obtain ⟨occurrence, inside, own, kept, same⟩ := made (OrderedMap.mem_of_get?_eq_some found)
      obtain ⟨-, shape⟩ := Prod.mk.inj same
      have flag : own.fromMutation = filing.fromMutation := recordOf?_fromMutation kept
      have expires : own.expiresAt = filing.expiresAt := (recordOf?_data kept).2
      rw [shape]
      exact ⟨flag, expires⟩

end Filing

/-! ## A country and its capital -/

namespace Capital

def node : Node :=
  [("__type", .literal (.string "capital")), ("id", .requested), ("name", .requested)]

def country : Node :=
  [("__type", .literal (.string "country")), ("id", .requested), ("name", .requested),
    ("capital", .relation node)]

def prototype : Prototype := [("country", country)]

def filing : Filing Int := ⟨[], [], false, none, some 600⟩

def lima : OrderedMap String Json := [("id", .int 9), ("name", .string "Lima")]

def peru : OrderedMap String Json :=
  [("id", .int 1), ("name", .string "Peru"), ("capital", .object lima)]

theorem node_labelled : node.Labelled :=
  .intro rfl fun key entries _ member => by simp [node] at member

theorem country_labelled : country.Labelled :=
  .intro rfl fun key entries _ member => by
    obtain ⟨rfl, rfl⟩ : key = "capital" ∧ entries = node := by simpa [country] using member
    exact node_labelled

/-- The capital is met before its country. -/
theorem occurrences : prototype.occurrences [("country", .object peru)] =
    [⟨"capital", node, lima⟩, ⟨"country", country, peru⟩] := rfl

end Capital

open Capital in
/-- A country and its capital are filed each under its own key, and nothing else is. -/
theorem Filing.batchOf_records_capital :
    ∃ batch, filing.batchOf prototype (.object [("country", .object peru)]) = .ok batch ∧
      ∀ key, key ∈ OrderedMap.keys batch.entities ↔ key = "capital--9" ∨ key = "country--1" := by
  have formed : prototype.Formed := by
    intro root member
    rw [List.mem_singleton.mp member]
    exact ⟨country_labelled, [], rfl⟩
  obtain ⟨batch, filed, -, -, keys, -⟩ :=
    filing.batchOf_records formed [("country", .object peru)]
  refine ⟨batch, filed, fun key => ?_⟩
  have lima_key : filing.keyOf? ⟨"capital", node, lima⟩ = some "capital--9" := by decide +kernel
  have peru_key : filing.keyOf? ⟨"country", country, peru⟩ = some "country--1" := by decide +kernel
  simp only [keys, ← keyOf?_eq_some_iff, occurrences, List.mem_cons, List.not_mem_nil, or_false,
    exists_eq_or_imp, exists_eq_left, lima_key, peru_key, Option.some.injEq, eq_comm]

end GraphCache
