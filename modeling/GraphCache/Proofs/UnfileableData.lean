import GraphCache.Proofs.FiledRecords
import GraphCache.Proofs.LeadingAnswers

/-! Data that cannot be filed. Where something else has taken the place of a type in a
prototype, at any depth, an object leads there that has an identifier: it cannot be filed,
unless the caller's map of fields helps out. So the prototypes under which all data can be
filed are those that are formed. -/
namespace GraphCache

namespace Filing

variable {τ : Type} {filing : Filing τ}

/-- No name is mapped to anything but an empty text, which counts as nothing. -/
def Unmapped (filing : Filing τ) : Prop :=
  ∀ name, mappedLabel? (labels filing.fieldMap) name = none

/-- Without a map, something else in the place of a type gives no category that is a text. -/
theorem categoryOf_displaced (unmapped : filing.Unmapped) {node : Node} {mark : Json}
    (label : node.typeLabel = .displaced mark) (fieldKey category : String) :
    filing.categoryOf fieldKey node ≠ .ok (.text category) := by
  intro categorized
  simp only [categoryOf, GraphCache.category, label, bind, except_bind_ok] at categorized
  obtain ⟨first, hashed, second, again, result⟩ := categorized
  obtain rfl := Label.eq_of_hashable hashed
  have alone : (Label.displaced mark).hashable = .ok second := by rw [← again, unmapped]; rfl
  obtain rfl := Label.eq_of_hashable alone
  cases result

/-- An object of a field can be filed, and so can what is below it. -/
def Fileable (filing : Filing τ) (fieldKey : String) (node : Node)
    (object : OrderedMap String Json) (batch : Batch τ) : Prop :=
  ∃ category below result, filing.categoryOf fieldKey node = .ok category ∧
    filing.fileFields object batch node = .ok below ∧
    filing.fileObject node category object below = .ok result

/-- An object that is all that a field leads to is filed with the field. -/
theorem fileable_of_fileField {key : String} {entries : List (String × Entry)}
    {inner : OrderedMap String Json} {batch after : Batch τ}
    (filed : filing.fileField key [(key, .object inner)] batch (.relation entries) = .ok after) :
    filing.Fileable key entries inner batch := by
  simp only [fileField, OrderedMap.get?, ↓reduceIte, objectsOf, List.foldlM_cons, List.foldlM_nil,
    bind, except_bind_ok] at filed
  obtain ⟨category, categorized, _, ⟨below, entered, result, own, -⟩, -⟩ := filed
  exact ⟨category, below, result, categorized, entered, own⟩

theorem fileField_of_fileFields {key : String} {entry : Entry} {object : OrderedMap String Json}
    {node : List (String × Entry)} (plain : isReserved key = false) (member : (key, entry) ∈ node)
    {batch after : Batch τ} (filed : filing.fileFields object batch node = .ok after) :
    ∃ early late, filing.fileField key object early entry = .ok late := by
  induction node generalizing batch with
  | nil => cases member
  | cons first rest ih =>
    cases reserved : isReserved first.1 with
    | true =>
      simp only [fileFields, reserved, ↓reduceIte, bind, except_bind_ok] at filed
      obtain ⟨_, _, later⟩ := filed
      obtain rfl | inside := List.mem_cons.mp member
      · rw [plain] at reserved
        cases reserved
      · exact ih inside later
    | false =>
      simp only [fileFields, reserved, Bool.false_eq_true, ↓reduceIte, bind,
        except_bind_ok] at filed
      obtain ⟨middle, own, later⟩ := filed
      obtain rfl | inside := List.mem_cons.mp member
      · exact ⟨batch, middle, own⟩
      · exact ih inside later

/-- A node that is not labelled throughout has an object that cannot be filed. -/
theorem exists_unfileable (unmapped : filing.Unmapped) (node : Node)
    (unlabelled : ¬node.Labelled) :
    ∃ object, ∀ fieldKey batch, ¬filing.Fileable fieldKey node object batch := by
  cases label : node.typeLabel with
  | displaced mark =>
    refine ⟨ones [], ?_⟩
    rintro fieldKey batch ⟨category, below, result, categorized, -, own⟩
    cases category with
    | displaced other => simp [fileObject, entityIdOf_ones] at own
    | text name => exact categoryOf_displaced unmapped label fieldKey name categorized
  | text name =>
    obtain ⟨key, entries, plain, member, worse⟩ : ∃ key entries, isReserved key = false ∧
        (key, Entry.relation entries) ∈ node ∧ ¬Node.Labelled entries := by
      by_contra nowhere
      apply unlabelled (.intro label fun key entries plain member => ?_)
      by_contra worse
      exact nowhere ⟨key, entries, plain, member, worse⟩
    obtain ⟨inner, refused⟩ := exists_unfileable unmapped entries worse
    refine ⟨[(key, .object inner)], ?_⟩
    rintro fieldKey batch ⟨category, below, result, -, entered, -⟩
    obtain ⟨early, late, filed⟩ := fileField_of_fileFields plain member entered
    exact refused key early (fileable_of_fileField filed)
termination_by sizeOf node
decreasing_by
  have inside := List.sizeOf_lt_of_mem member
  simp at inside
  omega

/-! ## Roots -/

/-- An object that is all that a root has is filed with the root, which has a key. -/
theorem fileable_of_fileRoot {fieldKey : String} {node : Node} {object : OrderedMap String Json}
    {batch after : Batch τ}
    (filed : filing.fileRoot fieldKey node (.object object) batch = .ok after) :
    filing.Fileable fieldKey node object batch ∧ ∃ key, node.queryKey filing.custom = .ok key := by
  simp only [fileRoot, objectsOf, List.foldlM_cons, List.foldlM_nil, bind, except_bind_ok] at filed
  obtain ⟨category, categorized, _, ⟨_, ⟨below, entered, result, own, -⟩, -⟩, key, named, -⟩ := filed
  exact ⟨⟨category, below, result, categorized, entered, own⟩, key, named⟩

theorem fileRoot_of_fileRoots {data : OrderedMap String Json} {prototype : Prototype}
    {root : String × Node} (member : root ∈ prototype) {object : OrderedMap String Json}
    (carried : OrderedMap.get? data root.1 = some (.object object)) {batch after : Batch τ}
    (filed : filing.fileRoots data prototype batch = .ok after) :
    ∃ early late, filing.fileRoot root.1 root.2 (.object object) early = .ok late := by
  induction prototype generalizing batch with
  | nil => cases member
  | cons first rest ih =>
    obtain rfl | inside := List.mem_cons.mp member
    · simp only [fileRoots, carried, bind, except_bind_ok] at filed
      obtain ⟨late, own, -⟩ := filed
      exact ⟨batch, late, own⟩
    · rw [fileRoots] at filed
      split at filed
      · exact ih inside filed
      · exact ih inside filed
      · simp only [bind, except_bind_ok] at filed
        obtain ⟨middle, -, later⟩ := filed
        exact ih inside later

/-- Without a map, all data can be filed under a prototype exactly if it is formed. -/
theorem batchOf_total_iff (unmapped : filing.Unmapped) (prototype : Prototype) :
    (∀ data, ∃ batch, filing.batchOf prototype (.object data) = .ok batch) ↔ prototype.Formed := by
  constructor
  · intro total root member
    have nonempty : prototype.isEmpty = false := by
      cases prototype with
      | nil => cases member
      | cons => rfl
    have alone (object : OrderedMap String Json) : ∃ batch,
        filing.Fileable root.1 root.2 object batch ∧
          ∃ key, root.2.queryKey filing.custom = .ok key := by
      obtain ⟨batch, filed⟩ := total [(root.1, .object object)]
      simp only [batchOf, nonempty, dataFields, bind, Except.bind, Bool.false_eq_true,
        ↓reduceIte] at filed
      have carried : OrderedMap.get? [(root.1, Json.object object)] root.1 =
          some (.object object) := by simp [OrderedMap.get?]
      obtain ⟨early, late, own⟩ := fileRoot_of_fileRoots member carried filed
      exact ⟨early, fileable_of_fileRoot own⟩
    constructor
    · by_contra unlabelled
      obtain ⟨object, refused⟩ := exists_unfileable unmapped root.2 unlabelled
      obtain ⟨batch, fileable, -⟩ := alone object
      exact refused root.1 batch fileable
    · obtain ⟨_, -, key, named⟩ := alone []
      exact Node.argumentFields_of_queryKey named
  · exact fun formed data => filing.batchOf_of_formed formed data

end Filing
end GraphCache
