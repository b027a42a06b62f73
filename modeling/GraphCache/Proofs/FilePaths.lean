import GraphCache.Settings.FilePath
import Mathlib.Data.List.Basic

/-! File paths as texts and back. A path that was read from a text has no empty steps, none
that stay in place, and no slash inside a step, also after a home was put in its beginning.
Such a path is read back from the text in which it is shown, if it is absolute. -/
namespace GraphCache.FilePath

/-! ## Parts between slashes -/

/-- Characters before the first slash are taken together. -/
theorem splitSlashes_append {step : List Char} (free : '/' ∉ step) (part rest : List Char) :
    splitSlashes part (step ++ rest) = splitSlashes (step.reverse ++ part) rest := by
  induction step generalizing part with
  | nil => rfl
  | cons c later ih =>
    obtain ⟨other, inner⟩ : ¬ '/' = c ∧ '/' ∉ later := by simpa using free
    simp [splitSlashes, Ne.symm other, ih inner]

theorem splitSlashes_step {step : List Char} (free : '/' ∉ step) (rest : List Char) :
    splitSlashes [] (step ++ '/' :: rest) = String.ofList step :: splitSlashes [] rest := by
  simp [splitSlashes_append free, splitSlashes]

theorem splitSlashes_last {step : List Char} (free : '/' ∉ step) :
    splitSlashes [] step = [String.ofList step] := by
  simpa [splitSlashes] using splitSlashes_append free [] []

theorem free_of_mem_splitSlashes {part chars : List Char} (free : '/' ∉ part) :
    ∀ step ∈ splitSlashes part chars, '/' ∉ step.toList := by
  induction chars generalizing part with
  | nil => simpa [splitSlashes] using free
  | cons c rest ih =>
    intro step member
    by_cases slash : c = '/'
    · subst slash
      rcases List.mem_cons.mp (by simpa [splitSlashes] using member) with rfl | later
      · simpa using free
      · exact ih List.not_mem_nil step later
    · refine ih ?_ step (by simpa [splitSlashes, slash] using member)
      simp [free, Ne.symm slash]

/-- Steps that are written with slashes between them come out again. -/
theorem splitSlashes_intercalate {steps : List String} (some : steps ≠ [])
    (free : ∀ step ∈ steps, '/' ∉ step.toList) :
    splitSlashes [] ("/".intercalate steps).toList = steps := by
  induction steps with
  | nil => exact absurd rfl some
  | cons first rest ih =>
    have own := free first List.mem_cons_self
    cases rest with
    | nil => simp [splitSlashes_last own]
    | cons second others =>
      have inner := ih (by simp) fun step member => free step (List.mem_cons_of_mem _ member)
      rw [String.toList_intercalate, List.map_cons] at inner ⊢
      have parts : "/".toList = ['/'] := rfl
      rw [parts] at inner ⊢
      rw [List.map_cons, List.intercalate_cons_cons, List.append_assoc, List.singleton_append,
        splitSlashes_step own, inner]
      simp

/-! ## Tidy paths -/

/-- A step that a path can have: it leads somewhere and is one step. -/
structure TidyStep (step : String) : Prop where
  leads : step ≠ "" ∧ step ≠ "."
  single : '/' ∉ step.toList

/-- A path as texts are read. -/
structure Tidy (path : FilePath) : Prop where
  root : path.root = "" ∨ path.root = "/" ∨ path.root = "//"
  steps : ∀ step ∈ path.steps, TidyStep step

theorem tidy_ofText (text : String) : Tidy (ofText text) where
  root := by
    simp only [ofText]
    unfold rootOf
    split <;> simp
  steps := by
    intro step member
    obtain ⟨part, kept⟩ := List.mem_filter.mp member
    exact ⟨by simpa using kept, free_of_mem_splitSlashes List.not_mem_nil step part⟩

theorem Tidy.expandHome {path file : FilePath} {homes : Homes} (tidy : Tidy path)
    (found : path.expandHome homes = some file) : Tidy file := by
  unfold FilePath.expandHome at found
  split at found
  · cases found
    exact tidy
  · split at found
    · cases found
    · next home _ =>
      split at found
      · cases found
      · cases found
        have base := tidy_ofText home
        refine ⟨base.root, ?_⟩
        intro step member
        rcases List.mem_append.mp member with own | later
        · exact base.steps step own
        · exact tidy.steps step (List.mem_of_mem_tail later)

theorem filter_tidy {steps : List String} (tidy : ∀ step ∈ steps, TidyStep step) :
    (steps.filter fun step => !step.isEmpty && step != ".") = steps := by
  rw [List.filter_eq_self]
  intro step member
  simpa using (tidy step member).leads

/-- The steps of a path as they are written. -/
private def written (steps : List String) : List Char := ("/".intercalate steps).toList

private theorem filter_written {steps : List String} (tidy : ∀ step ∈ steps, TidyStep step) :
    ((splitSlashes [] (written steps)).filter fun step => !step.isEmpty && step != ".") =
      steps := by
  cases steps with
  | nil => simp [written, splitSlashes]
  | cons first rest =>
    rw [written, splitSlashes_intercalate (by simp) fun step member => (tidy step member).single]
    exact filter_tidy tidy

private theorem head_written {steps : List String} (tidy : ∀ step ∈ steps, TidyStep step) :
    (written steps).head? ≠ some '/' := by
  cases steps with
  | nil => simp [written]
  | cons first rest =>
    obtain ⟨⟨leads, -⟩, single⟩ := tidy first List.mem_cons_self
    rw [written, String.toList_intercalate]
    cases chars : first.toList with
    | nil => exact absurd (String.toList_eq_nil_iff.mp chars) leads
    | cons c later =>
      rw [chars] at single
      have other : c ≠ '/' := by
        rintro rfl
        exact single List.mem_cons_self
      cases rest <;> simp [List.intercalate_cons_cons, chars, other]

private theorem rootOf_slashes {rest : List Char} (other : rest.head? ≠ some '/') :
    rootOf ('/' :: rest) = "/" ∧ rootOf ('/' :: '/' :: rest) = "//" := by
  cases rest with
  | nil => exact ⟨rfl, rfl⟩
  | cons c later =>
    have apart : c ≠ '/' := by simpa using other
    constructor <;> simp [rootOf, apart]

/-- An absolute path is read back from its text. -/
theorem Tidy.ofText_toText {path : FilePath} (tidy : Tidy path) (absolute : path.isAbsolute) :
    ofText path.toText = path := by
  obtain ⟨root, steps⟩ := path
  have lead := rootOf_slashes (head_written tidy.steps)
  have body := filter_written tidy.steps
  have shown : toText ⟨root, steps⟩ = root ++ "/".intercalate steps := by
    simp_all [toText, isAbsolute]
  rw [shown, ofText, String.toList_append, ← written]
  rcases tidy.root with none | single | double
  · simp_all [isAbsolute]
  · cases single
    have chars : "/".toList ++ written steps = '/' :: written steps := rfl
    rw [chars, lead.1]
    simpa [splitSlashes] using body
  · cases double
    have chars : "//".toList ++ written steps = '/' :: '/' :: written steps := rfl
    rw [chars, lead.2]
    simpa [splitSlashes] using body

end GraphCache.FilePath
