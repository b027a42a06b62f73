import GraphCache.Text.Lowercase

/-! Lower-casing a text that is in lower case already. No lower-case form is itself a capital:
for the table of forms this is read off the places of its runs, and the forms of the two
capitals that are treated apart are no capitals either. So lower-casing twice is
lower-casing once. And no form stands before the letters, so digits and signs come from
themselves alone. -/
namespace GraphCache.Text

/-! ## The table of forms -/

namespace CaseRun

/-- The lower-case form of the first character of a run. -/
def lowest (run : CaseRun) : Nat := ((run.first : Int) + run.offset).toNat

/-- The lower-case form of the last character of a run. -/
def highest (run : CaseRun) : Nat := ((run.last : Int) + run.offset).toNat

/-- The lower-case form of a character of a run. -/
def form (run : CaseRun) (code : Nat) : Nat := ((code : Int) + run.offset).toNat

/-- No lower-case form of a run is in another one: all of them lie before it, after it, or
between its characters, where every second one is left out. -/
def avoids (run other : CaseRun) : Bool :=
  Nat.blt run.highest other.first || Nat.blt other.last run.lowest ||
    ((run.stride == 2 || run.first == run.last) && other.stride == 2 &&
      (run.lowest + other.first) % 2 == 1)

/-- The lower-case forms of a run are characters, and no capitals outside the table. -/
def regular (run : CaseRun) : Bool :=
  Nat.blt 0x5a run.lowest && (Nat.blt run.highest 0x130 || Nat.blt 0x130 run.lowest) &&
    (Nat.blt run.highest 0xd800 || Nat.blt 0xdfff run.lowest && Nat.blt run.highest 0x110000)

private theorem blt_iff {low high : Nat} : Nat.blt low high = true ↔ low < high := by
  rw [Nat.blt, Nat.ble_eq]
  exact Iff.rfl

theorem covers_iff {run : CaseRun} {code : Nat} :
    run.covers code = true ↔
      run.first ≤ code ∧ code ≤ run.last ∧ (code - run.first) % run.stride = 0 := by
  simp [covers, and_assoc]

theorem form_bounds {run : CaseRun} {code : Nat} (covered : run.covers code = true) :
    run.lowest ≤ run.form code ∧ run.form code ≤ run.highest := by
  obtain ⟨low, high, _⟩ := covers_iff.mp covered
  simp only [lowest, form, highest]
  omega

theorem regular_iff {run : CaseRun} : run.regular = true ↔
    (0x5a < run.lowest ∧ (run.highest < 0x130 ∨ 0x130 < run.lowest)) ∧
      (run.highest < 0xd800 ∨ 0xdfff < run.lowest ∧ run.highest < 0x110000) := by
  simp only [regular, Bool.and_eq_true, Bool.or_eq_true, blt_iff]

theorem not_covers_form {run other : CaseRun} {code : Nat} (regular : run.regular = true)
    (avoids : run.avoids other = true) (covered : run.covers code = true) :
    other.covers (run.form code) = false := by
  rw [Bool.eq_false_iff]
  intro met
  obtain ⟨low, high, step⟩ := covers_iff.mp covered
  obtain ⟨first, last, place⟩ := covers_iff.mp met
  have bounds := form_bounds covered
  have positive := (regular_iff.mp regular).1.1
  simp only [CaseRun.avoids, Bool.or_eq_true, Bool.and_eq_true, beq_iff_eq, blt_iff] at avoids
  obtain (before | after) | ⟨⟨alternate, every⟩, between⟩ := avoids
  · omega
  · omega
  · rw [every] at place
    simp only [lowest, form] at *
    obtain two | single := alternate
    · rw [two] at step
      omega
    · omega

end CaseRun

private theorem runs_avoid :
    (caseRuns.toList.all fun run => caseRuns.toList.all run.avoids) = true := by
  decide +kernel

private theorem runs_regular : caseRuns.toList.all CaseRun.regular = true := by
  decide +kernel

/-! ## Characters -/

/-- A character that is no capital: lower-casing leaves it as it is wherever it stands. -/
structure IsLower (c : Char) : Prop where
  dotted : c ≠ '\u0130'
  sigma : c ≠ '\u03a3'
  plain : lowerChar c = c

private theorem toNat_ofNat {code : Nat} (valid : code.isValidChar) :
    (Char.ofNat code).toNat = code := by
  rw [Char.ofNat, dif_pos valid]
  rfl

private theorem ascii_above :
    ∀ code < 128, 0x5a < code → (Char.ofNat code).toLower = Char.ofNat code := by
  decide

private theorem ascii_twice : ∀ code < 128, (Char.ofNat code).toLower.toNat < 128 ∧
    lowerChar (Char.ofNat code).toLower = (Char.ofNat code).toLower := by
  decide

private theorem toNat_dotted : '\u0130'.toNat = 0x130 := rfl

private theorem toNat_sigma : '\u03a3'.toNat = 0x3a3 := rfl

/-- Beyond the capitals of ASCII, a character that is in no run is no capital. -/
private theorem isLower_of_unlisted {c : Char} (dotted : c ≠ '\u0130') (above : 0x5a < c.toNat)
    (unlisted : ∀ run ∈ caseRuns.toList, run.covers c.toNat = false) : IsLower c where
  dotted := dotted
  sigma := by
    rintro rfl
    have listed : ∃ run ∈ caseRuns.toList, run.covers '\u03a3'.toNat = true := by decide +kernel
    obtain ⟨run, member, covered⟩ := listed
    rw [unlisted run member] at covered
    cases covered
  plain := by
    have none : caseRuns.find? (·.covers c.toNat) = none := by
      rw [← Array.find?_toList, List.find?_eq_none]
      intro run member
      simp [unlisted run member]
    rw [lowerChar, none]
    split
    · rename_i ascii
      have same := ascii_above c.toNat ascii above
      rwa [Char.ofNat_toNat] at same
    · rfl

/-- The form of a character in a run is a character behind the capitals of ASCII, and not the dotted
capital. -/
private theorem toNat_form {run : CaseRun} (member : run ∈ caseRuns.toList) {code : Nat}
    (covered : run.covers code = true) : (Char.ofNat (run.form code)).toNat = run.form code ∧
      0x5a < run.form code ∧ run.form code ≠ 0x130 := by
  obtain ⟨low, high⟩ := CaseRun.form_bounds covered
  obtain ⟨⟨above, dotted⟩, valid⟩ := CaseRun.regular_iff.mp (List.all_eq_true.mp runs_regular run member)
  exact ⟨toNat_ofNat (valid.imp (by omega) (by omega)), by omega, by omega⟩

private theorem isLower_form {run : CaseRun} (member : run ∈ caseRuns.toList) {code : Nat}
    (covered : run.covers code = true) : IsLower (Char.ofNat (run.form code)) := by
  have regular := List.all_eq_true.mp runs_regular run member
  have avoids := List.all_eq_true.mp (List.all_eq_true.mp runs_avoid run member)
  obtain ⟨read, above, dotted⟩ := toNat_form member covered
  refine isLower_of_unlisted (fun same => ?_) (by omega) fun other inside => ?_
  · rw [same, toNat_dotted] at read
    omega
  · rw [read]
    exact CaseRun.not_covers_form regular (avoids other inside) covered

/-- The lower-case form of a character is no capital. -/
theorem isLower_lowerChar {c : Char} (dotted : c ≠ '\u0130') (sigma : c ≠ '\u03a3') :
    IsLower (lowerChar c) := by
  rw [lowerChar]
  split
  · rename_i ascii
    obtain ⟨below, same⟩ := ascii_twice c.toNat ascii
    rw [Char.ofNat_toNat] at below same
    refine ⟨?_, ?_, same⟩
    · intro capital
      rw [capital, toNat_dotted] at below
      omega
    · intro capital
      rw [capital, toNat_sigma] at below
      omega
  · split
    · rename_i run found
      rw [← Array.find?_toList] at found
      have covered : run.covers c.toNat = true := by simpa using List.find?_some found
      exact isLower_form (List.mem_of_find?_eq_some found) covered
    · rename_i beyond _ none
      refine ⟨dotted, sigma, ?_⟩
      rw [lowerChar, if_neg beyond, none]

private theorem ascii_before_letters : ∀ code < 128,
    (Char.ofNat code).toLower.toNat < 0x41 → (Char.ofNat code).toLower = Char.ofNat code := by
  decide

/-- Only the character itself has a form that stands before the letters: in the table no form does. -/
theorem eq_of_lowerChar {c form : Char} (early : form.toNat < 0x41) (lower : lowerChar c = form) :
    c = form := by
  rw [lowerChar] at lower
  split at lower
  · rename_i ascii
    have same := ascii_before_letters c.toNat ascii
    rw [Char.ofNat_toNat, lower] at same
    exact (same early).symm
  · split at lower
    · rename_i run found
      rw [← Array.find?_toList] at found
      have covered : run.covers c.toNat = true := by simpa using List.find?_some found
      obtain ⟨read, above, _⟩ := toNat_form (List.mem_of_find?_eq_some found) covered
      have same : Char.ofNat (run.form c.toNat) = form := lower
      rw [same] at read
      omega
    · exact lower

/-- The forms of the two capitals that are treated apart are no capitals. -/
private theorem isLower_apart : ∀ c ∈ ['i', '\u0307', '\u03c2', '\u03c3'], IsLower c := by
  have checked : (['i', '\u0307', '\u03c2', '\u03c3'].all fun c =>
      decide (c ≠ '\u0130' ∧ c ≠ '\u03a3' ∧ lowerChar c = c)) = true := by decide +kernel
  intro c member
  obtain ⟨dotted, sigma, plain⟩ := of_decide_eq_true (List.all_eq_true.mp checked c member)
  exact ⟨dotted, sigma, plain⟩

/-! ## Texts -/

/-- A text without capitals stays as it is. -/
theorem lowerAfter_eq_self {characters : List Char} (lower : ∀ c ∈ characters, IsLower c)
    (before : List Char) : lowerAfter before characters = characters := by
  induction characters generalizing before with
  | nil => rfl
  | cons c rest ih =>
    obtain ⟨own, others⟩ := List.forall_mem_cons.mp lower
    simp only [lowerAfter, own.dotted, own.sigma, own.plain, ↓reduceIte, List.singleton_append,
      ih others]

/-- What a lower-cased text has comes from its first character, which is treated apart or has a form
of its own, or from the others. -/
private theorem mem_lowerAfter_cons {before rest : List Char} {first c : Char}
    (member : c ∈ lowerAfter before (first :: rest)) :
    c ∈ ['i', '\u0307', '\u03c2', '\u03c3'] ∨
      first ≠ '\u0130' ∧ first ≠ '\u03a3' ∧ c = lowerChar first ∨
      c ∈ lowerAfter (first :: before) rest := by
  rw [lowerAfter, List.mem_append] at member
  obtain form | later := member
  · split at form
    · exact .inl (List.mem_append_left ['\u03c2', '\u03c3'] form)
    · split at form
      · refine .inl (List.mem_append_right ['i', '\u0307'] ?_)
        split at form
        · exact List.mem_cons.mpr (.inl (List.mem_singleton.mp form))
        · exact List.mem_cons_of_mem _ form
      · rename_i dotted sigma
        exact .inr (.inl ⟨dotted, sigma, List.mem_singleton.mp form⟩)
  · exact .inr (.inr later)

/-- No lower-cased text has capitals. -/
theorem isLower_of_mem_lowerAfter {before characters : List Char} {c : Char}
    (member : c ∈ lowerAfter before characters) : IsLower c := by
  induction characters generalizing before with
  | nil => cases member
  | cons first rest ih =>
    obtain apart | ⟨dotted, sigma, rfl⟩ | later := mem_lowerAfter_cons member
    · exact isLower_apart c apart
    · exact isLower_lowerChar dotted sigma
    · exact ih later

/-- What stands before the letters is in a lower-cased text only if it was there before. -/
theorem mem_of_mem_lowerAfter {before characters : List Char} {c : Char} (early : c.toNat < 0x41)
    (member : c ∈ lowerAfter before characters) : c ∈ characters := by
  have letters : ∀ c ∈ ['i', '\u0307', '\u03c2', '\u03c3'], ¬c.toNat < 0x41 := by simp
  induction characters generalizing before with
  | nil => cases member
  | cons first rest ih =>
    obtain apart | ⟨_, _, form⟩ | later := mem_lowerAfter_cons member
    · exact absurd early (letters c apart)
    · rw [eq_of_lowerChar early form.symm]
      exact List.mem_cons_self
    · exact List.mem_cons_of_mem _ (ih later)

theorem mem_of_mem_lowercase {text : String} {c : Char} (early : c.toNat < 0x41)
    (member : c ∈ (lowercase text).toList) : c ∈ text.toList := by
  rw [lowercase, String.toList_ofList] at member
  exact mem_of_mem_lowerAfter early member

theorem lowercase_ne_empty {text : String} (some : text ≠ "") : lowercase text ≠ "" := by
  intro empty
  have none := congrArg String.toList empty
  rw [lowercase, String.toList_ofList] at none
  cases characters : text.toList with
  | nil => exact some (String.toList_eq_nil_iff.mp characters)
  | cons first rest =>
    rw [characters, lowerAfter] at none
    have forms := (List.append_eq_nil_iff.mp none).1
    split at forms
    · cases forms
    · split at forms
      · split at forms <;> cases forms
      · cases forms

/-- A text in lower case: lower-casing leaves it as it is. -/
def Lowered (text : String) : Prop := lowercase text = text

/-- Lower-casing twice is lower-casing once. -/
theorem lowered_lowercase (text : String) : Lowered (lowercase text) := by
  rw [Lowered, lowercase, lowercase, String.toList_ofList,
    lowerAfter_eq_self fun c member => isLower_of_mem_lowerAfter member]

end GraphCache.Text
