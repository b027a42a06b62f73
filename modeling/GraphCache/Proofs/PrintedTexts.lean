import GraphCache.Json.Reader
import GraphCache.Proofs.Delimiters

/-! Texts in writing. A printed text is closed and is read back as it was, so it shows which text
was printed. -/
namespace GraphCache

/-! ## Escapes -/

namespace Text

theorem hexDigits_length (width value : Nat) : (hexDigits width value).length = width := by
  induction width generalizing value with
  | zero => rfl
  | succ width ih => simp [hexDigits, ih]

theorem hexValue?_digitChar : ∀ digit < 16, Json.hexValue? (Nat.digitChar digit) = some digit := by
  decide

theorem digitChar_plain : ∀ digit < 16, Plain (Nat.digitChar digit) := by
  decide

theorem mem_hexDigits_plain {width value : Nat} {c : Char} (member : c ∈ hexDigits width value) :
    Plain c := by
  induction width generalizing value with
  | zero => cases member
  | succ width ih =>
    obtain inner | last := List.mem_append.mp member
    · exact ih inner
    · rw [List.mem_singleton.mp last]
      exact digitChar_plain _ (Nat.mod_lt _ (by omega))

/-- As many hexadecimal digits as are enough for a number give it back. -/
theorem hexNumber?_hexDigits {width value : Nat} (small : value < 16 ^ width) :
    Json.hexNumber? (hexDigits width value) = some value := by
  induction width generalizing value with
  | zero =>
    rw [pow_zero] at small
    obtain rfl : value = 0 := by omega
    rfl
  | succ width ih =>
    have shorter : value / 16 < 16 ^ width := by
      rw [pow_succ] at small
      exact Nat.div_lt_of_lt_mul (by omega)
    have digit := hexValue?_digitChar (value % 16) (Nat.mod_lt _ (by omega))
    have front := ih shorter
    rw [Json.hexNumber?] at front
    rw [Json.hexNumber?, hexDigits, List.foldl_append, front]
    simp only [List.foldl_cons, List.foldl_nil, bind, Option.bind, digit, pure]
    exact congrArg some (by omega)

end Text

namespace Json

/-! ## What an escape may be -/

/-- The escape of a character is a letter behind a backslash, the code of the character, the
character itself, or the codes of a pair. -/
inductive EscapeOf (c : Char) : List Char → Prop where
  | letter {letter : Char} (other : letter ≠ 'u') (stands : simpleEscape? letter = some c) :
    EscapeOf c ['\\', letter]
  | code (single : c.toNat < 0x10000) : EscapeOf c (unicodeEscape c.toNat)
  | plain (quote : c ≠ '"') (backslash : c ≠ '\\') (printable : ¬c.toNat < 32) : EscapeOf c [c]
  | pair (beyond : 0x10000 ≤ c.toNat) :
    EscapeOf c (unicodeEscape (0xD800 + (c.toNat - 0x10000) / 1024) ++
      unicodeEscape (0xDC00 + (c.toNat - 0x10000) % 1024))

theorem escapeOf_escapeChar (ascii : Bool) (c : Char) : EscapeOf c (escapeChar ascii c) := by
  rw [escapeChar]
  by_cases quote : c = '"'
  · rw [if_pos quote, quote]
    exact .letter (by decide) rfl
  rw [if_neg quote]
  by_cases backslash : c = '\\'
  · rw [if_pos backslash, backslash]
    exact .letter (by decide) rfl
  rw [if_neg backslash]
  by_cases newline : c = '\n'
  · rw [if_pos newline, newline]
    exact .letter (by decide) rfl
  rw [if_neg newline]
  by_cases carriage : c = '\r'
  · rw [if_pos carriage, carriage]
    exact .letter (by decide) rfl
  rw [if_neg carriage]
  by_cases tab : c = '\t'
  · rw [if_pos tab, tab]
    exact .letter (by decide) rfl
  rw [if_neg tab]
  by_cases backspace : c.toNat = 8
  · obtain rfl : c = Char.ofNat 8 := by rw [← backspace, Char.ofNat_toNat]
    exact .letter (by decide) rfl
  rw [if_neg backspace]
  by_cases feed : c.toNat = 12
  · obtain rfl : c = Char.ofNat 12 := by rw [← feed, Char.ofNat_toNat]
    exact .letter (by decide) rfl
  rw [if_neg feed]
  by_cases control : c.toNat < 32
  · rw [if_pos control]
    exact .code (by omega)
  rw [if_neg control]
  split
  · exact .plain quote backslash control
  by_cases single : c.toNat < 0x10000
  · rw [if_pos single]
    exact .code single
  · rw [if_neg single]
    exact .pair (by omega)

/-! ## Reading printed texts -/

/-- The four digits of a code unit that is no half of a pair are read as its character. -/
private theorem readUnicodeEscape_single {unit : Nat} (small : unit < 65536)
    (single : isHighSurrogate unit = false ∧ isLowSurrogate unit = false) (position : Nat)
    {rest : List Char} (more : rest ≠ []) :
    readUnicodeEscape ⟨position, 'u' :: (Text.hexDigits 4 unit ++ rest)⟩ =
      .ok (Char.ofNat unit, ⟨position + 5, rest⟩) := by
  have digits : ((Text.hexDigits 4 unit ++ rest).take 4) = Text.hexDigits 4 unit :=
    List.take_left' (Text.hexDigits_length 4 unit)
  have left : ((Text.hexDigits 4 unit ++ rest).drop 4) = rest :=
    List.drop_left' (Text.hexDigits_length 4 unit)
  have number : hexNumber? (Text.hexDigits 4 unit) = some unit := Text.hexNumber?_hexDigits small
  have unpaired : charOfUnit unit = Char.ofNat unit := by simp [charOfUnit, single]
  simp only [readUnicodeEscape, List.drop_succ_cons, List.drop_zero, digits, left, number]
  split
  · exact absurd rfl more
  · rename_i none
    cases none
  · rename_i code same
    cases same
    simp [single.1, unpaired, Cursor.advance, left]
  · rename_i code _ same
    cases same
    simp [unpaired, Cursor.advance, left]

/-- The digits of a pair are read as its one character. -/
private theorem readUnicodeEscape_pair {high low : Nat} (first : isHighSurrogate high = true)
    (second : isLowSurrogate low = true) (position : Nat) {rest : List Char} (more : rest ≠ []) :
    readUnicodeEscape ⟨position, 'u' :: (Text.hexDigits 4 high ++ (unicodeEscape low ++ rest))⟩ =
      .ok (Char.ofNat (0x10000 + (high - 0xD800) * 1024 + (low - 0xDC00)),
        ⟨position + 11, rest⟩) := by
  have smallHigh : high < 65536 := by
    simp only [isHighSurrogate, Bool.and_eq_true, decide_eq_true_eq] at first
    omega
  have smallLow : low < 65536 := by
    simp only [isLowSurrogate, Bool.and_eq_true, decide_eq_true_eq] at second
    omega
  have number : hexNumber? (Text.hexDigits 4 high) = some high := Text.hexNumber?_hexDigits smallHigh
  have other : hexNumber? (Text.hexDigits 4 low) = some low := Text.hexNumber?_hexDigits smallLow
  have long : 4 < (Text.hexDigits 4 low ++ rest).length := by
    rw [List.length_append, Text.hexDigits_length]
    have := List.length_pos_of_ne_nil more
    omega
  have left : ((Text.hexDigits 4 low ++ rest).drop 4) = rest :=
    List.drop_left' (Text.hexDigits_length 4 low)
  have digits : ((Text.hexDigits 4 low ++ rest).take 4) = Text.hexDigits 4 low :=
    List.take_left' (Text.hexDigits_length 4 low)
  simp only [readUnicodeEscape, List.drop_succ_cons, List.drop_zero,
    List.take_left' (Text.hexDigits_length 4 high), List.drop_left' (Text.hexDigits_length 4 high),
    number, unicodeEscape, List.cons_append, first, long, decide_true, Bool.and_self, ↓reduceIte,
    digits, other, second]
  have behind : ((Text.hexDigits 4 high ++ '\\' :: 'u' :: (Text.hexDigits 4 low ++ rest)).drop 10) =
      rest := by
    rw [show 10 = 4 + 6 from rfl, ← List.drop_drop,
      List.drop_left' (Text.hexDigits_length 4 high)]
    exact left
  rw [Cursor.advance, List.drop_succ_cons, behind]

section Reading
variable (start fuel : Nat) (read : List Char) (position : Nat) {rest : List Char}

/-- Behind a backslash and a `u` the code of a character is read. -/
private theorem readText_unicode {c : Char} {position behind : Nat} {digits : List Char}
    (escape : readUnicodeEscape ⟨position + 1, 'u' :: digits⟩ = .ok (c, ⟨behind, rest⟩)) :
    readText start (fuel + 1) read ⟨position, '\\' :: 'u' :: digits⟩ =
      readText start fuel (c :: read) ⟨behind, rest⟩ := by
  have read : readText start (fuel + 1) read ⟨position, '\\' :: 'u' :: digits⟩ =
      (readUnicodeEscape ⟨position + 1, 'u' :: digits⟩).bind fun found =>
        readText start fuel (found.1 :: read) found.2 := rfl
  rw [read, escape]
  rfl

/-- Behind a backslash another letter is read as what it stands for. -/
private theorem readText_letter {letter c : Char} (other : letter ≠ 'u')
    (stands : simpleEscape? letter = some c) :
    readText start (fuel + 1) read ⟨position, '\\' :: letter :: rest⟩ =
      readText start fuel (c :: read) ⟨position + 2, rest⟩ := by
  rw [readText]
  split
  · rename_i same
    cases same
  · rename_i same
    cases same
  · rename_i same
    cases same
  · rename_i same
    cases same
    exact absurd rfl other
  · rename_i same
    cases same
    rw [stands]
    rfl
  · rename_i none same
    cases same
    exact (none _ _ rfl rfl).elim

/-- A character that is neither special nor a control character is read as it is. -/
private theorem readText_plain {c : Char} (quote : c ≠ '"') (backslash : c ≠ '\\')
    (control : ¬c.toNat < 32) :
    readText start (fuel + 1) read ⟨position, c :: rest⟩ =
      readText start fuel (c :: read) ⟨position + 1, rest⟩ := by
  rw [readText]
  split
  · rename_i same
    cases same
  · rename_i same
    exact absurd (List.cons.inj same).1 quote
  · rename_i same
    exact absurd (List.cons.inj same).1 backslash
  · rename_i same
    exact absurd (List.cons.inj same).1 backslash
  · rename_i same
    exact absurd (List.cons.inj same).1 backslash
  · rename_i same
    obtain ⟨rfl, rfl⟩ := List.cons.inj same
    rw [if_neg control]
    rfl

/-- The escape of a character is read as the character, if the text goes on behind it. -/
theorem readText_escapeChar (ascii : Bool) (c : Char) (more : rest ≠ []) :
    ∃ behind, readText start (fuel + 1) read ⟨position, escapeChar ascii c ++ rest⟩ =
      readText start fuel (c :: read) ⟨behind, rest⟩ := by
  have valid : c.toNat < 0xD800 ∨ 0xDFFF < c.toNat ∧ c.toNat < 0x110000 := c.valid
  have form := escapeOf_escapeChar ascii c
  generalize escapeChar ascii c = written at form ⊢
  cases form with
  | letter other stands =>
    exact ⟨position + 2, readText_letter start fuel read position other stands⟩
  | code small =>
    have single : isHighSurrogate c.toNat = false ∧ isLowSurrogate c.toNat = false := by
      simp only [isHighSurrogate, isLowSurrogate, Bool.and_eq_false_iff, decide_eq_false_iff_not]
      omega
    have read := readUnicodeEscape_single (by omega) single (position + 1) more
    rw [Char.ofNat_toNat] at read
    exact ⟨position + 6, readText_unicode start fuel _ read⟩
  | plain quote backslash printable =>
    exact ⟨position + 1, readText_plain start fuel read position quote backslash printable⟩
  | pair beyond =>
    have first : isHighSurrogate (0xD800 + (c.toNat - 0x10000) / 1024) = true := by
      simp only [isHighSurrogate, Bool.and_eq_true, decide_eq_true_eq]
      omega
    have second : isLowSurrogate (0xDC00 + (c.toNat - 0x10000) % 1024) = true := by
      simp only [isLowSurrogate, Bool.and_eq_true, decide_eq_true_eq]
      omega
    have read := readUnicodeEscape_pair first second (position + 1) more
    have whole : 0x10000 + (0xD800 + (c.toNat - 0x10000) / 1024 - 0xD800) * 1024 +
        (0xDC00 + (c.toNat - 0x10000) % 1024 - 0xDC00) = c.toNat := by
      omega
    rw [whole, Char.ofNat_toNat, ← List.append_assoc] at read
    exact ⟨position + 12, readText_unicode start fuel _ read⟩

/-- What stands between the quotes of a printed text is read as the text. -/
theorem readText_escaped (ascii : Bool) (text : List Char) (rest : List Char) :
    ∃ behind, readText start (text.length + 1 + fuel) read
        ⟨position, text.flatMap (escapeChar ascii) ++ '"' :: rest⟩ =
      .ok (String.ofList (read.reverse ++ text), ⟨behind, rest⟩) := by
  induction text generalizing read position with
  | nil =>
    refine ⟨position + 1, ?_⟩
    rw [List.length_nil, Nat.zero_add, Nat.add_comm, List.append_nil]
    rfl
  | cons c text ih =>
    have more : text.flatMap (escapeChar ascii) ++ '"' :: rest ≠ [] := by simp
    obtain ⟨middle, first⟩ := readText_escapeChar start (text.length + 1 + fuel) read position ascii c
      more
    obtain ⟨behind, others⟩ := ih (c :: read) middle
    refine ⟨behind, ?_⟩
    rw [List.flatMap_cons, List.append_assoc, List.length_cons,
      show text.length + 1 + 1 + fuel = text.length + 1 + fuel + 1 by omega, first, others,
      List.reverse_cons, List.append_assoc, List.singleton_append]

end Reading

/-! ## Printed texts -/

/-- Different texts are printed differently. -/
theorem printText_inj {ascii : Bool} {text other : String} :
    printText ascii text = printText ascii other ↔ text = other := by
  constructor
  · intro same
    have inner : text.toList.flatMap (escapeChar ascii) ++ ['"'] =
        other.toList.flatMap (escapeChar ascii) ++ ['"'] := by
      have chars := congrArg String.toList same
      simpa only [printText, String.toList_ofList, List.cons_append, List.cons.injEq,
        true_and] using chars
    obtain ⟨_, one⟩ := readText_escaped 0 other.toList.length [] 0 ascii text.toList []
    obtain ⟨_, two⟩ := readText_escaped 0 text.toList.length [] 0 ascii other.toList []
    rw [inner, show text.toList.length + 1 + other.toList.length =
      other.toList.length + 1 + text.toList.length by omega, two] at one
    have found := congrArg Prod.fst (Except.ok.inj one)
    simpa using found.symm
  · rintro rfl
    rfl

private theorem after_unicodeEscape (loose : Bool) (depth unit : Nat) :
    (Place.inside depth).after loose (unicodeEscape unit) = .inside depth := by
  have plain : ∀ c ∈ Text.hexDigits 4 unit, Plain c := fun _ => Text.mem_hexDigits_plain
  exact Place.inside_after_plain plain loose depth

/-- An escape stays inside the text. -/
private theorem after_escapeChar (loose ascii : Bool) (depth : Nat) (c : Char) :
    (Place.inside depth).after loose (escapeChar ascii c) = .inside depth := by
  have form := escapeOf_escapeChar ascii c
  generalize escapeChar ascii c = written at form ⊢
  cases form with
  | letter other stands => rfl
  | code small => exact after_unicodeEscape loose depth _
  | plain quote backslash printable => simp [Place.next, quote, backslash]
  | pair beyond => rw [Place.after_append, after_unicodeEscape, after_unicodeEscape]

/-- A printed text is closed. -/
theorem closed_printText (ascii : Bool) (text : String) : Closed (printText ascii text).toList := by
  intro loose depth
  have within : ∀ chars : List Char,
      (Place.inside depth).after loose (chars.flatMap (escapeChar ascii)) = .inside depth := by
    intro chars
    induction chars with
    | nil => rfl
    | cons c rest ih => rw [List.flatMap_cons, Place.after_append, after_escapeChar, ih]
  have enters : (Place.outside depth).next loose '"' = .inside depth := rfl
  have leaves : (Place.inside depth).next loose '"' = .outside depth := rfl
  rw [printText, String.toList_ofList, List.cons_append, Place.after_cons, enters,
    Place.after_append, within, Place.after_cons, leaves, Place.after_nil]

end Json
end GraphCache
