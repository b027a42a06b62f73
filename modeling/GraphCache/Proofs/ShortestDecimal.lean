import GraphCache.Proofs.Delimiters
import GraphCache.Proofs.Doubles

/-! The shortest decimal of a number rounds to the number, and its text shows the decimal. So
different numbers have different texts. -/
namespace GraphCache

/-- The digits of a number in writing. -/
theorem toString_eq_digits (number : Nat) :
    (toString number).toList = Nat.toDigits 10 number := Nat.toList_repr

theorem toString_length (number : Nat) :
    (toString number).length = (Nat.toDigits 10 number).length := by
  rw [← toString_eq_digits, String.length_toList]

/-- A number is no smaller than the power of ten of its first digit. -/
theorem pow_le_of_digits {number : Nat} (positive : 0 < number) :
    10 ^ ((Nat.toDigits 10 number).length - 1) ≤ number := by
  by_contra small
  by_cases single : (Nat.toDigits 10 number).length - 1 = 0
  · rw [single, pow_zero] at small
    omega
  · have := (Nat.length_toDigits_le_iff (b := 10) (by decide) (Nat.pos_of_ne_zero single)).mpr
      (not_le.mp small)
    omega

theorem lt_pow_digits (number : Nat) : number < 10 ^ (Nat.toDigits 10 number).length :=
  (Nat.length_toDigits_le_iff (by decide) Nat.length_toDigits_pos).mp le_rfl

namespace Decimal

/-- The number that a decimal stands for. -/
def value (decimal : Decimal) : ℚ :=
  decimal.digits *
    10 ^ (decimal.leadingExponent - ((Nat.toDigits 10 decimal.digits).length : Int) + 1)

/-! ## The search for digits -/

/-- A fraction is no smaller than the power of ten of its leading digit. -/
theorem leadingExponentOf_le {numerator denominator : Nat} (above : 0 < numerator)
    (below : 0 < denominator) :
    (10 : ℚ) ^ leadingExponentOf numerator denominator ≤ numerator / denominator := by
  have divides : (0 : ℚ) < denominator := by exact_mod_cast below
  unfold leadingExponentOf
  rw [toString_length]
  dsimp only
  split
  · rename_i whole
    have positive : 0 < numerator / denominator := Nat.div_pos whole below
    have length := Nat.length_toDigits_pos (b := 10) (n := numerator / denominator)
    have power : (10 : ℚ) ^ ((Nat.toDigits 10 (numerator / denominator)).length - 1) ≤
        (numerator / denominator : Nat) := by
      exact_mod_cast pow_le_of_digits positive
    rw [show ((Nat.toDigits 10 (numerator / denominator)).length : Int) - 1 =
      (((Nat.toDigits 10 (numerator / denominator)).length - 1 : Nat) : Int) by omega, zpow_natCast]
    exact power.trans Nat.cast_div_le
  · rw [toString_length]
    split
    · rename_i reaches
      have length := Nat.length_toDigits_pos (b := 10) (n := denominator / numerator)
      have power : (denominator : ℚ) ≤
          numerator * 10 ^ ((Nat.toDigits 10 (denominator / numerator)).length - 1) := by
        exact_mod_cast reaches
      rw [show -(((Nat.toDigits 10 (denominator / numerator)).length : Int) - 1) =
        -(((Nat.toDigits 10 (denominator / numerator)).length - 1 : Nat) : Int) by omega, zpow_neg,
        zpow_natCast, inv_eq_one_div, div_le_div_iff₀ (by positivity) divides, one_mul]
      exact power
    · have power : (denominator : ℚ) ≤
          numerator * 10 ^ (Nat.toDigits 10 (denominator / numerator)).length := by
        have := (Nat.div_lt_iff_lt_mul above).mp (lt_pow_digits (denominator / numerator))
        rw [mul_comm] at this
        exact_mod_cast this.le
      rw [zpow_neg, zpow_natCast, inv_eq_one_div, div_le_div_iff₀ (by positivity) divides, one_mul]
      exact power

variable {number : Ratio} {interval : Interval}

private theorem below_eq (number : Ratio) (step : Int) :
    (if step < 0 then number.numerator * Nat.pow 10 step.natAbs / number.denominator
      else number.numerator / (number.denominator * Nat.pow 10 step.natAbs)) =
      Binary64.floorAt 10 number.numerator number.denominator step := rfl

/-- What is found on a grid is in the interval. -/
theorem onGrid?_contains {leading : Int} {count digits : Nat}
    (found : onGrid? number interval leading count = some digits) :
    interval.contains (Ratio.ofDigits digits (leading - count + 1)) = true := by
  unfold onGrid? at found
  dsimp only at found
  rw [below_eq] at found
  generalize Binary64.floorAt 10 _ _ _ = below at found
  split at found
  · rename_i lower _
    cases found
    exact lower
  · rename_i _ upper
    cases found
    exact upper
  · cases found
  · rename_i lower upper
    split_ifs at found <;> cases found <;> assumption

/-- Of the two neighbours on a grid one is found, if one is in the interval. -/
theorem onGrid?_isSome (leading : Int) (count : Nat)
    (inside : interval.contains (Ratio.ofDigits (Binary64.floorAt 10 number.numerator
        number.denominator (leading - count + 1)) (leading - count + 1)) = true ∨
      interval.contains (Ratio.ofDigits (Binary64.floorAt 10 number.numerator
        number.denominator (leading - count + 1) + 1) (leading - count + 1)) = true) :
    (onGrid? number interval leading count).isSome := by
  unfold onGrid?
  dsimp only
  rw [below_eq]
  split
  · rfl
  · rfl
  · rename_i lower upper
    simp [lower, upper] at inside
  · split_ifs <;> rfl

/-- Dropping zeros keeps the number of digits beside the zeros. -/
theorem dropZeros_spec (fuel : Nat) {digits : Nat} (positive : 0 < digits) :
    ∃ zeros, digits = dropZeros fuel digits * 10 ^ zeros ∧ 0 < dropZeros fuel digits ∧
      (Nat.toDigits 10 digits).length =
        (Nat.toDigits 10 (dropZeros fuel digits)).length + zeros := by
  induction fuel generalizing digits with
  | zero => exact ⟨0, by simp [dropZeros], positive, rfl⟩
  | succ fuel ih =>
    rw [dropZeros]
    split
    · rename_i zero
      have shorter : 0 < digits / 10 := by omega
      obtain ⟨zeros, whole, some, length⟩ := ih shorter
      refine ⟨zeros + 1, ?_, some, ?_⟩
      · rw [pow_succ, ← mul_assoc, ← whole]
        omega
      · rw [Nat.toDigits_eq_if (by decide), if_neg (by omega), List.length_append, length]
        rfl
    · exact ⟨0, by simp, positive, rfl⟩

/-- Digits on a grid without their zeros stand for the same number. -/
private theorem value_dropZeros {digits count : Nat} (positive : 0 < digits) (leading : Int) :
    value ⟨dropZeros (toString digits).length digits,
      leading + (((toString digits).length : Int) - count)⟩ =
      digits * 10 ^ (leading - count + 1) := by
  rw [toString_length]
  obtain ⟨zeros, whole, _, length⟩ := dropZeros_spec (Nat.toDigits 10 digits).length positive
  generalize dropZeros (Nat.toDigits 10 digits).length digits = short at whole length ⊢
  rw [value, length, whole]
  push_cast
  rw [mul_assoc, ← zpow_natCast, ← zpow_add₀ (by norm_num)]
  congr 2
  ring

/-- Seventeen digits are enough. -/
private theorem onGrid?_seventeen {mantissa : Nat} {exponent : Int} (positive : 0 < mantissa)
    (scaled : Binary64.Scaled mantissa exponent) :
    (onGrid? (Ratio.ofPower mantissa exponent) (Interval.around mantissa exponent)
      (leadingExponentOf (Ratio.ofPower mantissa exponent).numerator
        (Ratio.ofPower mantissa exponent).denominator) 17).isSome := by
  obtain ⟨number, divides⟩ := Ratio.toRat_ofPower mantissa exponent
  have bounded := Interval.bounded_around mantissa exponent
  generalize Ratio.ofPower mantissa exponent = ratio at number divides ⊢
  have above : 0 < ratio.numerator := by
    by_contra zero
    have nothing : ratio.numerator = 0 := by omega
    have some : (0 : ℚ) < mantissa * 2 ^ exponent := by positivity
    rw [← number, Ratio.toRat, nothing, Nat.cast_zero, zero_div] at some
    exact lt_irrefl _ some
  have reaches := leadingExponentOf_le above divides
  generalize leadingExponentOf ratio.numerator ratio.denominator = leading at reaches ⊢
  have floor (bound : Nat) : bound ≤ Binary64.floorAt 10 ratio.numerator ratio.denominator
      (leading - (17 : Nat) + 1) ↔ _ :=
    Binary64.le_floorAt (by decide) divides _ bound
  refine onGrid?_isSome leading 17 ?_
  generalize Binary64.floorAt 10 ratio.numerator ratio.denominator (leading - (17 : Nat) + 1) =
    below at floor ⊢
  have lower := (floor below).mp le_rfl
  have upper : ¬((below + 1 : Nat) : ℚ) * ((10 : Nat) : ℚ) ^ (leading - (17 : Nat) + 1) ≤
      ratio.numerator / ratio.denominator := fun inside =>
    absurd ((floor (below + 1)).mpr inside) (by omega)
  rw [← Ratio.toRat, number] at lower upper reaches
  have fine : 10 ^ 16 * (10 : ℚ) ^ (leading - (17 : Nat) + 1) ≤ mantissa * 2 ^ exponent := by
    refine le_trans (le_of_eq ?_) reaches
    rw [← zpow_natCast (10 : ℚ) 16, ← zpow_add₀ (by norm_num)]
    congr 1
    push_cast
    ring
  rw [Interval.contains_iff bounded (Ratio.toRat_ofDigits _ _).2,
    Interval.contains_iff bounded (Ratio.toRat_ofDigits _ _).2, (Ratio.toRat_ofDigits _ _).1,
    (Ratio.toRat_ofDigits _ _).1]
  push_cast at lower upper ⊢
  rw [add_mul, one_mul] at upper ⊢
  exact around_grid positive scaled fine lower (not_le.mp upper)

/-- The shortest decimal rounds to its number. -/
theorem shortest_holds {mantissa : Nat} {exponent : Int} (positive : 0 < mantissa)
    (scaled : Binary64.Scaled mantissa exponent) :
    (Interval.around mantissa exponent).Holds (shortest mantissa exponent).value ∧
      0 < (shortest mantissa exponent).digits := by
  have enough := onGrid?_seventeen positive scaled
  have bounded := Interval.bounded_around mantissa exponent
  unfold shortest
  dsimp only
  generalize leadingExponentOf _ _ = leading at enough ⊢
  cases searched : (List.range 17).findSome? fun index =>
      (onGrid? (Ratio.ofPower mantissa exponent) (Interval.around mantissa exponent) leading
        (index + 1)).map fun digits => (digits, index + 1) with
  | none =>
    have nothing := List.findSome?_eq_none_iff.mp searched 16 (by decide)
    rw [Option.map_eq_none_iff] at nothing
    rw [nothing] at enough
    cases enough
  | some found =>
    obtain ⟨index, _, grid⟩ := List.exists_of_findSome?_eq_some searched
    obtain ⟨digits, own, rfl⟩ := Option.map_eq_some_iff.mp grid
    have inside := onGrid?_contains own
    rw [Interval.contains_iff bounded (Ratio.toRat_ofDigits _ _).2, (Ratio.toRat_ofDigits _ _).1]
      at inside
    have some : 0 < digits := by
      by_contra zero
      have nothing : digits = 0 := by omega
      have := inside.pos positive
      rw [nothing, Nat.cast_zero, zero_mul] at this
      exact lt_irrefl _ this
    dsimp only
    rw [value_dropZeros some]
    obtain ⟨_, _, left, _⟩ := dropZeros_spec (toString digits).length some
    exact ⟨inside, left⟩

/-! ## Reading a decimal -/

/-- The exponent behind the digits of a number. -/
def exponentOf : List Char → Int
  | 'e' :: '-' :: digits => -(Nat.ofDigitChars 10 digits 0 : Int)
  | 'e' :: '+' :: digits => Nat.ofDigitChars 10 digits 0
  | _ => 0

theorem exponentOf_nil : exponentOf [] = 0 := rfl

/-- The number that a text without a sign stands for: digits, a point with more digits or none, an
exponent or none. -/
def reading (text : List Char) : ℚ :=
  let behind := text.dropWhile Char.isDigit
  let pointed := behind.head? == some '.'
  let fraction := if pointed then behind.tail.takeWhile Char.isDigit else []
  let rest := if pointed then behind.tail.dropWhile Char.isDigit else behind
  Nat.ofDigitChars 10 (text.takeWhile Char.isDigit ++ fraction) 0 *
    10 ^ (exponentOf rest - (fraction.length : Int))

/-- A text that no digit begins. -/
def EndsDigits (rest : List Char) : Prop := ∀ c more, rest = c :: more → c.isDigit = false

theorem endsDigits_nil : EndsDigits [] := by
  intro c more same
  cases same

theorem takeWhile_digits {digits rest : List Char} (all : ∀ c ∈ digits, c.isDigit = true)
    (ends : EndsDigits rest) :
    (digits ++ rest).takeWhile Char.isDigit = digits ∧
      (digits ++ rest).dropWhile Char.isDigit = rest := by
  rw [List.takeWhile_append_of_pos all, List.dropWhile_append_of_pos all]
  cases rest with
  | nil => simp
  | cons c more =>
    have other := ends c more rfl
    simp [other]

theorem reading_point {whole fraction rest : List Char} (one : ∀ c ∈ whole, c.isDigit = true)
    (two : ∀ c ∈ fraction, c.isDigit = true) (ends : EndsDigits rest) :
    reading (whole ++ '.' :: (fraction ++ rest)) =
      Nat.ofDigitChars 10 (whole ++ fraction) 0 *
        10 ^ (exponentOf rest - (fraction.length : Int)) := by
  have point : EndsDigits ('.' :: (fraction ++ rest)) := by
    intro c more same
    cases same
    rfl
  obtain ⟨taken, dropped⟩ := takeWhile_digits one point
  obtain ⟨inner, outer⟩ := takeWhile_digits two ends
  simp only [reading, taken, dropped, List.head?_cons, List.tail_cons, inner, outer, beq_self_eq_true,
    if_true]

theorem reading_whole {whole rest : List Char} (one : ∀ c ∈ whole, c.isDigit = true)
    (ends : EndsDigits rest) (pointless : rest.head? ≠ some '.') :
    reading (whole ++ rest) = Nat.ofDigitChars 10 whole 0 * 10 ^ exponentOf rest := by
  obtain ⟨taken, dropped⟩ := takeWhile_digits one ends
  simp [reading, taken, dropped, pointless]

private theorem zeros_isDigit {count : Nat} : ∀ c ∈ List.replicate count '0', c.isDigit = true := by
  intro c member
  rw [List.eq_of_mem_replicate member]
  rfl

private theorem zero_isDigit : ∀ c ∈ ['0'], c.isDigit = true := by
  intro c member
  rw [List.mem_singleton.mp member]
  rfl

section Digits
variable {digits : List Char} (all : ∀ c ∈ digits, c.isDigit = true)
include all

/-- Zeros between the point and the digits. -/
private theorem reading_below (count : Nat) :
    reading (['0'] ++ '.' :: (List.replicate count '0' ++ digits)) =
      Nat.ofDigitChars 10 digits 0 * 10 ^ (-((count + digits.length : Nat) : Int)) := by
  have each : ∀ c ∈ List.replicate count '0' ++ digits, c.isDigit = true := by
    intro c member
    exact (List.mem_append.mp member).elim (zeros_isDigit c) (all c)
  have read := reading_point zero_isDigit each endsDigits_nil
  rw [List.append_nil] at read
  rw [read, List.length_append, List.length_replicate, exponentOf_nil, Int.zero_sub]
  congr 2
  simp [Nat.ofDigitChars_append, Nat.ofDigitChars_cons]

/-- Zeros between the digits and the point. -/
private theorem reading_filled (count : Nat) :
    reading ((digits ++ List.replicate count '0') ++ '.' :: ['0']) =
      Nat.ofDigitChars 10 digits 0 * 10 ^ (count : Int) := by
  have each : ∀ c ∈ digits ++ List.replicate count '0', c.isDigit = true := by
    intro c member
    exact (List.mem_append.mp member).elim (all c) (zeros_isDigit c)
  have read := reading_point each zero_isDigit endsDigits_nil
  rw [List.append_nil] at read
  rw [read, exponentOf_nil, Nat.ofDigitChars_append, Nat.ofDigitChars_append,
    Nat.ofDigitChars_replicate_zero, zpow_natCast]
  simp only [Nat.ofDigitChars_cons, Nat.ofDigitChars_nil, List.length_singleton]
  push_cast
  rw [zpow_neg_one]
  field_simp
  ring

/-- The point among the digits. -/
private theorem reading_split (place : Nat) :
    reading (digits.take place ++ '.' :: digits.drop place) =
      Nat.ofDigitChars 10 digits 0 * 10 ^ (-((digits.length - place : Nat) : Int)) := by
  have read : reading (digits.take place ++ '.' :: (digits.drop place ++ [])) = _ :=
    reading_point (fun c member => all c (List.mem_of_mem_take member))
      (fun c member => all c (List.mem_of_mem_drop member)) endsDigits_nil
  rw [List.append_nil, List.take_append_drop] at read
  rw [read, List.length_drop, exponentOf_nil, Int.zero_sub]

/-- One digit before the point, or no point, and an exponent. -/
private theorem reading_exponential (some : 0 < digits.length) {rest : List Char}
    (ends : EndsDigits rest) (pointless : rest.head? ≠ Option.some '.') :
    reading (digits.take 1 ++ (if digits.length ≤ 1 then [] else '.' :: digits.drop 1) ++ rest) =
      Nat.ofDigitChars 10 digits 0 * 10 ^ (exponentOf rest - ((digits.length - 1 : Nat) : Int)) := by
  split
  · rename_i single
    rw [List.append_nil, List.take_of_length_le single, reading_whole all ends pointless]
    congr 2
    omega
  · have read : reading (digits.take 1 ++ '.' :: (digits.drop 1 ++ rest)) = _ :=
      reading_point (fun c member => all c (List.mem_of_mem_take member))
        (fun c member => all c (List.mem_of_mem_drop member)) ends
    rw [List.take_append_drop, List.length_drop] at read
    rw [List.append_assoc]
    exact read

end Digits

/-- The digits of an exponent, two at least. -/
private def exponentDigits (size : Nat) : List Char :=
  if (toString size).length < 2 then '0' :: (toString size).toList else (toString size).toList

/-- An exponent with its sign, as it is written. -/
private def exponentText (leading : Int) : List Char :=
  'e' :: (if leading < 0 then '-' else '+') :: exponentDigits leading.natAbs

private theorem mem_exponentDigits {size : Nat} {c : Char} (member : c ∈ exponentDigits size) :
    c.isDigit = true := by
  have own : ∀ c ∈ (toString size).toList, c.isDigit = true := by
    rw [toString_eq_digits]
    exact fun c member => Nat.isDigit_of_mem_toDigits (by decide) le_rfl member
  unfold exponentDigits at member
  split at member
  · obtain rfl | later := List.mem_cons.mp member
    · rfl
    · exact own c later
  · exact own c member

private theorem exponentOf_exponentText (leading : Int) :
    exponentOf (exponentText leading) = leading := by
  have size : Nat.ofDigitChars 10 (exponentDigits leading.natAbs) 0 = leading.natAbs := by
    have own : Nat.ofDigitChars 10 (toString leading.natAbs).toList 0 = leading.natAbs := by
      rw [toString_eq_digits, Nat.ofDigitChars_toDigits (by decide) le_rfl]
    unfold exponentDigits
    split
    · exact own
    · exact own
  unfold exponentText
  split
  · rw [exponentOf, size]
    omega
  · rw [exponentOf, size]
    omega

/-- The four ways to write a decimal: with an exponent, with zeros behind the point, with zeros
before the point, and with the point among the digits. -/
theorem render_cases (layout : Layout) (decimal : Decimal) :
    ((render layout decimal).toList = (Nat.toDigits 10 decimal.digits).take 1 ++
        (if (Nat.toDigits 10 decimal.digits).length ≤ 1 then []
          else '.' :: (Nat.toDigits 10 decimal.digits).drop 1) ++
        exponentText decimal.leadingExponent) ∨
      (decimal.leadingExponent < 0 ∧ (render layout decimal).toList = ['0'] ++ '.' ::
        (List.replicate (decimal.leadingExponent.natAbs - 1) '0' ++
          Nat.toDigits 10 decimal.digits)) ∨
      (0 ≤ decimal.leadingExponent ∧
        (Nat.toDigits 10 decimal.digits).length ≤ decimal.leadingExponent.toNat + 1 ∧
        (render layout decimal).toList = (Nat.toDigits 10 decimal.digits ++ List.replicate
          (decimal.leadingExponent.toNat + 1 - (Nat.toDigits 10 decimal.digits).length) '0') ++
            '.' :: ['0']) ∨
      (0 ≤ decimal.leadingExponent ∧
        decimal.leadingExponent.toNat + 1 < (Nat.toDigits 10 decimal.digits).length ∧
        (render layout decimal).toList =
          (Nat.toDigits 10 decimal.digits).take (decimal.leadingExponent.toNat + 1) ++
            '.' :: (Nat.toDigits 10 decimal.digits).drop (decimal.leadingExponent.toNat + 1)) := by
  unfold render
  dsimp only
  rw [toString_eq_digits]
  generalize Nat.toDigits 10 decimal.digits = digits
  split
  · refine .inl ?_
    unfold exponentText exponentDigits
    simp only [String.toList_append, String.toList_ofList, apply_ite String.toList]
    split_ifs <;> simp
  · split
    · rename_i negative
      exact .inr (.inl ⟨negative, by simp [zeros, String.toList_append]⟩)
    · rename_i nonneg
      split
      · rename_i fits
        exact .inr (.inr (.inl ⟨by omega, fits, by simp [zeros, String.toList_append]⟩))
      · exact .inr (.inr (.inr ⟨by omega, by omega, by simp [String.toList_append]⟩))

/-- The text of a decimal stands for its number. -/
theorem reading_render (layout : Layout) (decimal : Decimal) :
    reading (render layout decimal).toList = decimal.value := by
  have number : Nat.ofDigitChars 10 (Nat.toDigits 10 decimal.digits) 0 = decimal.digits :=
    Nat.ofDigitChars_toDigits (by decide) le_rfl
  have some : 0 < (Nat.toDigits 10 decimal.digits).length := Nat.length_toDigits_pos
  have all : ∀ c ∈ Nat.toDigits 10 decimal.digits, c.isDigit = true :=
    fun _ member => Nat.isDigit_of_mem_toDigits (by decide) le_rfl member
  unfold value
  obtain text | ⟨small, text⟩ | ⟨large, fits, text⟩ | ⟨large, longer, text⟩ :=
    render_cases layout decimal
  · have ends : EndsDigits (exponentText decimal.leadingExponent) := by
      intro c more same
      cases same
      rfl
    rw [text, reading_exponential all some ends (by simp [exponentText]), exponentOf_exponentText,
      number]
    congr 2
    omega
  · rw [text, reading_below all, number]
    congr 2
    omega
  · rw [text, reading_filled all, number]
    congr 2
    omega
  · rw [text, reading_split all, number]
    congr 2
    omega

/-- The characters of a decimal's text. -/
def Numeric (c : Char) : Prop := c.isDigit = true ∨ c ∈ ['.', 'e', '+', '-']

private theorem numeric_exponentText {leading : Int} {c : Char}
    (member : c ∈ exponentText leading) : Numeric c := by
  obtain rfl | member := List.mem_cons.mp member
  · exact .inr (by simp)
  obtain rfl | member := List.mem_cons.mp member
  · split <;> exact .inr (by simp)
  · exact .inl (mem_exponentDigits member)

/-- The text of a decimal begins with a digit and has a point or an exponent. -/
theorem render_shape (layout : Layout) (decimal : Decimal) :
    ∃ first rest, (render layout decimal).toList = first :: rest ∧ first.isDigit = true ∧
      (∀ c ∈ rest, Numeric c) ∧ ('.' ∈ rest ∨ 'e' ∈ rest) := by
  have all : ∀ c ∈ Nat.toDigits 10 decimal.digits, c.isDigit = true :=
    fun _ member => Nat.isDigit_of_mem_toDigits (by decide) le_rfl member
  have some : Nat.toDigits 10 decimal.digits ≠ [] :=
    List.ne_nil_of_length_pos Nat.length_toDigits_pos
  have cases := render_cases layout decimal
  obtain ⟨first, rest, digits⟩ := List.exists_cons_of_ne_nil some
  rw [digits] at all cases
  obtain ⟨own, others⟩ := List.forall_mem_cons.mp all
  have point : Numeric '.' := .inr (by simp)
  obtain text | ⟨_, text⟩ | ⟨_, _, text⟩ | ⟨_, _, text⟩ := cases
  · refine ⟨first, _, text, own, ?_, .inr ?_⟩
    · intro c member
      rcases List.mem_append.mp member with inner | behind
      · split at inner
        · cases inner
        · rcases List.mem_cons.mp inner with rfl | inner
          · exact point
          · exact .inl (others c inner)
      · exact numeric_exponentText behind
    · exact List.mem_append_right _ List.mem_cons_self
  · refine ⟨'0', _, text, rfl, ?_, .inl (by simp)⟩
    intro c member
    rcases List.mem_cons.mp member with rfl | member
    · exact point
    · rcases List.mem_append.mp member with zero | digit
      · exact .inl (zeros_isDigit c zero)
      · exact .inl (all c digit)
  · refine ⟨first, _, text, own, ?_, .inl (by simp)⟩
    intro c member
    rcases List.mem_append.mp member with before | behind
    · rcases List.mem_append.mp before with digit | zero
      · exact .inl (others c digit)
      · exact .inl (zeros_isDigit c zero)
    · rcases List.mem_cons.mp behind with rfl | zero
      · exact point
      · exact .inl (zero_isDigit c zero)
  · refine ⟨first, _, text, own, ?_, .inl (by simp)⟩
    intro c member
    rcases List.mem_append.mp member with before | behind
    · exact .inl (others c (List.mem_of_mem_take before))
    · rcases List.mem_cons.mp behind with rfl | digit
      · exact point
      · exact .inl (others c (List.mem_of_mem_drop digit))

end Decimal

/-! ## Texts of numbers -/

namespace Binary64

/-- The text of a number without its sign. -/
def sizeText (layout : Decimal.Layout) : Binary64 → String
  | notANumber => layout.notANumber
  | infinite _ => layout.infinity
  | finite _ mantissa exponent =>
    if mantissa = 0 then "0.0" else Decimal.render layout (Decimal.shortest mantissa exponent)

/-- Whether a number has a minus sign. -/
def isNegative : Binary64 → Bool
  | notANumber => false
  | infinite negative => negative
  | finite negative _ _ => negative

theorem render_eq (layout : Decimal.Layout) (number : Binary64) :
    number.render layout = (if number.isNegative then "-" else "") ++ number.sizeText layout := by
  cases number with
  | notANumber => simp [render, isNegative, sizeText]
  | infinite negative => rfl
  | finite negative mantissa exponent => rfl

/-- The text of a finite number begins with a digit and has a point or an exponent. -/
theorem sizeText_shape (layout : Decimal.Layout) (negative : Bool) (mantissa : Nat) (exponent : Int) :
    ∃ first rest, ((finite negative mantissa exponent).sizeText layout).toList = first :: rest ∧
      first.isDigit = true ∧ (∀ c ∈ rest, Decimal.Numeric c) ∧ ('.' ∈ rest ∨ 'e' ∈ rest) := by
  by_cases zero : mantissa = 0
  · refine ⟨'0', ['.', '0'], by simp [sizeText, zero], rfl, ?_, .inl List.mem_cons_self⟩
    intro c member
    rcases List.mem_cons.mp member with rfl | member
    · exact .inr (by simp)
    · rw [List.mem_singleton.mp member]
      exact .inl rfl
  · rw [sizeText, if_neg zero]
    exact Decimal.render_shape layout _

private theorem reading_sizeText (layout : Decimal.Layout) (negative : Bool) (mantissa : Nat)
    (exponent : Int) :
    Decimal.reading ((finite negative mantissa exponent).sizeText layout).toList =
      if mantissa = 0 then 0 else (Decimal.shortest mantissa exponent).value := by
  by_cases zero : mantissa = 0
  · have text : ((finite negative mantissa exponent).sizeText layout).toList =
        ['0'] ++ '.' :: (['0'] ++ []) := by
      simp [sizeText, zero]
    have digit : ∀ c ∈ ['0'], c.isDigit = true := by
      intro c member
      rw [List.mem_singleton.mp member]
      rfl
    rw [text, Decimal.reading_point digit digit Decimal.endsDigits_nil, if_pos zero]
    simp [Nat.ofDigitChars_cons]
  · rw [sizeText, if_neg zero, if_neg zero]
    exact Decimal.reading_render layout _

/-- The size of a finite number in its only form is shown by the text. -/
theorem sizeText_inj {layout : Decimal.Layout} {negative negative' : Bool}
    {mantissa mantissa' : Nat} {exponent exponent' : Int} (one : Scaled mantissa exponent)
    (two : Scaled mantissa' exponent')
    (same : (finite negative mantissa exponent).sizeText layout =
      (finite negative' mantissa' exponent').sizeText layout) :
    mantissa = mantissa' ∧ exponent = exponent' := by
  have read := reading_sizeText layout negative mantissa exponent
  rw [same, reading_sizeText] at read
  have positive : ∀ {mantissa exponent}, Scaled mantissa exponent → mantissa ≠ 0 →
      0 < (Decimal.shortest mantissa exponent).value := fun scaled some =>
    (Decimal.shortest_holds (Nat.pos_of_ne_zero some) scaled).1.pos (Nat.pos_of_ne_zero some)
  split_ifs at read with zero' zero zero
  · subst zero zero'
    have least := one.full.resolve_right (by decide)
    exact ⟨rfl, least.trans (two.full.resolve_right (by decide)).symm⟩
  · exact absurd read (positive one zero).ne
  · exact absurd read (positive two zero').ne'
  · have some := Nat.pos_of_ne_zero zero
    have some' := Nat.pos_of_ne_zero zero'
    have inside := (Decimal.shortest_holds some' two).1
    rw [read] at inside
    exact Decimal.around_unique some some' one two (Decimal.shortest_holds some one).1 inside

private theorem infinity_text (negative : Bool) :
    ((infinite negative).sizeText Decimal.valueLayout).toList =
      ['I', 'n', 'f', 'i', 'n', 'i', 't', 'y'] := by
  have text : (infinite negative).sizeText Decimal.valueLayout = "Infinity" := rfl
  rw [text]
  decide

private theorem notANumber_text :
    (notANumber.sizeText Decimal.valueLayout).toList = ['N', 'a', 'N'] := by
  decide

/-- No text of a size begins with a sign or a small letter. -/
private theorem sizeText_head (number : Binary64) :
    ∃ c rest, (number.sizeText Decimal.valueLayout).toList = c :: rest ∧ c ≠ '-' ∧
      c.isLower = false := by
  cases number with
  | notANumber => exact ⟨'N', _, notANumber_text, by decide, rfl⟩
  | infinite negative => exact ⟨'I', _, infinity_text negative, by decide, rfl⟩
  | finite negative mantissa exponent =>
    obtain ⟨c, rest, text, digit, _⟩ := sizeText_shape Decimal.valueLayout negative mantissa exponent
    refine ⟨c, rest, text, ?_, ?_⟩
    · rintro rfl
      cases digit
    · simp only [Char.isDigit, Char.isLower, Bool.and_eq_true, decide_eq_true_eq,
        Bool.and_eq_false_iff, decide_eq_false_iff_not] at digit ⊢
      exact .inl fun small => absurd (UInt32.le_trans small digit.2) (by decide)

/-- No text of a number begins with a small letter. -/
theorem render_head (number : Binary64) :
    ∃ c rest, (number.render Decimal.valueLayout).toList = c :: rest ∧ c.isLower = false := by
  obtain ⟨c, rest, text, _, big⟩ := sizeText_head number
  rw [render_eq, String.toList_append, text]
  split
  · exact ⟨'-', _, rfl, rfl⟩
  · exact ⟨c, rest, rfl, big⟩

/-- A text shows the sign and the size. -/
private theorem render_parts {first second : Binary64}
    (same : first.render Decimal.valueLayout = second.render Decimal.valueLayout) :
    first.isNegative = second.isNegative ∧
      first.sizeText Decimal.valueLayout = second.sizeText Decimal.valueLayout := by
  obtain ⟨c, rest, text, unsigned, _⟩ := sizeText_head first
  obtain ⟨c', rest', text', unsigned', _⟩ := sizeText_head second
  have chars := congrArg String.toList same
  rw [render_eq, render_eq, String.toList_append, String.toList_append, text, text'] at chars
  cases one : first.isNegative <;> cases two : second.isNegative <;> rw [one, two] at chars
  · exact ⟨rfl, String.toList_inj.mp (text.trans (chars.trans text'.symm))⟩
  · exact absurd (List.cons.inj chars).1 unsigned
  · exact absurd (List.cons.inj chars).1.symm unsigned'
  · exact ⟨rfl, String.toList_inj.mp (text.trans ((List.cons.inj chars).2.trans text'.symm))⟩

/-- Numbers in their only form have different texts unless they are the same. -/
theorem render_inj {first second : Binary64} (one : first.Normal) (two : second.Normal)
    (same : first.render Decimal.valueLayout = second.render Decimal.valueLayout) :
    first = second := by
  obtain ⟨signs, sizes⟩ := render_parts same
  have letter : ∀ negative mantissa exponent (c : Char) (rest : List Char), c.isDigit = false →
      ((finite negative mantissa exponent).sizeText Decimal.valueLayout).toList ≠ c :: rest := by
    intro negative mantissa exponent c rest other text
    obtain ⟨first, more, shown, digit, _⟩ :=
      sizeText_shape Decimal.valueLayout negative mantissa exponent
    cases shown.symm.trans text
    rw [other] at digit
    cases digit
  have chars := congrArg String.toList sizes
  match first, second, one, two with
  | notANumber, notANumber, _, _ => rfl
  | infinite negative, infinite other, _, _ => rw [show negative = other from signs]
  | finite negative mantissa exponent, finite other mantissa' exponent', one, two =>
    obtain ⟨rfl, rfl⟩ := sizeText_inj one two sizes
    rw [show negative = other from signs]
  | notANumber, infinite negative, _, _ =>
    cases notANumber_text.symm.trans (chars.trans (infinity_text negative))
  | infinite negative, notANumber, _, _ =>
    cases notANumber_text.symm.trans (chars.symm.trans (infinity_text negative))
  | notANumber, finite .., _, _ => exact absurd (chars.symm.trans notANumber_text) (letter _ _ _ _ _ rfl)
  | finite .., notANumber, _, _ => exact absurd (chars.trans notANumber_text) (letter _ _ _ _ _ rfl)
  | infinite negative, finite .., _, _ =>
    exact absurd (chars.symm.trans (infinity_text negative)) (letter _ _ _ _ _ rfl)
  | finite .., infinite negative, _, _ =>
    exact absurd (chars.trans (infinity_text negative)) (letter _ _ _ _ _ rfl)

/-- The text of a number says nothing to a reader of brackets and quotes. -/
theorem plain_of_mem_render {number : Binary64} {c : Char}
    (member : c ∈ (number.render Decimal.valueLayout).toList) : Plain c := by
  have plain : ∀ c ∈ (number.sizeText Decimal.valueLayout).toList, Plain c := by
    cases number with
    | notANumber =>
      rw [notANumber_text]
      simp [Plain]
    | infinite negative =>
      rw [infinity_text]
      simp [Plain]
    | finite negative mantissa exponent =>
      obtain ⟨first, rest, text, digit, numeric, _⟩ :=
        sizeText_shape Decimal.valueLayout negative mantissa exponent
      rw [text]
      refine List.forall_mem_cons.mpr ⟨plain_of_isDigit digit, fun c member => ?_⟩
      obtain digit | sign := numeric c member
      · exact plain_of_isDigit digit
      · have signs : ∀ c ∈ ['.', 'e', '+', '-'], Plain c := by simp [Plain]
        exact signs c sign
  rw [render_eq, String.toList_append] at member
  obtain sign | size := List.mem_append.mp member
  · split at sign
    · rw [List.mem_singleton.mp sign]
      decide
    · cases sign
  · exact plain c size

/-- A number of double precision is not written like a whole one. -/
theorem render_marked (number : Binary64) :
    ∃ c ∈ (number.render Decimal.valueLayout).toList, c.isDigit = false ∧ c ≠ '-' := by
  have marked : ∃ c ∈ (number.sizeText Decimal.valueLayout).toList,
      c.isDigit = false ∧ c ≠ '-' := by
    cases number with
    | notANumber =>
      rw [notANumber_text]
      exact ⟨'N', List.mem_cons_self, rfl, by decide⟩
    | infinite negative =>
      rw [infinity_text]
      exact ⟨'I', List.mem_cons_self, rfl, by decide⟩
    | finite negative mantissa exponent =>
      obtain ⟨first, rest, text, _, _, point | exponent⟩ :=
        sizeText_shape Decimal.valueLayout negative mantissa exponent
      · rw [text]
        exact ⟨'.', List.mem_cons_of_mem _ point, rfl, by decide⟩
      · rw [text]
        exact ⟨'e', List.mem_cons_of_mem _ exponent, rfl, by decide⟩
  obtain ⟨c, member, own⟩ := marked
  rw [render_eq, String.toList_append]
  exact ⟨c, List.mem_append_right _ member, own⟩

end Binary64
end GraphCache
