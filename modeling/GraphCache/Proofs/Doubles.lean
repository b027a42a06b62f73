import GraphCache.Number.Shortest
import Mathlib

/-! Double precision numbers in their only form. Every number that is rounded from a decimal has
all the bits of its mantissa unless it is one of the smallest, and what rounds to one such
number rounds to no other. -/
namespace GraphCache

namespace Binary64

/-- The mantissa and the exponent of a finite number in its only form. -/
structure Scaled (mantissa : Nat) (exponent : Int) : Prop where
  bits : mantissa < 2 ^ 53
  least : leastExponent ≤ exponent
  greatest : exponent ≤ greatestExponent
  full : exponent = leastExponent ∨ 2 ^ 52 ≤ mantissa

/-- A number in its only form. -/
def Normal : Binary64 → Prop
  | finite _ mantissa exponent => Scaled mantissa exponent
  | infinite _ => True
  | notANumber => True

/-! ## Rounding -/

theorem normal_zero (negative : Bool) : (zero negative).Normal :=
  ⟨by decide, le_refl _, by decide, .inl rfl⟩

/-- A mantissa of 53 bits, or one more that rounding has carried, is put into the only form. -/
theorem normal_ofRounded (negative : Bool) {mantissa : Nat} {exponent : Int}
    (bits : mantissa ≤ 2 ^ 53) (least : leastExponent ≤ exponent)
    (full : exponent = leastExponent ∨ 2 ^ 52 ≤ mantissa) :
    (ofRounded negative mantissa exponent).Normal := by
  unfold ofRounded
  by_cases carried : mantissa = Nat.pow 2 53
  · simp only [carried, ↓reduceIte]
    split
    · trivial
    · rename_i small
      exact ⟨by decide, by omega, by omega, .inr (by decide)⟩
  · simp only [carried, ↓reduceIte]
    split
    · trivial
    · split
      · exact normal_zero negative
      · rename_i small _
        have shorter : mantissa ≠ 2 ^ 53 := carried
        exact ⟨by omega, least, by omega, full⟩

/-- The whole part of `numerator / denominator / base ^ exponent`. -/
def floorAt (base numerator denominator : Nat) (exponent : Int) : Nat :=
  if exponent < 0 then numerator * Nat.pow base exponent.natAbs / denominator
  else numerator / (denominator * Nat.pow base exponent.natAbs)

theorem roundAt_bounds (numerator denominator : Nat) (exponent : Int) :
    floorAt 2 numerator denominator exponent ≤ roundAt numerator denominator exponent ∧
      roundAt numerator denominator exponent ≤ floorAt 2 numerator denominator exponent + 1 := by
  have between : ∀ (whole : Nat) (P Q R : Prop) [Decidable P] [Decidable Q] [Decidable R],
      whole ≤ (if P then whole else if Q then whole + 1 else if R then whole else whole + 1) ∧
        (if P then whole else if Q then whole + 1 else if R then whole else whole + 1) ≤
          whole + 1 := by
    intro whole P Q R _ _ _
    split_ifs <;> omega
  unfold roundAt floorAt
  split
  · exact between _ _ _ _
  · exact between _ _ _ _

/-- A power with a negative exponent, over its size. -/
theorem zpow_of_neg {base : ℚ} {exponent : Int} (negative : exponent < 0) :
    base ^ exponent = (base ^ exponent.natAbs)⁻¹ := by
  rw [← zpow_natCast, ← zpow_neg]
  congr 1
  omega

theorem zpow_of_nonneg {base : ℚ} {exponent : Int} (nonneg : ¬exponent < 0) :
    base ^ exponent = base ^ exponent.natAbs := by
  rw [← zpow_natCast]
  congr 1
  omega

theorem le_floorAt {base numerator denominator : Nat} (some : 0 < base)
    (positive : 0 < denominator) (exponent : Int) (bound : Nat) :
    bound ≤ floorAt base numerator denominator exponent ↔
      (bound : ℚ) * base ^ exponent ≤ numerator / denominator := by
  have divides : (0 : ℚ) < denominator := by exact_mod_cast positive
  have size : 0 < base ^ exponent.natAbs := Nat.pow_pos some
  have power : (0 : ℚ) < base ^ exponent.natAbs := by exact_mod_cast size
  unfold floorAt
  rw [Nat.pow_eq]
  split
  · rename_i negative
    rw [Nat.le_div_iff_mul_le positive, zpow_of_neg negative, ← div_eq_mul_inv,
      div_le_div_iff₀ power divides]
    exact_mod_cast Iff.rfl
  · rename_i nonneg
    rw [Nat.le_div_iff_mul_le (Nat.mul_pos positive size), zpow_of_nonneg nonneg,
      le_div_iff₀ divides, mul_assoc, mul_comm denominator]
    exact_mod_cast Iff.rfl

/-- The power of two of a fraction, from those of its parts. -/
theorem log2_bounds {numerator denominator : Nat} (above : numerator ≠ 0) (below : denominator ≠ 0) :
    (2 : ℚ) ^ ((numerator.log2 : Int) - denominator.log2 - 1) ≤ numerator / denominator ∧
      (numerator / denominator : ℚ) < 2 ^ ((numerator.log2 : Int) - denominator.log2 + 1) := by
  have divides : (0 : ℚ) < denominator := by exact_mod_cast Nat.pos_of_ne_zero below
  have least : (2 : ℚ) ^ numerator.log2 ≤ numerator := by exact_mod_cast Nat.log2_self_le above
  have most : (numerator : ℚ) < 2 ^ (numerator.log2 + 1) := by exact_mod_cast Nat.lt_log2_self
  have least' : (2 : ℚ) ^ denominator.log2 ≤ denominator := by exact_mod_cast Nat.log2_self_le below
  have most' : (denominator : ℚ) ≤ 2 ^ (denominator.log2 + 1) := by
    exact_mod_cast Nat.lt_log2_self.le
  constructor
  · rw [show (numerator.log2 : Int) - denominator.log2 - 1 =
      (numerator.log2 : Int) - ((denominator.log2 + 1 : Nat) : Int) by push_cast; ring,
      zpow_sub₀ two_ne_zero, zpow_natCast, zpow_natCast]
    exact div_le_div₀ (by positivity) least divides most'
  · rw [show (numerator.log2 : Int) - denominator.log2 + 1 =
      ((numerator.log2 + 1 : Nat) : Int) - (denominator.log2 : Int) by push_cast; ring,
      zpow_sub₀ two_ne_zero, zpow_natCast, zpow_natCast]
    exact div_lt_div₀ most least' (by positivity) (by positivity)

/-- As many bits as a power of two, at a scale. -/
theorem bits_at_scale (bits : Nat) (scale : Int) :
    ((2 ^ bits : Nat) : ℚ) * 2 ^ scale = 2 ^ (bits + scale) := by
  rw [zpow_add₀ two_ne_zero, zpow_natCast]
  push_cast
  rfl

/-- At its scale a fraction has 54 bits before the point at most, and 53 at least unless the scale
is the least one. -/
theorem floorAt_scaleOf {numerator denominator : Nat} (above : numerator ≠ 0)
    (below : denominator ≠ 0) :
    floorAt 2 numerator denominator (scaleOf numerator denominator) < 2 ^ 54 ∧
      (scaleOf numerator denominator = leastExponent ∨
        2 ^ 52 ≤ floorAt 2 numerator denominator (scaleOf numerator denominator)) := by
  obtain ⟨least, most⟩ := log2_bounds above below
  have floor (bound : Nat) : bound ≤ floorAt 2 numerator denominator
      (scaleOf numerator denominator) ↔ _ :=
    le_floorAt Nat.two_pos (Nat.pos_of_ne_zero below) _ bound
  constructor
  · by_contra long
    have large := (floor (2 ^ 54)).mp (not_lt.mp long)
    rw [Nat.cast_two, bits_at_scale] at large
    have reach : (numerator.log2 : Int) - denominator.log2 - 53 ≤ scaleOf numerator denominator :=
      le_max_right _ _
    have monotone : (2 : ℚ) ^ ((numerator.log2 : Int) - denominator.log2 + 1) ≤
        2 ^ (((54 : Nat) : Int) + scaleOf numerator denominator) :=
      zpow_le_zpow_right₀ one_le_two (by push_cast; omega)
    exact absurd (most.trans_le (monotone.trans large)) (lt_irrefl _)
  · obtain same | reach : scaleOf numerator denominator = leastExponent ∨
        scaleOf numerator denominator = (numerator.log2 : Int) - denominator.log2 - 53 :=
      max_choice _ _
    · exact .inl same
    · refine .inr ((floor (2 ^ 52)).mpr ?_)
      rw [Nat.cast_two, bits_at_scale, reach]
      refine le_trans (le_of_eq ?_) least
      congr 1
      push_cast
      ring

/-- A fraction is rounded at an exponent where it has 53 bits before the point, or fewer at the
least one. -/
theorem ofRatio_scale {numerator denominator : Nat} (above : numerator ≠ 0)
    (below : denominator ≠ 0) :
    ∃ exponent, leastExponent ≤ exponent ∧ floorAt 2 numerator denominator exponent < 2 ^ 53 ∧
      (exponent = leastExponent ∨ 2 ^ 52 ≤ floorAt 2 numerator denominator exponent) ∧
      ∀ negative, ofRatio negative numerator denominator =
        ofRounded negative (roundAt numerator denominator exponent) exponent := by
  obtain ⟨bits, full⟩ := floorAt_scaleOf above below
  have bottom : leastExponent ≤ scaleOf numerator denominator := le_max_left _ _
  have form (negative : Bool) : ofRatio negative numerator denominator =
      ofRounded negative (roundAt numerator denominator
        (if Nat.pow 2 53 ≤ floorAt 2 numerator denominator (scaleOf numerator denominator) then
          scaleOf numerator denominator + 1 else scaleOf numerator denominator))
        (if Nat.pow 2 53 ≤ floorAt 2 numerator denominator (scaleOf numerator denominator) then
          scaleOf numerator denominator + 1 else scaleOf numerator denominator) := rfl
  by_cases carried : Nat.pow 2 53 ≤ floorAt 2 numerator denominator (scaleOf numerator denominator)
  · simp only [if_pos carried] at form
    -- One bit too many: at the next exponent there are 53.
    have floor (bound : Nat) (exponent : Int) :
        bound ≤ floorAt 2 numerator denominator exponent ↔ _ :=
      le_floorAt Nat.two_pos (Nat.pos_of_ne_zero below) exponent bound
    have next (bound : Nat) : bound ≤ floorAt 2 numerator denominator
        (scaleOf numerator denominator + 1) ↔
          2 * bound ≤ floorAt 2 numerator denominator (scaleOf numerator denominator) := by
      rw [floor, floor, Nat.cast_two, zpow_add₀ two_ne_zero, zpow_one]
      push_cast
      rw [mul_comm (2 ^ _ : ℚ) 2, ← mul_assoc, mul_comm (bound : ℚ) 2]
    have least : 2 ^ 52 ≤ floorAt 2 numerator denominator (scaleOf numerator denominator + 1) :=
      (next _).mpr carried
    have most : floorAt 2 numerator denominator (scaleOf numerator denominator + 1) < 2 ^ 53 := by
      by_contra long
      have := (next _).mp (not_lt.mp long)
      omega
    exact ⟨_, by omega, most, .inr least, form⟩
  · simp only [if_neg carried] at form
    exact ⟨_, bottom, not_le.mp carried, full, form⟩

/-- A fraction is rounded to a number in its only form. -/
theorem normal_ofRatio (negative : Bool) {numerator denominator : Nat} (above : numerator ≠ 0)
    (below : denominator ≠ 0) : (ofRatio negative numerator denominator).Normal := by
  obtain ⟨exponent, least, bits, full, same⟩ := ofRatio_scale above below
  have between := roundAt_bounds numerator denominator exponent
  rw [same]
  exact normal_ofRounded negative (by omega) least (full.imp_right fun whole => by omega)

/-- What a decimal is rounded to is in its only form. -/
theorem normal_ofDecimal (negative : Bool) (digits : Nat) (exponent : Int) :
    (ofDecimal negative digits exponent).Normal := by
  have power : Nat.pow 10 exponent.natAbs ≠ 0 := pow_ne_zero _ (by decide)
  unfold ofDecimal
  dsimp only
  split_ifs with none
  · exact normal_zero negative
  · trivial
  · exact normal_zero negative
  · exact normal_ofRatio negative none power
  · exact normal_ofRatio negative (mul_ne_zero none power) one_ne_zero

end Binary64
/-! ## What rounds to a number -/

namespace Decimal

/-- The number that a fraction is. -/
def Ratio.toRat (ratio : Ratio) : ℚ := ratio.numerator / ratio.denominator

/-- A whole number that is scaled by a power of some base. -/
private theorem Ratio.toRat_scaled (base : Nat) (positive : 0 < base) (mantissa : Nat)
    (exponent : Int) :
    let scaled : Ratio :=
      if exponent < 0 then ⟨mantissa, Nat.pow base exponent.natAbs⟩
      else ⟨mantissa * Nat.pow base exponent.natAbs, 1⟩
    scaled.toRat = mantissa * (base : ℚ) ^ exponent ∧ 0 < scaled.denominator := by
  dsimp only
  unfold toRat
  split
  · rename_i negative
    constructor
    · rw [Binary64.zpow_of_neg negative]
      push_cast [Nat.pow_eq]
      exact div_eq_mul_inv _ _
    · exact Nat.pow_pos positive
  · rename_i nonneg
    constructor
    · rw [Binary64.zpow_of_nonneg nonneg]
      push_cast [Nat.pow_eq]
      exact div_one _
    · exact Nat.one_pos

theorem Ratio.toRat_ofPower (mantissa : Nat) (exponent : Int) :
    (ofPower mantissa exponent).toRat = mantissa * 2 ^ exponent ∧
      0 < (ofPower mantissa exponent).denominator :=
  toRat_scaled 2 (by decide) mantissa exponent

theorem Ratio.toRat_ofDigits (digits : Nat) (exponent : Int) :
    (ofDigits digits exponent).toRat = digits * 10 ^ exponent ∧
      0 < (ofDigits digits exponent).denominator :=
  toRat_scaled 10 (by decide) digits exponent

theorem Ratio.lessEqual_iff {left right : Ratio} (one : 0 < left.denominator)
    (two : 0 < right.denominator) : left.lessEqual right = true ↔ left.toRat ≤ right.toRat := by
  have first : (0 : ℚ) < left.denominator := by exact_mod_cast one
  have second : (0 : ℚ) < right.denominator := by exact_mod_cast two
  rw [lessEqual, decide_eq_true_iff, toRat, toRat, div_le_div_iff₀ first second]
  exact_mod_cast Iff.rfl

theorem Ratio.less_iff {left right : Ratio} (one : 0 < left.denominator)
    (two : 0 < right.denominator) : left.less right = true ↔ left.toRat < right.toRat := by
  rw [less, Bool.not_eq_true', ← Bool.not_eq_true, lessEqual_iff two one, not_le]

/-- A number in an interval, with the ends of a closed one. -/
def Interval.Holds (interval : Interval) (value : ℚ) : Prop :=
  interval.low.toRat ≤ value ∧ value ≤ interval.high.toRat ∧
    (interval.closed = false → interval.low.toRat ≠ value ∧ value ≠ interval.high.toRat)

/-- The ends of an interval are fractions. -/
structure Interval.Bounded (interval : Interval) : Prop where
  low : 0 < interval.low.denominator
  high : 0 < interval.high.denominator

theorem Interval.contains_iff {interval : Interval} (bounded : interval.Bounded) {value : Ratio}
    (positive : 0 < value.denominator) :
    interval.contains value = true ↔ interval.Holds value.toRat := by
  unfold contains Holds
  cases interval.closed with
  | true =>
    simp [Ratio.lessEqual_iff bounded.low positive, Ratio.lessEqual_iff positive bounded.high]
  | false =>
    simp only [Bool.false_eq_true, if_false, Bool.and_eq_true, Ratio.less_iff bounded.low positive,
      Ratio.less_iff positive bounded.high, forall_const]
    constructor
    · rintro ⟨low, high⟩
      exact ⟨low.le, high.le, low.ne, high.ne⟩
    · rintro ⟨low, high, one, two⟩
      exact ⟨lt_of_le_of_ne low one, lt_of_le_of_ne high two⟩

/-- A quarter of the last bit, in which both ends of an interval are whole. -/
private def quarter (exponent : Int) : ℚ := 2 ^ (exponent - 2)

private theorem quarter_pos (exponent : Int) : 0 < quarter exponent := zpow_pos two_pos _

/-- The distance of an interval's lower end from the middle, in quarters. -/
private def margin (mantissa : Nat) (exponent : Int) : ℚ :=
  if mantissa = Nat.pow 2 52 ∧ Binary64.leastExponent < exponent then 1 else 2

theorem Interval.bounded_around (mantissa : Nat) (exponent : Int) :
    (Interval.around mantissa exponent).Bounded := by
  constructor
  · unfold around
    dsimp only
    split_ifs
    · exact (Ratio.toRat_ofPower _ _).2
    · exact (Ratio.toRat_ofPower _ _).2
  · exact (Ratio.toRat_ofPower _ _).2

private theorem half_eq (exponent : Int) : (2 : ℚ) ^ (exponent - 1) = 2 * quarter exponent := by
  rw [quarter, show exponent - 1 = exponent - 2 + 1 by ring, zpow_add_one₀ two_ne_zero, mul_comm]

private theorem around_low {mantissa : Nat} (positive : 0 < mantissa) (exponent : Int) :
    (Interval.around mantissa exponent).low.toRat =
      (4 * mantissa - margin mantissa exponent) * quarter exponent := by
  unfold Interval.around margin
  dsimp only
  split_ifs
  · rw [(Ratio.toRat_ofPower _ _).1, quarter, Nat.cast_sub (by omega)]
    push_cast
    rfl
  · rw [(Ratio.toRat_ofPower _ _).1, half_eq, Nat.cast_sub (by omega)]
    push_cast
    ring

private theorem around_high (mantissa : Nat) (exponent : Int) :
    (Interval.around mantissa exponent).high.toRat = (4 * mantissa + 2) * quarter exponent := by
  have form : (Interval.around mantissa exponent).high = Ratio.ofPower (2 * mantissa + 1)
      (exponent - 1) := rfl
  rw [form, (Ratio.toRat_ofPower _ _).1, half_eq]
  push_cast
  ring

private theorem margin_bounds (mantissa : Nat) (exponent : Int) :
    1 ≤ margin mantissa exponent ∧ margin mantissa exponent ≤ 2 := by
  unfold margin
  split_ifs <;> norm_num

/-- What rounds to a positive number is positive. -/
theorem Interval.Holds.pos {mantissa : Nat} {exponent : Int} (positive : 0 < mantissa) {value : ℚ}
    (inside : (Interval.around mantissa exponent).Holds value) : 0 < value := by
  have unit := quarter_pos exponent
  have bound := (margin_bounds mantissa exponent).2
  have some : (1 : ℚ) ≤ mantissa := by exact_mod_cast positive
  have low := inside.1
  rw [around_low positive] at low
  have : 0 < (4 * mantissa - margin mantissa exponent) * quarter exponent :=
    mul_pos (by linarith) unit
  linarith

private theorem around_closed_of_odd {mantissa : Nat} (odd : mantissa % 2 = 1) (exponent : Int) :
    (Interval.around mantissa exponent).closed = false :=
  decide_eq_false (by omega)

/-- The interval of a number with a greater exponent begins where that of the other one ends or
behind. If they touch there, it is behind the last mantissa, which is odd. -/
private theorem around_lt_of_exponent {mantissa other : Nat} {exponent exponent' : Int}
    (one : Binary64.Scaled mantissa exponent) (two : Binary64.Scaled other exponent')
    (smaller : exponent < exponent') :
    (Interval.around mantissa exponent).high.toRat <
        (Interval.around other exponent').low.toRat ∨
      (Interval.around mantissa exponent).high.toRat = (Interval.around other exponent').low.toRat ∧
        (Interval.around mantissa exponent).closed = false := by
  have unit := quarter_pos exponent
  -- The greater one is no smaller than a power of two, whose lower neighbour it may be.
  have full : 2 ^ 52 ≤ other := two.full.resolve_left (by have := one.least; omega)
  have twice : 2 * quarter exponent ≤ quarter exponent' := by
    rw [← half_eq, quarter]
    exact zpow_le_zpow_right₀ one_le_two (by omega)
  have far : (2 ^ 54 - 1 : ℚ) ≤ 4 * other - margin other exponent' := by
    by_cases power : other = 2 ^ 52
    · have near : margin other exponent' = 1 := if_pos ⟨power, by have := one.least; omega⟩
      rw [near, power]
      norm_num
    · have above : (2 ^ 52 + 1 : ℚ) ≤ other := by exact_mod_cast (by omega : 2 ^ 52 + 1 ≤ other)
      have := (margin_bounds other exponent').2
      linarith
  have short : (mantissa : ℚ) ≤ 2 ^ 53 - 1 := by
    have : (mantissa : ℚ) + 1 ≤ 2 ^ 53 := by exact_mod_cast one.bits
    linarith
  rw [around_high, around_low (by omega)]
  have reach : (2 ^ 55 - 2) * quarter exponent ≤
      (4 * other - margin other exponent') * quarter exponent' := by
    calc (2 ^ 55 - 2) * quarter exponent = (2 ^ 54 - 1) * (2 * quarter exponent) := by ring
      _ ≤ (4 * other - margin other exponent') * quarter exponent' :=
        mul_le_mul far twice (by positivity) (by linarith)
  have ends : (4 * mantissa + 2) * quarter exponent ≤ (2 ^ 55 - 2) * quarter exponent :=
    mul_le_mul_of_nonneg_right (by linarith) unit.le
  obtain before | touch := lt_or_eq_of_le (ends.trans reach)
  · exact .inl before
  · have last : (4 * mantissa + 2) * quarter exponent = (2 ^ 55 - 2) * quarter exponent :=
      le_antisymm ends (reach.trans_eq touch.symm)
    have same : (mantissa : ℚ) = 2 ^ 53 - 1 := by
      have := mul_right_cancel₀ unit.ne' last
      linarith
    have number : mantissa + 1 = 2 ^ 53 := by
      have : (mantissa : ℚ) + 1 = 2 ^ 53 := by linarith
      exact_mod_cast this
    exact .inr ⟨touch, around_closed_of_odd (by omega) exponent⟩

/-- So it is with a greater mantissa. Of two intervals that touch, one is around an odd mantissa. -/
private theorem around_lt_of_mantissa {mantissa other : Nat} {exponent : Int}
    (positive : 0 < mantissa) (one : Binary64.Scaled mantissa exponent)
    (smaller : mantissa < other) :
    (Interval.around mantissa exponent).high.toRat <
        (Interval.around other exponent).low.toRat ∨
      (Interval.around mantissa exponent).high.toRat = (Interval.around other exponent).low.toRat ∧
        ((Interval.around mantissa exponent).closed = false ∨
          (Interval.around other exponent).closed = false) := by
  have exact : margin other exponent = 2 := by
    refine if_neg ?_
    rintro ⟨power, above⟩
    have full : 2 ^ 52 ≤ mantissa := one.full.resolve_left (by omega)
    have same : other = 2 ^ 52 := power
    omega
  rw [around_high, around_low (by omega), exact]
  by_cases next : other = mantissa + 1
  · subst next
    refine .inr ⟨by push_cast; ring, ?_⟩
    obtain even | odd := Nat.mod_two_eq_zero_or_one mantissa
    · exact .inr (around_closed_of_odd (by omega) exponent)
    · exact .inl (around_closed_of_odd odd exponent)
  · have further : (mantissa : ℚ) + 2 ≤ other := by
      exact_mod_cast (by omega : mantissa + 2 ≤ other)
    exact .inl (mul_lt_mul_of_pos_right (by linarith) (quarter_pos exponent))

/-- Of two numbers the interval of the smaller one ends where that of the greater one begins or
before, and if they touch there, one of them is open. -/
private theorem around_lt {mantissa other : Nat} {exponent exponent' : Int}
    (positive : 0 < mantissa) (one : Binary64.Scaled mantissa exponent)
    (two : Binary64.Scaled other exponent')
    (less : exponent < exponent' ∨ exponent = exponent' ∧ mantissa < other) :
    (Interval.around mantissa exponent).high.toRat <
        (Interval.around other exponent').low.toRat ∨
      (Interval.around mantissa exponent).high.toRat = (Interval.around other exponent').low.toRat ∧
        ((Interval.around mantissa exponent).closed = false ∨
          (Interval.around other exponent').closed = false) := by
  obtain smaller | ⟨rfl, smaller⟩ := less
  · exact (around_lt_of_exponent one two smaller).imp_right fun touch => ⟨touch.1, .inl touch.2⟩
  · exact around_lt_of_mantissa positive one smaller

/-- What rounds to one number rounds to no other. -/
theorem around_unique {mantissa other : Nat} {exponent exponent' : Int} (positive : 0 < mantissa)
    (positive' : 0 < other) (one : Binary64.Scaled mantissa exponent)
    (two : Binary64.Scaled other exponent') {value : ℚ}
    (first : (Interval.around mantissa exponent).Holds value)
    (second : (Interval.around other exponent').Holds value) :
    mantissa = other ∧ exponent = exponent' := by
  have apart : ∀ {mantissa other : Nat} {exponent exponent' : Int}, 0 < mantissa →
      Binary64.Scaled mantissa exponent → Binary64.Scaled other exponent' →
      (Interval.around mantissa exponent).Holds value →
      (Interval.around other exponent').Holds value →
      ¬(exponent < exponent' ∨ exponent = exponent' ∧ mantissa < other) := by
    intro mantissa other exponent exponent' positive one two first second less
    obtain ⟨_, high, inside⟩ := first
    obtain ⟨low, _, inside'⟩ := second
    obtain before | ⟨touch, half | half⟩ := around_lt positive one two less
    · exact absurd (low.trans high) (not_le.mpr before)
    · exact (inside half).2 (le_antisymm high (touch.trans_le low))
    · exact (inside' half).1 (le_antisymm low (high.trans_eq touch))
  have below := apart positive one two first second
  have above := apart positive' two one second first
  omega

/-- Of two neighbours on a grid of seventeen digits, with a number between them, one rounds to
the number. -/
theorem around_grid {mantissa : Nat} {exponent : Int} (positive : 0 < mantissa)
    (scaled : Binary64.Scaled mantissa exponent) {step lower : ℚ}
    (fine : 10 ^ 16 * step ≤ mantissa * 2 ^ exponent) (below : lower ≤ mantissa * 2 ^ exponent)
    (above : mantissa * 2 ^ exponent < lower + step) :
    (Interval.around mantissa exponent).Holds lower ∨
      (Interval.around mantissa exponent).Holds (lower + step) := by
  have unit := quarter_pos exponent
  have middle : (2 : ℚ) ^ exponent = 4 * quarter exponent := by
    rw [quarter, show exponent = exponent - 2 + 2 by ring, zpow_add₀ two_ne_zero]
    norm_num
    ring
  obtain ⟨narrow, wide⟩ := margin_bounds mantissa exponent
  rw [middle] at fine below above
  by_contra neither
  obtain ⟨under, beyond⟩ := not_or.mp neither
  simp only [Interval.Holds, around_low positive, around_high] at under beyond
  -- Neither is inside, so a step is as wide as the interval, which is more than it can be.
  have low : lower ≤ (4 * mantissa - margin mantissa exponent) * quarter exponent := by
    by_contra inside
    exact under ⟨by linarith, by linarith, fun _ => ⟨by linarith, by intro same; linarith⟩⟩
  have high : (4 * mantissa + 2) * quarter exponent ≤ lower + step := by
    by_contra inside
    exact beyond ⟨by nlinarith, by linarith, fun _ => ⟨by intro same; nlinarith, by linarith⟩⟩
  have narrowed : (2 + margin mantissa exponent) * quarter exponent ≤ step := by linarith
  have bound : 10 ^ 16 * (2 + margin mantissa exponent) ≤ 4 * mantissa := by
    have : 10 ^ 16 * (2 + margin mantissa exponent) * quarter exponent ≤
        4 * mantissa * quarter exponent := by linarith
    exact le_of_mul_le_mul_right this unit
  have bits : (mantissa : ℚ) < 9007199254740992 := by exact_mod_cast scaled.bits
  unfold margin at bound
  split_ifs at bound with power
  · have same : (mantissa : ℚ) = 2 ^ 52 := by exact_mod_cast power.1
    rw [same] at bound
    norm_num at bound
  · norm_num at bound
    linarith

end Decimal
end GraphCache
