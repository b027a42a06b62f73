import GraphCache.Number.Instant
import GraphCache.Proofs.Doubles

/-! The order of double precision numbers. Comparing is comparing values, and rounding keeps the
order: of two fractions the greater one is never rounded to the smaller number, also where the
exponent changes between them or where one is beyond the greatest number. So a lifetime moves
all instants of a clock on without one overtaking another. -/
namespace GraphCache

namespace Binary64

/-! ## Rounding at one exponent -/

/-- The whole number nearest to a fraction, a half going to the even neighbour. -/
private def nearest (numerator denominator : Nat) : Nat :=
  if 2 * (numerator % denominator) < denominator then numerator / denominator
  else if denominator < 2 * (numerator % denominator) then numerator / denominator + 1
  else if numerator / denominator % 2 = 0 then numerator / denominator
  else numerator / denominator + 1

/-- A fraction is rounded up to a number from the middle below it on, which itself belongs to an
even number. -/
private theorem le_nearest {numerator denominator : Nat} (positive : 0 < denominator)
    (bound : Nat) :
    bound ≤ nearest numerator denominator ↔
      2 * (bound * denominator) < 2 * numerator + denominator ∨
        2 * (bound * denominator) = 2 * numerator + denominator ∧ bound % 2 = 0 := by
  have parts := Nat.div_add_mod' numerator denominator
  have small := Nat.mod_lt numerator positive
  unfold nearest
  generalize numerator / denominator = whole at *
  generalize numerator % denominator = rest at *
  obtain below | rfl | above := lt_trichotomy bound (whole + 1)
  · have least := Nat.mul_le_mul_right denominator (Nat.le_of_lt_succ below)
    split_ifs <;> omega
  · rw [Nat.add_mul, Nat.one_mul]
    split_ifs <;> omega
  · have most := Nat.mul_le_mul_right denominator (Nat.succ_le_of_lt above)
    rw [Nat.succ_mul, Nat.add_mul, Nat.one_mul] at most
    split_ifs <;> omega

/-- At a fixed exponent the same holds of the rounded mantissa. -/
private theorem le_roundAt {numerator denominator : Nat} (positive : 0 < denominator)
    (exponent : Int) (bound : Nat) :
    bound ≤ roundAt numerator denominator exponent ↔
      2 * (bound * 2 ^ exponent) < 2 * (numerator / denominator : ℚ) + 2 ^ exponent ∨
        2 * (bound * 2 ^ exponent) = 2 * (numerator / denominator : ℚ) + 2 ^ exponent ∧
          bound % 2 = 0 := by
  have power : (0 : ℚ) < 2 ^ exponent := zpow_pos two_pos _
  obtain ⟨above, below, some, same, value⟩ : ∃ above below : Nat, 0 < below ∧
      roundAt numerator denominator exponent = nearest above below ∧
        (numerator / denominator : ℚ) = above / below * 2 ^ exponent := by
    by_cases negative : exponent < 0
    · refine ⟨_, _, positive, by rw [roundAt, if_pos negative]; rfl, ?_⟩
      rw [zpow_of_neg negative]
      push_cast [Nat.pow_eq]
      field_simp
    · refine ⟨_, _, Nat.mul_pos positive (Nat.pow_pos two_pos), by
        rw [roundAt, if_neg negative]; rfl, ?_⟩
      rw [zpow_of_nonneg negative]
      push_cast [Nat.pow_eq]
      field_simp
  have divides : (0 : ℚ) < below := by exact_mod_cast some
  have scaled : (2 : ℚ) * (above / below * 2 ^ exponent) + 2 ^ exponent =
      (2 * above + below) * (2 ^ exponent / below) := by
    field_simp
  have bounded : (2 : ℚ) * (bound * 2 ^ exponent) =
      2 * (bound * below) * (2 ^ exponent / below) := by
    field_simp
  have factor : (0 : ℚ) < 2 ^ exponent / below := div_pos power divides
  rw [same, le_nearest some, value, scaled, bounded, mul_lt_mul_iff_left₀ factor,
    mul_left_inj' factor.ne']
  exact_mod_cast Iff.rfl

/-- At one exponent the greater fraction has the greater mantissa. -/
private theorem roundAt_le {numerator denominator numerator' denominator' : Nat}
    (positive : 0 < denominator) (positive' : 0 < denominator')
    (ordered : (numerator / denominator : ℚ) ≤ numerator' / denominator') (exponent : Int) :
    roundAt numerator denominator exponent ≤ roundAt numerator' denominator' exponent := by
  rw [le_roundAt positive']
  obtain strict | ⟨middle, even⟩ := (le_roundAt positive exponent _).mp (le_refl _)
  · exact .inl (strict.trans_le (by gcongr))
  · obtain greater | same := ordered.lt_or_eq
    · exact .inl (middle.trans_lt (by gcongr))
    · exact .inr ⟨by rw [middle, same], even⟩

/-! ## Values -/

/-- The value of a finite number. -/
def signed (negative : Bool) (mantissa : Nat) (exponent : Int) : ℚ :=
  if negative then -(mantissa * 2 ^ exponent) else mantissa * 2 ^ exponent

/-- The value of a number, if it is one. The infinities are beyond all others. -/
noncomputable def value? : Binary64 → Option EReal
  | finite negative mantissa exponent => some ((signed negative mantissa exponent : ℝ) : EReal)
  | infinite negative => some (if negative then ⊥ else ⊤)
  | notANumber => none

private theorem multipleAt_eq (negative : Bool) (mantissa : Nat) {exponent scale : Int}
    (finer : scale ≤ exponent) :
    (multipleAt negative mantissa exponent scale : ℚ) * 2 ^ scale =
      signed negative mantissa exponent := by
  have power : (2 : ℚ) ^ exponent = 2 ^ (exponent - scale).toNat * 2 ^ scale := by
    rw [← zpow_natCast, ← zpow_add₀ two_ne_zero, Int.toNat_of_nonneg (by omega)]
    congr 1
    omega
  cases negative <;> simp only [multipleAt, signed, Bool.false_eq_true, ↓reduceIte, Nat.pow_eq] <;>
    push_cast <;> rw [power] <;> ring

/-- Comparing is comparing values. -/
theorem lessEqual_iff {left right : Binary64} : left.lessEqual right = true ↔
    ∃ low high, left.value? = some low ∧ right.value? = some high ∧ low ≤ high := by
  cases left with
  | notANumber => simp [lessEqual, value?]
  | infinite negative =>
    cases right <;> cases negative <;> simp [lessEqual, value?]
    rename_i negative
    cases negative <;> simp
  | finite negative mantissa exponent =>
    cases right with
    | notANumber => simp [lessEqual, value?]
    | infinite negative' => cases negative' <;> simp [lessEqual, value?]
    | finite negative' mantissa' exponent' =>
      have power : (0 : ℚ) < 2 ^ min exponent exponent' := zpow_pos two_pos _
      simp only [lessEqual, decide_eq_true_eq, value?, Option.some.injEq, exists_and_left,
        exists_eq_left', EReal.coe_le_coe_iff, Rat.cast_le]
      rw [← multipleAt_eq negative mantissa (min_le_left exponent exponent'),
        ← multipleAt_eq negative' mantissa' (min_le_right exponent exponent'),
        mul_le_mul_iff_left₀ power, Int.cast_le]

/-! ## Rounding -/

/-- A size as it is rounded to: from the first power of two beyond the numbers on there is only
infinity. -/
private noncomputable def limited (size : ℚ) : EReal := if 2 ^ 1024 ≤ size then ⊤ else (size : ℝ)

private theorem limited_le {low high : ℚ} (ordered : low ≤ high) : limited low ≤ limited high := by
  unfold limited
  split_ifs with beyond beyond'
  · exact le_refl _
  · exact absurd (beyond.trans ordered) beyond'
  · exact le_top
  · exact_mod_cast ordered

private theorem limited_nonneg {size : ℚ} (nonneg : 0 ≤ size) : 0 ≤ limited size := by
  unfold limited
  split_ifs
  · exact le_top
  · exact_mod_cast nonneg

/-- What a mantissa with all its bits is put into. -/
private theorem value?_ofRounded (negative : Bool) {mantissa : Nat} {exponent : Int}
    (bits : mantissa ≤ 2 ^ 53) (full : exponent = leastExponent ∨ 2 ^ 52 ≤ mantissa) :
    (ofRounded negative mantissa exponent).value? = some (if negative then
      -limited (mantissa * 2 ^ exponent) else limited (mantissa * 2 ^ exponent)) := by
  obtain ⟨kept, place, shorter, still, value, same⟩ : ∃ kept place, kept < 2 ^ 53 ∧
      (place = leastExponent ∨ 2 ^ 52 ≤ kept) ∧
        (mantissa * 2 ^ exponent : ℚ) = (kept : Nat) * 2 ^ place ∧
          ofRounded negative mantissa exponent = if greatestExponent < place then
            infinite negative else if kept = 0 then zero negative else
              finite negative kept place := by
    by_cases carried : mantissa = Nat.pow 2 53
    · refine ⟨2 ^ 52, exponent + 1, by decide, .inr (le_refl _), ?_, ?_⟩
      · rw [carried, zpow_add₀ two_ne_zero, Nat.pow_eq]
        push_cast
        ring
      · rw [ofRounded, if_pos carried]
        rfl
    · refine ⟨mantissa, exponent, lt_of_le_of_ne bits carried, full, rfl, ?_⟩
      rw [ofRounded, if_neg carried]
  rw [same, value]
  have greatest : greatestExponent = 971 := rfl
  by_cases beyond : greatestExponent < place
  · have far : (2 : ℚ) ^ (1024 : Nat) ≤ kept * 2 ^ place := by
      have large : 2 ^ 52 ≤ kept := still.resolve_left (by unfold leastExponent; omega)
      calc (2 : ℚ) ^ (1024 : Nat) = 2 ^ ((1024 : Nat) : Int) := (zpow_natCast _ _).symm
        _ ≤ 2 ^ (((52 : Nat) : Int) + place) := zpow_le_zpow_right₀ one_le_two (by omega)
        _ = (2 ^ 52 : Nat) * 2 ^ place := (bits_at_scale 52 place).symm
        _ ≤ kept * 2 ^ place := by gcongr
    rw [if_pos beyond, limited, if_pos far, value?]
    cases negative <;> rfl
  · have near : ¬(2 : ℚ) ^ (1024 : Nat) ≤ kept * 2 ^ place := by
      rw [not_le]
      calc (kept * 2 ^ place : ℚ) < (2 ^ 53 : Nat) * 2 ^ place := by gcongr
        _ = 2 ^ (((53 : Nat) : Int) + place) := bits_at_scale 53 place
        _ ≤ 2 ^ ((1024 : Nat) : Int) := zpow_le_zpow_right₀ one_le_two (by omega)
        _ = 2 ^ (1024 : Nat) := zpow_natCast _ _
    have finite : (if kept = 0 then zero negative else .finite negative kept place).value? =
        some ((signed negative kept place : ℝ) : EReal) := by
      split_ifs with none
      · cases negative <;> simp [none, zero, value?, signed]
      · rfl
    rw [if_neg beyond, limited, if_neg near, finite]
    cases negative <;> simp [signed]

/-- A fraction is rounded to a mantissa at an exponent, and its value is that, with its sign. -/
private theorem ofRatio_limited {numerator denominator : Nat} (above : numerator ≠ 0)
    (below : denominator ≠ 0) :
    ∃ exponent, leastExponent ≤ exponent ∧ floorAt 2 numerator denominator exponent < 2 ^ 53 ∧
      (exponent = leastExponent ∨ 2 ^ 52 ≤ floorAt 2 numerator denominator exponent) ∧
      ∀ negative, (ofRatio negative numerator denominator).value? = some (if negative then
        -limited (roundAt numerator denominator exponent * 2 ^ exponent) else
          limited (roundAt numerator denominator exponent * 2 ^ exponent)) := by
  obtain ⟨exponent, least, bits, full, same⟩ := ofRatio_scale above below
  have between := roundAt_bounds numerator denominator exponent
  refine ⟨exponent, least, bits, full, fun negative => ?_⟩
  rw [same negative]
  exact value?_ofRounded negative (by omega) (full.imp_right fun whole => by omega)

/-- What a fraction is rounded to, without its sign. -/
private noncomputable def size (numerator denominator : Nat) : EReal :=
  (ofRatio false numerator denominator).value?.getD 0

private theorem value?_ofRatio (negative : Bool) {numerator denominator : Nat}
    (above : numerator ≠ 0) (below : denominator ≠ 0) :
    (ofRatio negative numerator denominator).value? = some (if negative then
      -size numerator denominator else size numerator denominator) ∧
        0 ≤ size numerator denominator := by
  obtain ⟨exponent, _, _, _, value⟩ := ofRatio_limited above below
  rw [size, value, value]
  exact ⟨rfl, limited_nonneg (by positivity)⟩

/-- The greater fraction is rounded to the greater number. -/
private theorem size_le {numerator denominator numerator' denominator' : Nat}
    (above : numerator ≠ 0) (below : denominator ≠ 0) (above' : numerator' ≠ 0)
    (below' : denominator' ≠ 0)
    (ordered : (numerator / denominator : ℚ) ≤ numerator' / denominator') :
    size numerator denominator ≤ size numerator' denominator' := by
  obtain ⟨exponent, least, bits, full, value⟩ := ofRatio_limited above below
  obtain ⟨exponent', least', bits', full', value'⟩ := ofRatio_limited above' below'
  have positive := Nat.pos_of_ne_zero below
  have positive' := Nat.pos_of_ne_zero below'
  rw [size, size, value, value']
  refine limited_le ?_
  have between := roundAt_bounds numerator denominator exponent
  have between' := roundAt_bounds numerator' denominator' exponent'
  obtain lower | rfl | higher := lt_trichotomy exponent exponent'
  -- One exponent further there is room for all that can be rounded to at this one.
  · have whole : 2 ^ 52 ≤ floorAt 2 numerator' denominator' exponent' :=
      full'.resolve_left (by omega)
    calc (roundAt numerator denominator exponent * 2 ^ exponent : ℚ)
        ≤ (2 ^ 53 : Nat) * 2 ^ exponent := by
          gcongr
          omega
      _ = 2 ^ (((53 : Nat) : Int) + exponent) := bits_at_scale 53 exponent
      _ ≤ 2 ^ (((52 : Nat) : Int) + exponent') := zpow_le_zpow_right₀ one_le_two (by omega)
      _ = (2 ^ 52 : Nat) * 2 ^ exponent' := (bits_at_scale 52 exponent').symm
      _ ≤ roundAt numerator' denominator' exponent' * 2 ^ exponent' := by
          gcongr
          omega
  · have mantissas := roundAt_le positive positive' ordered exponent
    gcongr
  -- The greater fraction does not have the lower exponent.
  · have whole : 2 ^ 52 ≤ floorAt 2 numerator denominator exponent :=
      full.resolve_left (by omega)
    have large := (le_floorAt Nat.two_pos positive exponent _).mp whole
    have small := mt (le_floorAt Nat.two_pos positive' exponent' (2 ^ 53)).mpr (not_le.mpr bits')
    rw [Nat.cast_two, bits_at_scale] at large small
    have apart : (2 : ℚ) ^ (((53 : Nat) : Int) + exponent') ≤
        2 ^ (((52 : Nat) : Int) + exponent) := zpow_le_zpow_right₀ one_le_two (by omega)
    exact absurd ((apart.trans large).trans ordered) small

/-- The value that a rational number is rounded to. -/
private noncomputable def roundedValue (value : ℚ) : EReal :=
  if value < 0 then -size value.num.natAbs value.den
  else if value = 0 then 0 else size value.num.natAbs value.den

private theorem natAbs_num_div_den (value : ℚ) : (value.num.natAbs / value.den : ℚ) = |value| := by
  have parts := congrArg abs (Rat.num_div_den value)
  rw [abs_div, Nat.abs_cast] at parts
  rwa [Nat.cast_natAbs, Int.cast_abs]

private theorem natAbs_num_ne {value : ℚ} (some : value ≠ 0) : value.num.natAbs ≠ 0 := by
  simpa [Int.natAbs_eq_zero] using some

private theorem roundedValue_nonneg {value : ℚ} (nonneg : 0 ≤ value) : 0 ≤ roundedValue value := by
  rw [roundedValue, if_neg (not_lt.mpr nonneg)]
  split_ifs with none
  · exact le_refl _
  · exact (value?_ofRatio false (natAbs_num_ne none) value.den_nz).2

private theorem roundedValue_nonpos {value : ℚ} (negative : value < 0) : roundedValue value ≤ 0 := by
  rw [roundedValue, if_pos negative, EReal.neg_le, neg_zero]
  exact (value?_ofRatio false (natAbs_num_ne negative.ne) value.den_nz).2

/-- Rounding keeps the order. -/
private theorem roundedValue_le {low high : ℚ} (ordered : low ≤ high) :
    roundedValue low ≤ roundedValue high := by
  have sizes {low high : ℚ} (some : low ≠ 0) (some' : high ≠ 0) (ordered : |low| ≤ |high|) :
      size low.num.natAbs low.den ≤ size high.num.natAbs high.den :=
    size_le (natAbs_num_ne some) low.den_nz (natAbs_num_ne some') high.den_nz (by
      rwa [natAbs_num_div_den, natAbs_num_div_den])
  obtain negative | nonneg := lt_or_ge low 0
  · obtain negative' | nonneg' := lt_or_ge high 0
    · rw [roundedValue, roundedValue, if_pos negative, if_pos negative', EReal.neg_le_neg_iff]
      refine sizes negative'.ne negative.ne ?_
      rw [abs_of_neg negative, abs_of_neg negative']
      exact neg_le_neg ordered
    · exact (roundedValue_nonpos negative).trans (roundedValue_nonneg nonneg')
  · obtain positive | rfl := nonneg.lt_or_eq
    · have positive' := positive.trans_le ordered
      rw [roundedValue, roundedValue, if_neg positive.not_gt, if_neg positive.ne',
        if_neg positive'.not_gt, if_neg positive'.ne']
      refine sizes positive.ne' positive'.ne' ?_
      rwa [abs_of_pos positive, abs_of_pos positive']
    · rw [roundedValue, if_neg (lt_irrefl _), if_pos rfl]
      exact roundedValue_nonneg ordered

/-- However a fraction is written, it is rounded to the same value. -/
private theorem value?_ofRatio_eq {value : ℚ} {numerator denominator : Nat}
    (above : numerator ≠ 0) (below : denominator ≠ 0)
    (same : (numerator / denominator : ℚ) = |value|) :
    (ofRatio (decide (value < 0)) numerator denominator).value? = some (roundedValue value) := by
  have some : value ≠ 0 := by
    rintro rfl
    rw [abs_zero, div_eq_zero_iff] at same
    exact same.elim (fun none => above (by exact_mod_cast none)) fun none =>
      below (by exact_mod_cast none)
  have reduced := same.trans (natAbs_num_div_den value).symm
  have above' := natAbs_num_ne some
  have sizes : size numerator denominator = size value.num.natAbs value.den :=
    le_antisymm (size_le above below above' value.den_nz reduced.le)
      (size_le above' value.den_nz above below reduced.ge)
  rw [(value?_ofRatio _ above below).1, roundedValue, sizes, if_neg some]
  by_cases negative : value < 0 <;> simp [negative]

/-! ## Adding -/

/-- Whole numbers are rounded, too. -/
private theorem value?_ofInt (count : Int) : (ofInt count).value? = some (roundedValue count) := by
  unfold ofInt
  split_ifs with none
  · simp [none, zero, value?, signed, roundedValue]
  · have sign : decide (count < 0) = decide ((count : ℚ) < 0) := by simp
    rw [sign]
    refine value?_ofRatio_eq (Int.natAbs_ne_zero.mpr none) one_ne_zero ?_
    rw [Nat.cast_natAbs, Int.cast_abs, Nat.cast_one, div_one]

/-- A sum is the exact one, rounded. -/
private theorem value?_add (negative : Bool) (mantissa : Nat) (exponent : Int) (negative' : Bool)
    (mantissa' : Nat) (exponent' : Int) :
    ((finite negative mantissa exponent).add (finite negative' mantissa' exponent')).value? =
      some (roundedValue
        (signed negative mantissa exponent + signed negative' mantissa' exponent')) := by
  have power : (0 : ℚ) < 2 ^ min exponent exponent' := zpow_pos two_pos _
  rw [← multipleAt_eq negative mantissa (min_le_left exponent exponent'),
    ← multipleAt_eq negative' mantissa' (min_le_right exponent exponent'), ← add_mul,
    ← Int.cast_add, add]
  generalize multipleAt negative mantissa exponent (min exponent exponent') +
    multipleAt negative' mantissa' exponent' (min exponent exponent') = sum
  generalize min exponent exponent' = scale at *
  have sign : decide (sum < 0) = decide ((sum * 2 ^ scale : ℚ) < 0) := by
    simp [mul_neg_iff, power, power.not_gt]
  have sized : |(sum * 2 ^ scale : ℚ)| = sum.natAbs * 2 ^ scale := by
    rw [abs_mul, abs_of_pos power, Nat.cast_natAbs, Int.cast_abs]
  split_ifs with none finer
  · cases negative <;> cases negative' <;> simp [none, zero, value?, signed, roundedValue]
  · rw [sign]
    refine value?_ofRatio_eq (Int.natAbs_ne_zero.mpr none) (Nat.pow_pos two_pos).ne' ?_
    rw [sized, zpow_of_neg finer, ← div_eq_mul_inv]
    push_cast [Nat.pow_eq]
    rfl
  · rw [sign]
    refine value?_ofRatio_eq (mul_ne_zero (Int.natAbs_ne_zero.mpr none)
      (Nat.pow_pos two_pos).ne') one_ne_zero ?_
    rw [sized, zpow_of_nonneg finer, Nat.cast_one, div_one]
    push_cast [Nat.pow_eq]
    rfl

/-- Whole counts are rounded in their order. -/
theorem ofInt_lessEqual {left right : Int} (ordered : left ≤ right) :
    (ofInt left).lessEqual (ofInt right) = true :=
  lessEqual_iff.mpr ⟨_, _, value?_ofInt left, value?_ofInt right,
    roundedValue_le (Int.cast_le.mpr ordered)⟩

theorem lessEqual_trans {left middle right : Binary64} (first : left.lessEqual middle = true)
    (second : middle.lessEqual right = true) : left.lessEqual right = true := by
  obtain ⟨low, _, least, found, below⟩ := lessEqual_iff.mp first
  obtain ⟨_, high, found', greatest, above⟩ := lessEqual_iff.mp second
  cases found.symm.trans found'
  exact lessEqual_iff.mpr ⟨low, high, least, greatest, below.trans above⟩

/-- Adding a finite number keeps the order. -/
theorem add_lessEqual {left right : Binary64} (ordered : left.lessEqual right = true)
    (negative : Bool) (mantissa : Nat) (exponent : Int) :
    (left.add (finite negative mantissa exponent)).lessEqual
      (right.add (finite negative mantissa exponent)) = true := by
  cases left with
  | notANumber => cases right <;> cases ordered
  | infinite sign =>
    cases right with
    | notANumber => cases sign <;> cases ordered
    | infinite sign' => cases sign <;> cases sign' <;> trivial
    | finite sign' own' place' =>
      cases sign with
      | false => cases ordered
      | true => exact lessEqual_iff.mpr ⟨⊥, _, rfl, value?_add .., bot_le⟩
  | finite sign own place =>
    cases right with
    | notANumber => cases ordered
    | infinite sign' =>
      cases sign' with
      | false => exact lessEqual_iff.mpr ⟨_, ⊤, value?_add .., rfl, le_top⟩
      | true => cases ordered
    | finite sign' own' place' =>
      obtain ⟨low, high, found, found', below⟩ := lessEqual_iff.mp ordered
      cases found
      cases found'
      refine lessEqual_iff.mpr ⟨_, _, value?_add .., value?_add .., roundedValue_le ?_⟩
      have values : signed sign own place ≤ signed sign' own' place' := by exact_mod_cast below
      gcongr

end Binary64

/-! ## Counts of seconds -/

namespace Seconds

/-- The order of the counts of one kind. A clock gives counts of one kind: between the kinds
lifetimes do not keep an order, since a whole deadline may be none of double precision. -/
inductive Le : Seconds → Seconds → Prop where
  | refl (count : Seconds) : Le count count
  | whole {earlier later : Int} (ordered : earlier ≤ later) : Le (whole earlier) (whole later)
  | real {earlier later : Binary64} (ordered : earlier.lessEqual later = true) :
    Le (real earlier) (real later)

instance : Preorder Seconds where
  le := Le
  le_refl := .refl
  le_trans := by
    intro first second third below above
    cases below with
    | refl => exact above
    | whole ordered =>
      cases above with
      | refl => exact .whole ordered
      | whole ordered' => exact .whole (ordered.trans ordered')
    | real ordered =>
      cases above with
      | refl => exact .real ordered
      | real ordered' => exact .real (Binary64.lessEqual_trans ordered ordered')

theorem le_exact {earlier later : Seconds} (ordered : earlier ≤ later) :
    earlier = later ∨ earlier.exact.lessEqual later.exact = true := by
  cases ordered with
  | refl => exact .inl rfl
  | real ordered => exact .inr ordered
  | @whole earlier later ordered =>
    refine .inr (Binary64.lessEqual_iff.mpr ⟨_, _, rfl, rfl, ?_⟩)
    have value (count : Int) :
        Binary64.signed (decide (count < 0)) count.natAbs 0 = (count : ℚ) := by
      obtain negative | nonneg := lt_or_ge count 0
      · simp [Binary64.signed, negative, Nat.cast_natAbs, abs_of_neg negative]
      · simp [Binary64.signed, nonneg.not_gt, Nat.cast_natAbs, abs_of_nonneg nonneg]
    rw [value, value]
    exact_mod_cast ordered

/-- A lifetime that is finite in double precision keeps the order of instants. -/
theorem add_le_add {earlier later : Seconds} (ordered : earlier ≤ later) {lifetime : Seconds}
    {negative : Bool} {mantissa : Nat} {exponent : Int}
    (finite : lifetime.toReal = .finite negative mantissa exponent) :
    earlier.add lifetime ≤ later.add lifetime := by
  have real {earlier later : Binary64} (ordered : earlier.lessEqual later = true) :
      (earlier.add lifetime.toReal).lessEqual (later.add lifetime.toReal) = true := by
    rw [finite]
    exact Binary64.add_lessEqual ordered negative mantissa exponent
  cases ordered with
  | refl => exact .refl _
  | real ordered =>
    cases lifetime <;> exact .real (real ordered)
  | whole ordered =>
    cases lifetime with
    | whole => exact .whole (Int.add_le_add_right ordered _)
    | real => exact .real (real (Binary64.ofInt_lessEqual ordered))

/-- So does rounding them. -/
theorem toReal_le {earlier later : Seconds} (ordered : earlier ≤ later) :
    Seconds.real earlier.toReal ≤ Seconds.real later.toReal := by
  cases ordered with
  | refl => exact .refl _
  | real ordered => exact .real ordered
  | whole ordered => exact .real (Binary64.ofInt_lessEqual ordered)

end Seconds
end GraphCache
