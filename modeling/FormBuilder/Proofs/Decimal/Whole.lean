import FormBuilder.Decimal.Double
import Mathlib.Algebra.Group.Nat.Defs
/-! A whole number that came as a binary64 number is one again, of the same size: it is written in 53 bits and a power
of two, so nothing is rounded. -/
namespace FormBuilder.Double
open Dyadic64 (unitsPerOne)

theorem roundExact {num den : Nat} (positive : 0 < den) (exact : den ∣ num) : roundHalfEven num den = num / den := by
  have none : num % den = 0 := Nat.mod_eq_zero_of_dvd exact
  simp [roundHalfEven,none,positive]

-- The exponent of a unit, left unwritten: no proof counts out so large a power.
theorem unitsPower : ∃ unit : Nat, (unit : Int) = 1074 ∧ unitsPerOne = Nat.pow 2 unit := by
  unfold unitsPerOne
  generalize own : 1074 = unit
  exact ⟨unit,congrArg Int.ofNat own.symm,rfl⟩

theorem unitsPositive : 0 < unitsPerOne := by
  obtain ⟨unit,-,power⟩ := unitsPower
  rw [power]
  exact Nat.two_pow_pos unit

structure Wide (k : Nat) : Prop where
  positive : 0 < k
  bounded : k.log2 ≤ 1023
  even : 2 ^ (k.log2 - 52) ∣ k

theorem wideOfShift {k sig shift unit : Nat} (positive : 0 < k) (small : sig < 2 ^ 53) (most : shift ≤ unit + 971)
    (same : k * 2 ^ unit = sig * 2 ^ shift) : Wide k := by
  have lower : 2 ^ k.log2 ≤ k := Nat.log2_self_le (by omega)
  have below : 2 ^ (k.log2 + unit) < 2 ^ (53 + shift) := by
    rw [Nat.pow_add,Nat.pow_add]
    calc 2 ^ k.log2 * 2 ^ unit ≤ k * 2 ^ unit := Nat.mul_le_mul_right _ lower
      _ = sig * 2 ^ shift := same
      _ < 2 ^ 53 * 2 ^ shift := Nat.mul_lt_mul_of_pos_right small (Nat.two_pow_pos shift)
  have room : k.log2 + unit < 53 + shift := (Nat.pow_lt_pow_iff_right (by decide)).mp below
  refine ⟨positive,by omega,?_⟩
  by_cases high : 52 ≤ k.log2
  · have divides : 2 ^ (k.log2 - 52) * 2 ^ unit ∣ k * 2 ^ unit := by
      rw [same,← Nat.pow_add]
      exact Nat.dvd_mul_left_of_dvd (Nat.pow_dvd_pow 2 (by omega)) sig
    exact Nat.dvd_of_mul_dvd_mul_right (Nat.two_pow_pos unit) divides
  · simp [Nat.sub_eq_zero_of_le (Nat.le_of_not_le high)]

theorem orderWhole {k : Nat} (positive : 0 < k) : binaryOrder k 1 = k.log2 := by
  have reached : 2 ^ k.log2 ≤ k := Nat.log2_self_le (by omega)
  have one : Nat.log2 1 = 0 := by decide
  simp [binaryOrder,one,reached]

theorem significandWhole {k : Nat} (wide : Wide k) {e : Int} (exponent : e = (k.log2 : Int) - 52) :
    let s := if 0 ≤ e then roundHalfEven k (1 * Nat.pow 2 e.toNat) else roundHalfEven (k * Nat.pow 2 (-e).toNat) 1
    2 ^ 52 ≤ s ∧ s < 2 ^ 53 ∧ s * 2 ^ e.toNat = k * 2 ^ (-e).toNat := by
  intro s
  have lower : 2 ^ k.log2 ≤ k := Nat.log2_self_le (Nat.pos_iff_ne_zero.mp wide.positive)
  have upper : k < 2 ^ (k.log2 + 1) := Nat.lt_log2_self
  by_cases high : 52 ≤ k.log2
  · have places : e.toNat = k.log2 - 52 := by omega
    have none : (-e).toNat = 0 := by omega
    have own : s = k / 2 ^ (k.log2 - 52) := by
      show (if 0 ≤ e then _ else _) = _
      rw [if_pos (by omega),places,Nat.one_mul]
      exact roundExact (Nat.two_pow_pos _) wide.even
    rw [own,Nat.le_div_iff_mul_le (Nat.two_pow_pos _),Nat.div_lt_iff_lt_mul (Nat.two_pow_pos _),← Nat.pow_add,
      ← Nat.pow_add,places,none,Nat.div_mul_cancel wide.even]
    rw [show 52 + (k.log2 - 52) = k.log2 by omega,show 53 + (k.log2 - 52) = k.log2 + 1 by omega]
    exact ⟨lower,upper,(Nat.mul_one k).symm⟩
  · have places : (-e).toNat = 52 - k.log2 := by omega
    have none : e.toNat = 0 := by omega
    have own : s = k * 2 ^ (52 - k.log2) := by
      show (if 0 ≤ e then _ else _) = _
      rw [if_neg (by omega),places]
      exact (roundExact Nat.one_pos (Nat.one_dvd _)).trans (Nat.div_one _)
    rw [own,places,none]
    refine ⟨?_,?_,Nat.mul_one _⟩
    · calc 2 ^ 52 = 2 ^ k.log2 * 2 ^ (52 - k.log2) := by rw [← Nat.pow_add,show k.log2 + (52 - k.log2) = 52 by omega]
        _ ≤ k * 2 ^ (52 - k.log2) := Nat.mul_le_mul_right _ lower
    · calc k * 2 ^ (52 - k.log2) < 2 ^ (k.log2 + 1) * 2 ^ (52 - k.log2) :=
            Nat.mul_lt_mul_of_pos_right upper (Nat.two_pow_pos _)
        _ = 2 ^ 53 := by rw [← Nat.pow_add,show k.log2 + 1 + (52 - k.log2) = 53 by omega]

theorem shiftedWhole {s k : Nat} {e : Int} (least : -1074 ≤ e) (same : s * 2 ^ e.toNat = k * 2 ^ (-e).toNat) :
    s * Nat.pow 2 (e + 1074).toNat = k * unitsPerOne := by
  obtain ⟨unit,offset,power⟩ := unitsPower
  rw [power,← offset,Nat.pow_eq,Nat.pow_eq]
  rw [← offset] at least
  rcases Int.le_total 0 e with up | down
  · have none : (-e).toNat = 0 := by omega
    rw [none,Nat.pow_zero,Nat.mul_one] at same
    rw [show (e + unit).toNat = e.toNat + unit by omega,Nat.pow_add,← Nat.mul_assoc,same]
  · have none : e.toNat = 0 := by omega
    rw [none,Nat.pow_zero,Nat.mul_one] at same
    rw [same,Nat.mul_assoc,← Nat.pow_add,show (-e).toNat + (e + unit).toNat = unit by omega]

theorem ofRatioWhole {k : Nat} (wide : Wide k) (negative : Bool) :
    ∃ y : Dyadic64, ofRatio negative k 1 = .finite y ∧ y.negative = negative ∧ y.magnitude = k * unitsPerOne := by
  have exponent : max (-1074) (binaryOrder k 1 - 52) = (k.log2 : Int) - 52 := by
    rw [orderWhole wide.positive]
    omega
  have bounds := significandWhole wide exponent
  have bounded := wide.bounded
  unfold ofRatio
  rw [if_neg (Nat.pos_iff_ne_zero.mp wide.positive)]
  dsimp only at bounds ⊢
  generalize (if 0 ≤ max (-1074) (binaryOrder k 1 - 52) then _ else _) = s at bounds ⊢
  obtain ⟨lower,upper,same⟩ := bounds
  have narrow : s ≠ Nat.pow 2 53 := Nat.ne_of_lt upper
  have canonical : Canonical s (max (-1074) (binaryOrder k 1 - 52)) :=
    ⟨upper,by omega,by omega,.inr lower⟩
  simp only [if_neg narrow]
  rw [dif_pos canonical]
  exact ⟨_,rfl,rfl,shiftedWhole (Int.le_max_left _ _) same⟩

theorem wideWhole {x : Dyadic64} {k : Nat} (own : x.magnitude = k * unitsPerOne) (positive : 0 < k) : Wide k := by
  obtain ⟨small,least,most,-⟩ := x.canonical
  obtain ⟨unit,offset,power⟩ := unitsPower
  rw [power] at own
  exact wideOfShift positive small (by omega) own.symm

theorem absUnits (x : Dyadic64) : x.units.natAbs = x.magnitude := by
  unfold Dyadic64.units
  split <;> simp

theorem zeroUnits (negative : Bool) : (Dyadic64.zero negative).units = 0 := by
  simp [Dyadic64.units,Dyadic64.magnitude,Dyadic64.zero]

theorem wholeUnits {x : Dyadic64} (whole : x.isInteger = true) : x.units = x.toInt * unitsPerOne := by
  have exact : x.magnitude / unitsPerOne * unitsPerOne = x.magnitude :=
    Nat.div_mul_cancel (Nat.dvd_of_mod_eq_zero (beq_iff_eq.mp whole))
  unfold Dyadic64.units Dyadic64.toInt
  generalize unitsPerOne = unit at exact ⊢
  split
  · rw [Int.neg_mul,← Int.natCast_mul,exact]
  · rw [← Int.natCast_mul,exact]

theorem sizeWhole {x : Dyadic64} {n : Int} (own : x.units = n * unitsPerOne) :
    x.magnitude = n.natAbs * unitsPerOne := by
  rw [← absUnits,own,Int.natAbs_mul,Int.natAbs_natCast]

theorem unitsWhole {x : Dyadic64} {n : Int} (own : x.units = n * unitsPerOne) : x.isInteger = true ∧ x.toInt = n := by
  have whole : x.isInteger = true := by
    rw [Dyadic64.isInteger,sizeWhole own,Nat.mul_mod_left]
    rfl
  have positive := unitsPositive
  refine ⟨whole,Int.eq_of_mul_eq_mul_right (a := unitsPerOne) (by omega) ?_⟩
  rw [← own,wholeUnits whole]

theorem ofIntRatio {n : Int} (some : n ≠ 0) : ofInt n = ofRatio (decide (n < 0)) n.natAbs 1 := by
  unfold ofInt ofDecimal
  rw [if_neg (Int.natAbs_ne_zero.mpr some),if_pos (by decide),if_neg (by decide)]
  simp

theorem ofIntWhole {x : Dyadic64} {n : Int} (own : x.units = n * unitsPerOne) :
    ∃ y : Dyadic64, ofInt n = .finite y ∧ y.units = x.units := by
  by_cases none : n = 0
  · subst none
    exact ⟨.zero false,rfl,by rw [own,Int.zero_mul,zeroUnits]⟩
  obtain ⟨y,made,sign,same⟩ := ofRatioWhole (wideWhole (sizeWhole own) (Int.natAbs_pos.mpr none)) (decide (n < 0))
  refine ⟨y,(ofIntRatio none).trans made,?_⟩
  rw [own,Dyadic64.units,sign,same,Int.natCast_mul]
  generalize (unitsPerOne : Int) = unit
  by_cases under : n < 0
  · rw [if_pos (by simpa using under),← Int.neg_mul,Int.ofNat_natAbs_of_nonpos (by omega),Int.neg_neg]
  · rw [if_neg (by simpa using under),Int.natAbs_of_nonneg (by omega)]

end FormBuilder.Double
