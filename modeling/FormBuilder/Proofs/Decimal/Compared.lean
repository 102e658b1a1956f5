import FormBuilder.Proofs.Decimal.Whole
/-! What comparisons tell of two binary64 numbers: only which of them is the lesser. Numbers that are equal stand in
one place of that order, and a whole number stands where its integer does. -/
namespace FormBuilder.Double
open Dyadic64 (unitsPerOne)

def equal : Double → Double → Bool
  | .finite x,.finite y => x.units == y.units
  | .infinite a,.infinite b => a == b
  | _,_ => false

structure Alike (x y : Double) : Prop where
  below : ∀ z, lt x z = lt y z
  above : ∀ z, lt z x = lt z y

theorem Alike.refl (x : Double) : Alike x x := ⟨fun _ => rfl,fun _ => rfl⟩

theorem Alike.trans {x y z : Double} (first : Alike x y) (second : Alike y z) : Alike x z :=
  ⟨fun w => (first.below w).trans (second.below w),fun w => (first.above w).trans (second.above w)⟩

theorem Alike.compared {x x' y y' : Double} (left : Alike x x') (right : Alike y y') : lt x y = lt x' y' :=
  (left.below y).trans (right.above x')

theorem equalAlike {x y : Double} (same : equal x y = true) : Alike x y := by
  cases x with
  | nan => contradiction
  | infinite a =>
    cases y with
    | nan | finite => contradiction
    | infinite b => rw [beq_iff_eq.mp same]; exact Alike.refl _
  | finite x =>
    cases y with
    | nan | infinite => contradiction
    | finite y =>
      have same : x.units = y.units := beq_iff_eq.mp same
      constructor <;> intro z
      · cases z <;> simp [lt,same]
      · cases z with
        | nan => rfl
        | infinite negative => cases negative <;> rfl
        | finite z => simp [lt,same]

theorem equalFinite {x : Double} (finite : x.isFinite = true) : equal x x = true := by
  cases x with
  | nan | infinite => contradiction
  | finite x => exact beq_self_eq_true _

theorem equalWhole {x : Dyadic64} {n : Int} (own : x.units = n * unitsPerOne) : equal (.finite x) (ofInt n) = true := by
  obtain ⟨y,made,same⟩ := ofIntWhole own
  rw [made]
  exact beq_iff_eq.mpr same.symm

theorem isZeroWhole {x : Dyadic64} {n : Int} (own : x.units = n * unitsPerOne) : (finite x).isZero = (n == 0) := by
  have nothing : x.magnitude = 0 ↔ x.significand = 0 := by
    rw [Dyadic64.magnitude,Nat.pow_eq,Nat.mul_eq_zero,or_iff_left (Nat.pos_iff_ne_zero.mp (Nat.two_pow_pos _))]
  have positive := unitsPositive
  have none : n * unitsPerOne = 0 ↔ n = 0 := by rw [Int.mul_eq_zero,or_iff_left (by omega)]
  rw [isZero,Bool.eq_iff_iff,beq_iff_eq,beq_iff_eq,← nothing,← absUnits,Int.natAbs_eq_zero,own,none]

end FormBuilder.Double
