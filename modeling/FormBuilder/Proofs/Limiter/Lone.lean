import FormBuilder.Proofs.Limiter.Windows
import Mathlib.Data.List.Basic
/-! The requests of one key, by their moments: a window lets the first few through and no more, and no stretch of a
window's length, wherever it begins, sees two full windows. -/
namespace FormBuilder.Limiter
variable {τ : Type} [LinearOrder τ]

theorem splitAt {times : List τ} (ordered : times.Pairwise (· ≤ ·)) (start : τ) :
    ∃ early soon, times = early ++ soon ∧ (∀ t ∈ early, t < start) ∧ ∀ t ∈ soon, start ≤ t := by
  induction times with
  | nil => exact ⟨[],[],rfl,List.forall_mem_nil _,List.forall_mem_nil _⟩
  | cons t rest ih =>
    obtain ⟨first,ordered⟩ := List.pairwise_cons.mp ordered
    by_cases before : t < start
    · obtain ⟨early,soon,same,early',soon'⟩ := ih ordered
      exact ⟨t :: early,soon,by rw [same,List.cons_append],List.forall_mem_cons.mpr ⟨before,early'⟩,soon'⟩
    · have begun : start ≤ t := not_lt.mp before
      exact ⟨[],t :: rest,rfl,List.forall_mem_nil _,
        List.forall_mem_cons.mpr ⟨begun,fun x later => begun.trans (first x later)⟩⟩

variable [AddCommGroup τ]

def passes (most : Int) (length : τ) (key : String) (v : Option (Window τ)) : List τ → List τ
  | [] => []
  | t :: rest =>
    let outcome := weigh most t key (v.filter (Window.lasts length t))
    if outcome.2 then t :: passes most length key (some outcome.1) rest else passes most length key (some outcome.1) rest

def lastWindow (most : Int) (length : τ) (key : String) (v : Option (Window τ)) (times : List τ) : Option (Window τ) :=
  times.foldl (fun v t => some (weigh most t key (v.filter (Window.lasts length t))).1) v

theorem passesAppend (most : Int) (length : τ) (key : String) (v : Option (Window τ)) (xs ys : List τ) :
    passes most length key v (xs ++ ys) =
      passes most length key v xs ++ passes most length key (lastWindow most length key v xs) ys := by
  induction xs generalizing v with
  | nil => rfl
  | cons t rest ih =>
    simp only [List.cons_append,passes,ih]
    split <;> rfl

theorem passesAmong (most : Int) (length : τ) (key : String) (v : Option (Window τ)) (times : List τ) :
    (passes most length key v times).Sublist times := by
  induction times generalizing v with
  | nil => exact .slnil
  | cons t rest ih =>
    simp only [passes]
    split
    · exact (ih _).cons_cons t
    · exact (ih _).cons t

theorem lastingSome {length t : τ} {w : Window τ} (lasts : t < w.openedAt + length) :
    (some w).filter (Window.lasts length t) = some w := by simp [Option.filter,Window.lasts,lasts]

theorem lastingNone {length t : τ} {w : Window τ} (passed : w.openedAt + length ≤ t) :
    (some w).filter (Window.lasts length t) = none := by simp [Option.filter,Window.lasts,passed]

theorem passesNone {most : Int} {length : τ} {key : String} {v : Option (Window τ)} {t : τ}
    (free : v.filter (Window.lasts length t) = none) (rest : List τ) :
    passes most length key v (t :: rest) = t :: passes most length key (some ⟨key,t,1⟩) rest := by
  simp only [passes,free,weigh,if_true]

theorem passesTake {most : Int} {length : τ} {key : String} (w : Window τ) {times : List τ}
    (ordered : times.Pairwise (· ≤ ·)) :
    (passes most length key (some w) times).filter (fun t => decide (t < w.openedAt + length)) =
      (times.filter (fun t => decide (t < w.openedAt + length))).take (most - w.count).toNat := by
  induction times generalizing w with
  | nil => simp [passes]
  | cons t rest ih =>
    obtain ⟨first,ordered⟩ := List.pairwise_cons.mp ordered
    by_cases lasts : t < w.openedAt + length
    · simp only [passes,lastingSome lasts,weigh]
      by_cases full : most ≤ w.count
      · have none : (most - w.count).toNat = 0 := by omega
        simp [full,ih w ordered,none]
      · have one : (most - w.count).toNat = (most - (w.count + 1 : Nat)).toNat + 1 := by omega
        rw [one]
        simp [full,lasts,ih { w with count := w.count + 1 } ordered]
    · have late (x : τ) (member : x ∈ t :: rest) : ¬ x < w.openedAt + length := by
        rcases List.mem_cons.mp member with rfl | later
        · exact lasts
        · exact fun early => lasts (lt_of_le_of_lt (first x later) early)
      have nothing : (t :: rest).filter (fun t => decide (t < w.openedAt + length)) = [] :=
        List.filter_eq_nil_iff.mpr fun x member => by simpa using late x member
      rw [nothing,List.take_nil]
      exact List.filter_eq_nil_iff.mpr fun x member => by
        simpa using late x ((passesAmong most length key (some w) _).subset member)

theorem lastWindowKept (most : Int) {length : τ} (key : String) (w : Window τ) {times : List τ}
    (lasting : ∀ t ∈ times, t < w.openedAt + length) :
    ∃ w', lastWindow most length key (some w) times = some w' ∧ w'.openedAt = w.openedAt := by
  induction times generalizing w with
  | nil => exact ⟨w,rfl,rfl⟩
  | cons t rest ih =>
    obtain ⟨lasts,lasting⟩ := List.forall_mem_cons.mp lasting
    simp only [lastWindow,List.foldl_cons,lastingSome lasts,weigh]
    split
    · exact ih w lasting
    · exact ih { w with count := w.count + 1 } lasting

theorem lastWindowCount {most : Int} (positive : 1 ≤ most) (length : τ) (key : String) {v : Option (Window τ)}
    (counted : ∀ w, v = some w → 1 ≤ w.count ∧ w.count ≤ most) (times : List τ) :
    ∀ w, lastWindow most length key v times = some w → 1 ≤ w.count ∧ w.count ≤ most := by
  induction times generalizing v with
  | nil => exact counted
  | cons t rest ih =>
    refine ih ?_
    intro w same
    dsimp only at same
    cases lasting : v.filter (Window.lasts length t) with
    | none =>
      rw [lasting] at same
      cases same
      exact ⟨Nat.le_refl 1,positive⟩
    | some u =>
      obtain ⟨one,few⟩ := counted u (Option.filter_eq_some_iff.mp lasting).1
      rw [lasting,weigh] at same
      split at same
      · cases same
        exact ⟨one,few⟩
      · cases same
        exact ⟨Nat.le_succ_of_le one,by simp only [Int.natCast_add,Int.natCast_one]; omega⟩

variable [IsOrderedAddMonoid τ]

theorem passesFresh {most : Int} (positive : 1 ≤ most) (length : τ) (key : String) {start t : τ} {v : Option (Window τ)}
    (free : v.filter (Window.lasts length t) = none) (begun : start ≤ t) {rest : List τ}
    (ordered : rest.Pairwise (· ≤ ·)) :
    (((passes most length key v (t :: rest)).filter (fun x => decide (x < start + length))).length : Int) ≤ most := by
  have inner : ((passes most length key (some ⟨key,t,1⟩) rest).filter (fun x => decide (x < start + length))).Sublist
      ((passes most length key (some ⟨key,t,1⟩) rest).filter (fun x => decide (x < t + length))) :=
    List.monotone_filter_right _ fun x early => by
      simp only [decide_eq_true_iff] at early ⊢
      exact lt_of_lt_of_le early (add_le_add_left begun length)
  have few := inner.length_le
  rw [passesTake ⟨key,t,1⟩ ordered] at few
  have fits : _ ≤ (most - 1).toNat := few.trans (List.length_take_le _ _)
  rw [passesNone free,List.filter_cons]
  split
  · simp only [List.length_cons]
    omega
  · omega

theorem passesSoon {most : Int} (positive : 1 ≤ most) (length : τ) (key : String) {start : τ} {w : Window τ}
    (few : w.count ≤ most) {times : List τ} (ordered : times.Pairwise (· ≤ ·)) (begun : ∀ t ∈ times, start ≤ t) :
    (((passes most length key (some w) times).filter (fun x => decide (x < start + length))).length : Int) ≤
      2 * most - w.count := by
  induction times generalizing w with
  | nil =>
    simp only [passes,List.filter_nil,List.length_nil]
    omega
  | cons t rest ih =>
    obtain ⟨-,ordered⟩ := List.pairwise_cons.mp ordered
    obtain ⟨first,begun⟩ := List.forall_mem_cons.mp begun
    by_cases lasts : t < w.openedAt + length
    · simp only [passes,lastingSome lasts,weigh]
      by_cases full : most ≤ w.count
      · simpa [full] using ih few ordered begun
      · have next := ih (w := { w with count := w.count + 1 }) (by simp only [Int.natCast_add,Int.natCast_one]; omega) ordered begun
        simp only [Int.natCast_add,Int.natCast_one] at next
        simp only [full,if_false,if_true,List.filter_cons]
        split
        · simp only [List.length_cons,Int.natCast_add,Int.natCast_one]
          omega
        · omega
    · have fresh := passesFresh positive length key (lastingNone (not_lt.mp lasts)) first ordered
      omega

theorem passesWithin {most : Int} (positive : 1 ≤ most) (length : τ) (key : String) {times : List τ}
    (ordered : times.Pairwise (· ≤ ·)) (start : τ) :
    (((passes most length key none times).filter (fun x => decide (start ≤ x ∧ x < start + length))).length : Int) ≤
      2 * most - 1 := by
  obtain ⟨early,soon,rfl,before,begun⟩ := splitAt ordered start
  obtain ⟨-,ordered,-⟩ := List.pairwise_append.mp ordered
  have earlier : (passes most length key none early).filter (fun x => decide (start ≤ x ∧ x < start + length)) = [] :=
    List.filter_eq_nil_iff.mpr fun x member inside =>
      absurd (of_decide_eq_true inside).1 (not_le.mpr (before x ((passesAmong _ _ _ _ _).subset member)))
  rw [passesAppend,List.filter_append,earlier,List.nil_append]
  have counts := lastWindowCount positive length key (v := none) (by simp) early
  generalize lastWindow most length key none early = v at counts
  have inner : ((passes most length key v soon).filter (fun x => decide (start ≤ x ∧ x < start + length))).Sublist
      ((passes most length key v soon).filter (fun x => decide (x < start + length))) :=
    List.monotone_filter_right _ fun x inside => decide_eq_true (of_decide_eq_true inside).2
  have fewer := inner.length_le
  cases v with
  | none =>
    cases soon with
    | nil =>
      simp only [passes,List.filter_nil,List.length_nil]
      omega
    | cons t rest =>
      have fresh := passesFresh positive length key (v := none) rfl (begun t List.mem_cons_self)
        (List.pairwise_cons.mp ordered).2
      omega
  | some w =>
    obtain ⟨one,few⟩ := counts w rfl
    have soon := passesSoon positive length key few ordered begun
    omega

theorem passesUpTo {most : Int} (positive : 1 ≤ most) (length : τ) (key : String) {times : List τ}
    (ordered : times.Pairwise (· ≤ ·)) (start : τ) :
    (((passes most length key none times).filter (fun x => decide (start < x ∧ x ≤ start + length))).length : Int) ≤
      2 * most - 1 := by
  have among : ((passes most length key none times).filter (fun x => decide (start < x ∧ x ≤ start + length))).Sublist
      (passes most length key none times) := List.filter_sublist
  have sorted := (ordered.sublist (passesAmong most length key none times)).sublist among
  cases stretch : (passes most length key none times).filter (fun x => decide (start < x ∧ x ≤ start + length)) with
  | nil =>
    simp only [List.length_nil]
    omega
  | cons t rest =>
    rw [stretch] at among sorted
    have inside (x : τ) (member : x ∈ t :: rest) : start < x ∧ x ≤ start + length := by
      rw [← stretch] at member
      exact of_decide_eq_true (List.mem_filter.mp member).2
    have whole : (t :: rest).filter (fun x => decide (t ≤ x ∧ x < t + length)) = t :: rest := by
      refine List.filter_eq_self.mpr fun x member => decide_eq_true ⟨?_,?_⟩
      · rcases List.mem_cons.mp member with rfl | later
        · exact le_refl _
        · exact (List.pairwise_cons.mp sorted).1 x later
      · exact lt_of_le_of_lt (inside x member).2 (add_lt_add_left (inside t List.mem_cons_self).1 length)
    have few := passesWithin positive length key ordered t
    have fits := (among.filter (fun x => decide (t ≤ x ∧ x < t + length))).length_le
    rw [whole] at fits
    omega

end FormBuilder.Limiter
