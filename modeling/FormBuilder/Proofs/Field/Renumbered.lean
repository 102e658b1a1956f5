import FormBuilder.Field.Basic
/-! Fields numbered anew: only their orders change, and those are their places. -/
namespace FormBuilder.Field

theorem renumberFromIds (start : Nat) (fields : List Field) :
    (renumberFrom start fields).map (·.id) = fields.map (·.id) := by
  induction fields generalizing start with
  | nil => rfl
  | cons f rest ih => simp [renumberFrom,ih]

theorem renumberFromOrders (start : Nat) (fields : List Field) :
    ∀ f ∈ renumberFrom start fields, f.order < start + fields.length := by
  induction fields generalizing start with
  | nil => simp [renumberFrom]
  | cons head rest ih =>
    intro f member
    rw [List.length_cons]
    rcases List.mem_cons.mp member with rfl | later
    · show start < _
      omega
    · have below := ih (start + 1) f later
      omega

theorem renumberFromAscending (start : Nat) (fields : List Field) :
    (renumberFrom start fields).Pairwise (fun f g => f.order ≤ g.order) ∧
    ∀ f ∈ renumberFrom start fields, start ≤ f.order := by
  induction fields generalizing start with
  | nil => simp [renumberFrom]
  | cons f rest ih =>
    obtain ⟨ascending,above⟩ := ih (start + 1)
    constructor
    · refine .cons (fun g later => ?_) ascending
      have after := above g later
      show start ≤ g.order
      omega
    · intro g member
      rcases List.mem_cons.mp member with rfl | later
      · exact Nat.le_refl start
      · have after := above g later
        omega

theorem renumberFromSource (start : Nat) (fields : List Field) :
    ∀ f ∈ renumberFrom start fields, ∃ g ∈ fields, ∃ order, f = { g with order } := by
  induction fields generalizing start with
  | nil => simp [renumberFrom]
  | cons g rest ih =>
    intro f member
    rcases List.mem_cons.mp member with rfl | later
    · exact ⟨g,List.mem_cons_self,start,rfl⟩
    · obtain ⟨h,among,order,same⟩ := ih (start + 1) f later
      exact ⟨h,List.mem_cons_of_mem g among,order,same⟩

theorem renumberFromAt (start : Nat) (fields : List Field) (i : Nat) :
    (renumberFrom start fields)[i]? = fields[i]?.map (fun f => { f with order := start + i }) := by
  induction fields generalizing start i with
  | nil => rfl
  | cons f rest ih =>
    cases i with
    | zero => rfl
    | succ i =>
      rw [renumberFrom,List.getElem?_cons_succ,List.getElem?_cons_succ,ih]
      congr 2
      funext g
      rw [Nat.add_assoc,Nat.add_comm 1 i]

theorem sortedIds (fields : List Field) : ((sorted fields).map (·.id)).Perm (fields.map (·.id)) :=
  (List.mergeSort_perm fields _).map _

end FormBuilder.Field
