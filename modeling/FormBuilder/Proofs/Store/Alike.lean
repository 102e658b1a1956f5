import FormBuilder.Proofs.Store.Keyed
/-! What an owner finds in a store. Two stores may differ in all that belongs to others, and answer the same. -/
namespace FormBuilder.Store

structure Alike (owner : String) (s t : Store) : Prop where
  forms : s.forms.filter (fun r => r.owner == owner) = t.forms.filter (fun r => r.owner == owner)
  fields : ∀ r ∈ s.forms, r.owner = owner → s.fieldRows r.id = t.fieldRows r.id
  submissions : ∀ r ∈ s.forms, r.owner = owner → s.submissionsOf r.id = t.submissionsOf r.id
  most : s.mostValues = t.mostValues

section
variable {owner : String} {s t : Store} (alike : Alike owner s t)
include alike

theorem Alike.formRow (form : Int) : s.formRow? form (some owner) = t.formRow? form (some owner) := by
  have own (u : Store) : u.formRow? form (some owner) =
      (u.forms.filter (fun r => r.owner == owner)).find? (fun r => r.id == form) := by
    rw [formRow?,List.find?_filter]
    refine congrArg (List.find? · u.forms) (funext fun r => ?_)
    rw [Option.all_some,Bool.and_comm,Bool.beq_comm,Bool.decide_and,Bool.decide_eq_true,Bool.decide_eq_true]
  rw [own,own,alike.forms]

theorem Alike.getFields {r : FormRow} (known : r ∈ s.forms) (own : r.owner = owner) :
    s.getFields r.id = t.getFields r.id := by rw [Store.getFields,alike.fields r known own,Store.getFields]

theorem Alike.countFields {r : FormRow} (known : r ∈ s.forms) (own : r.owner = owner) :
    s.countFields r.id = t.countFields r.id := by rw [Store.countFields,alike.fields r known own,Store.countFields]

theorem Alike.formOf {r : FormRow} (known : r ∈ s.forms) (own : r.owner = owner) : s.formOf r = t.formOf r := by
  rw [Store.formOf,alike.getFields known own,Store.formOf]

theorem Alike.getForm (form : Int) : s.getForm form (some owner) = t.getForm form (some owner) := by
  rw [Store.getForm,Store.getForm,← alike.formRow]
  cases row : s.formRow? form (some owner) with
  | none => rfl
  | some r =>
    obtain ⟨known,-,own⟩ := formRowFound row
    rw [formOf?,alike.formOf known own,formOf?]

theorem Alike.readForms {rows : List FormRow} (known : ∀ r ∈ rows, r ∈ s.forms ∧ r.owner = owner) :
    s.readForms rows = t.readForms rows := by
  induction rows with
  | nil => rfl
  | cons r rest ih =>
    obtain ⟨first,others⟩ := List.forall_mem_cons.mp known
    rw [Store.readForms,alike.formOf first.1 first.2,ih others,Store.readForms]

theorem Alike.listForms : s.listForms owner = t.listForms owner := by
  rw [Store.listForms,Store.listForms,← alike.forms]
  refine alike.readForms fun r member => ?_
  obtain ⟨known,own⟩ := List.mem_filter.mp (List.mem_mergeSort.mp member)
  exact ⟨known,beq_iff_eq.mp own⟩

end

theorem alikeApart {owner : String} {s t : Store} {form : Int} (left : s.formRow? form (some owner) = none)
    (right : t.formRow? form (some owner) = none) (same : s.withoutForm form = t.withoutForm form) : Alike owner s t := by
  have other {u : Store} (none : u.formRow? form (some owner) = none) {r : FormRow} (known : r ∈ u.forms)
      (own : r.owner = owner) : form ≠ r.id := by
    rintro rfl
    simpa [own] using List.find?_eq_none.mp none r known
  have kept {u : Store} (none : u.formRow? form (some owner) = none) :
      (u.withoutForm form).forms.filter (fun r => r.owner == owner) = u.forms.filter (fun r => r.owner == owner) := by
    rw [withoutForm,List.filter_filter]
    refine List.filter_congr fun r known => ?_
    by_cases own : r.owner = owner
    · simpa [own] using Ne.symm (other none known own)
    · simp [own]
  refine ⟨by rw [← kept left,same,kept right],fun r known own => ?_,fun r known own => ?_,
    congrArg (·.mostValues) same⟩
  · have differs := other left known own
    rw [← fieldRowsWithout s differs,same,fieldRowsWithout t differs]
  · have differs := other left known own
    rw [← submissionsWithout s differs,same,submissionsWithout t differs]

end FormBuilder.Store
