import FormBuilder.Proofs.Store.Keyed
import FormBuilder.Store.Order
/-! What becomes of the store when it obeys an order, whatever the order asks for. Whatever is carried out, rows of
fields and submissions belong to forms that are there. -/
namespace FormBuilder.Store

theorem formRowKnown {s : Store} {form : Int} {owner : Option String} {r : FormRow}
    (found : s.formRow? form owner = some r) : r ∈ s.forms ∧ r.id = form ∧ ∀ o, owner = some o → r.owner = o := by
  have matched := List.find?_some found
  rw [Bool.and_eq_true,beq_iff_eq] at matched
  refine ⟨List.mem_of_find?_eq_some found,matched.1,?_⟩
  rintro o rfl
  exact (beq_iff_eq.mp matched.2).symm

inductive Obeyed (s : Store) : Order → Store → Prop where
  | refused (o : Order) : Obeyed s o s
  | formAdded {m owner title description settings slug given}
      (free : s.slugRow? (s.madeRow m owner title description slug given).slug = none) :
      Obeyed s (.createForm m owner title description settings slug)
        (s.withForm (s.madeRow m owner title description slug given))
  | columnsChanged {now form owner p r t} (row : s.formRow? form owner = some r) (changed : patched r p = .ok t) :
      Obeyed s (.updateForm now form owner p)
        (s.putForm { t with updatedAt := now })
  | fieldsReplaced {now form fields} (there : fields ≠ [] → ∃ r ∈ s.forms, r.id = form)
      (distinct : Field.distinctIds fields = true) (holds : s.Holds fields) :
      Obeyed s (.replaceFields now form fields) (s.withFields now form (Field.sorted fields))
  | formRemoved {form owner r} (row : s.formRow? form owner = some r) :
      Obeyed s (.deleteForm form owner) (s.withoutForm r.id)
  | submissionAdded {now form data} (there : ∃ r ∈ s.forms, r.id = form) :
      Obeyed s (.createSubmission now form data) { s with
        submissions := s.submissions ++ [⟨nextId (s.submissions.map (·.id)),form,now,data⟩] }

theorem createFormObeyed (s : Store) (m : Mint) (owner title : String) (description : Option String) (settings : Value)
    (slug : Option String) : Obeyed s (.createForm m owner title description settings slug)
      (s.createForm m owner title description settings slug).1 := by
  have created := createFormCreated s m owner title description settings slug
  generalize (s.createForm m owner title description settings slug).1 = t at created ⊢
  generalize (s.createForm m owner title description settings slug).2.2 = outcome at created
  cases created with
  | refused misread => exact .refused _
  | taken => exact .refused _
  | stored read free => exact .formAdded free

theorem updateFormObeyed (s : Store) (now form : Int) (owner : Option String) (p : Patch) :
    Obeyed s (.updateForm now form owner p) (s.updateForm now form owner p).1 := by
  unfold updateForm
  split
  · exact .refused _
  · rename_i row
    split
    · exact .refused _
    · rename_i t changed
      exact .columnsChanged (t := t) row changed

theorem writeFaultTaken {s : Store} {form : Int} {fields : List Field}
    (passes : s.writeFault? form (Field.sorted fields) = none) :
    (fields ≠ [] → ∃ r ∈ s.forms, r.id = form) ∧ Field.distinctIds fields = true ∧ s.Holds fields := by
  by_cases none : fields = []
  · subst none
    exact ⟨fun given => absurd rfl given,rfl,List.forall_mem_nil _,Nat.zero_le _⟩
  · unfold writeFault? at passes
    split at passes
    · contradiction
    split at passes
    · rename_i empty
      exact absurd (sortedEmpty.mp empty) none
    split at passes
    · contradiction
    split at passes
    · contradiction
    rename_i room
    split at passes
    · contradiction
    obtain ⟨readable,-,distinct,known⟩ := (refusalNone _ _ _ _).mp (Option.map_eq_none_iff.mp passes)
    exact ⟨fun _ => known,(sortedDistinct fields).symm.trans (decide_eq_true distinct),
      sortedHolds.mp ⟨readable,Nat.not_lt.mp room⟩⟩

theorem replaceFieldsObeyed (s : Store) (now form : Int) (fields : List Field) :
    Obeyed s (.replaceFields now form fields) (s.replaceFields now form fields).1 := by
  cases fault : s.writeFault? form (Field.sorted fields) with
  | some why =>
    rw [(replaceFieldsFailed fault now).1]
    exact .refused _
  | none =>
    obtain ⟨there,distinct,holds⟩ := writeFaultTaken fault
    rw [(replaceFieldsWritten fault now).1]
    exact .fieldsReplaced there distinct holds

theorem replaceFieldsStored {s : Store} {now form : Int} {fields back : List Field}
    (ok : (s.replaceFields now form fields).2.1 = .ok back) :
    (s.replaceFields now form fields).1 = s.withFields now form (Field.sorted fields) := by
  cases fault : s.writeFault? form (Field.sorted fields) with
  | some why =>
    rw [(replaceFieldsFailed fault now).2] at ok
    contradiction
  | none => exact (replaceFieldsWritten fault now).1

theorem countReplaced (s : Store) (now form : Int) (fields : List Field) :
    (s.withFields now form (Field.sorted fields)).countFields form = fields.length := by
  obtain ⟨start,rows⟩ := fieldRowsReplaced s now form (Field.sorted fields)
  rw [countFields,rows,rowsFromLength,Field.sorted,List.length_mergeSort]

theorem deleteFormObeyed (s : Store) (form : Int) (owner : Option String) :
    Obeyed s (.deleteForm form owner) (s.deleteForm form owner).1 := by
  unfold deleteForm
  split
  · exact .refused _
  · rename_i row
    exact .formRemoved row

theorem createSubmissionObeyed (s : Store) (now form : Int) (data : Object) :
    Obeyed s (.createSubmission now form data) (s.createSubmission now form data).1 := by
  unfold createSubmission
  split
  · exact .refused _
  split
  · rename_i known
    obtain ⟨r,there,own⟩ := List.any_eq_true.mp known
    exact .submissionAdded ⟨r,there,beq_iff_eq.mp own⟩
  · exact .refused _

theorem obeyCases (s : Store) (o : Order) : Obeyed s o (s.obey o) := by
  cases o with
  | createForm m owner title about settings slug => exact createFormObeyed s m owner title about settings slug
  | updateForm now form owner p => exact updateFormObeyed s now form owner p
  | replaceFields now form fields => exact replaceFieldsObeyed s now form fields
  | deleteForm form owner => exact deleteFormObeyed s form owner
  | createSubmission now form data => exact createSubmissionObeyed s now form data

theorem getFieldsCount {s : Store} {form : Int} {fields : List Field} (ok : s.getFields form = .ok fields) :
    fields.length = s.countFields form := by
  rw [readAllLength ok,List.length_mergeSort,countFields]

theorem obeyedForms {holds : FormRow → Prop} {s t : Store} {o : Order} (obeyed : Obeyed s o t)
    (made : ∀ m owner title description settings slug given, o = .createForm m owner title description settings slug →
      holds (s.madeRow m owner title description slug given))
    (changed : ∀ now form owner p r t, o = .updateForm now form owner p → holds r → patched r p = .ok t →
      holds { t with updatedAt := now })
    (touched : ∀ r now, holds r → holds { r with updatedAt := now }) (before : ∀ r ∈ s.forms, holds r) :
    ∀ r ∈ t.forms, holds r := by
  cases obeyed with
  | refused => exact before
  | submissionAdded there => exact before
  | formAdded free =>
    intro r member
    rcases List.mem_append.mp member with earlier | last
    · exact before r earlier
    · rw [List.mem_singleton.mp last]
      exact made _ _ _ _ _ _ _ rfl
  | columnsChanged row patch =>
    intro r member
    obtain ⟨old,known,rfl⟩ := List.mem_map.mp member
    split
    · exact changed _ _ _ _ _ _ rfl (before _ (formRowKnown row).1) patch
    · exact before old known
  | fieldsReplaced there =>
    intro r member
    obtain ⟨old,known,rfl⟩ := List.mem_map.mp member
    split
    · exact touched old _ (before old known)
    · exact before old known
  | formRemoved row => exact fun r member => before r (List.mem_filter.mp member).1

structure Anchored (s : Store) : Prop extends Keyed s where
  submitted : ∀ sub ∈ s.submissions, ∃ r ∈ s.forms, r.id = sub.form

theorem emptyAnchored : Anchored .empty := ⟨emptyKeyed,List.forall_mem_nil _⟩

theorem obeyedKeyed {s t : Store} {o : Order} (obeyed : Obeyed s o t) (keyed : Keyed s) : Keyed t := by
  cases obeyed with
  | refused => exact keyed
  | formAdded free => exact keyed.added rfl free
  | columnsChanged row changed =>
    obtain ⟨id,-,slug,-⟩ := (patchedSame changed).1
    exact keyed.put (formRowKnown row).1 id slug
  | fieldsReplaced there => exact keyed.withFields _ fun given => there fun none => given (by simp [none,Field.sorted])
  | formRemoved row => exact keyed.without _
  | submissionAdded there => exact ⟨keyed.ids,keyed.slugs,keyed.anchored⟩

theorem idMapped {rows : List FormRow} {change : FormRow → FormRow} (same : ∀ r ∈ rows, (change r).id = r.id) {id : Int}
    (there : ∃ r ∈ rows, r.id = id) : ∃ r ∈ rows.map change, r.id = id := by
  obtain ⟨r,known,rfl⟩ := there
  exact ⟨change r,List.mem_map_of_mem known,same r known⟩

theorem obeyedAnchored {s t : Store} {o : Order} (obeyed : Obeyed s o t) (anchored : Anchored s) : Anchored t := by
  refine ⟨obeyedKeyed obeyed anchored.toKeyed,?_⟩
  cases obeyed with
  | refused => exact anchored.submitted
  | formAdded free =>
    intro sub member
    obtain ⟨r,known,part⟩ := anchored.submitted sub member
    exact ⟨r,List.mem_append_left _ known,part⟩
  | columnsChanged row changed =>
    refine fun sub member => idMapped (fun r _ => ?_) (anchored.submitted sub member)
    split
    · rename_i same
      exact same.symm
    · rfl
  | fieldsReplaced there =>
    refine fun sub member => idMapped (fun r _ => ?_) (anchored.submitted sub member)
    split <;> rfl
  | formRemoved row =>
    intro sub member
    obtain ⟨among,other⟩ := List.mem_filter.mp member
    obtain ⟨r,known,part⟩ := anchored.submitted sub among
    exact ⟨r,List.mem_filter.mpr ⟨known,part ▸ other⟩,part⟩
  | submissionAdded there =>
    intro sub member
    rcases List.mem_append.mp member with earlier | last
    · exact anchored.submitted sub earlier
    · rw [List.mem_singleton.mp last]
      exact there

theorem obeyAllRelated (related : Store → Store → Prop) (same : ∀ s, related s s)
    (both : ∀ {s t u}, related s t → related t u → related s u) {orders : List Order}
    (step : ∀ o ∈ orders, ∀ s, related s (s.obey o)) (s : Store) : related s (s.obeyAll orders) := by
  induction orders generalizing s with
  | nil => exact same s
  | cons o rest ih =>
    obtain ⟨first,others⟩ := List.forall_mem_cons.mp step
    exact both (first s) (ih others (s.obey o))

theorem obeyAllKept (holds : Store → Prop) {orders : List Order}
    (step : ∀ o ∈ orders, ∀ s, holds s → holds (s.obey o)) {s : Store} : holds s → holds (s.obeyAll orders) :=
  obeyAllRelated (fun s t => holds s → holds t) (fun _ => id) (fun first later => later ∘ first) step s

theorem obeyAllKeyed {s : Store} (keyed : Keyed s) (orders : List Order) : Keyed (s.obeyAll orders) :=
  obeyAllKept Keyed (fun o _ s => obeyedKeyed (obeyCases s o)) keyed

theorem obeyAllAnchored {s : Store} (anchored : Anchored s) (orders : List Order) : Anchored (s.obeyAll orders) :=
  obeyAllKept Anchored (fun o _ s => obeyedAnchored (obeyCases s o)) anchored

end FormBuilder.Store
