import Mathlib.Data.List.Nodup
import FormBuilder.Proofs.Store.Forms
import FormBuilder.Proofs.Store.Replaced
/-! Forms are told apart by their ids and by their slugs, and rows of fields belong to forms that are there. So
what is written to some forms leaves all others alone. -/
namespace FormBuilder.Store

structure Keyed (s : Store) : Prop where
  ids : (s.forms.map (·.id)).Nodup
  slugs : (s.forms.map (·.slug)).Nodup
  anchored : ∀ r ∈ s.fields, ∃ f ∈ s.forms, f.id = r.form

theorem emptyKeyed : Keyed .empty := ⟨List.nodup_nil,List.nodup_nil,List.forall_mem_nil _⟩

theorem Keyed.byId {s : Store} (keyed : Keyed s) {r t : FormRow} (left : r ∈ s.forms) (right : t ∈ s.forms)
    (same : r.id = t.id) : r = t := List.inj_on_of_nodup_map keyed.ids left right same

theorem Keyed.bySlug {s : Store} (keyed : Keyed s) {r t : FormRow} (left : r ∈ s.forms) (right : t ∈ s.forms)
    (same : r.slug = t.slug) : r = t := List.inj_on_of_nodup_map keyed.slugs left right same

theorem Keyed.formRow {s : Store} (keyed : Keyed s) {r : FormRow} (known : r ∈ s.forms) :
    s.formRow? r.id (some r.owner) = some r := by
  cases found : s.formRow? r.id (some r.owner) with
  | none => simpa using List.find?_eq_none.mp found r known
  | some t =>
    obtain ⟨among,same,-⟩ := formRowFound found
    rw [keyed.byId among known same]

theorem Keyed.vacant {s : Store} (keyed : Keyed s) {id : Int} (unused : ∀ r ∈ s.forms, r.id ≠ id) : s.fieldRows id = [] := by
  refine List.filter_eq_nil_iff.mpr fun row member own => ?_
  obtain ⟨r,known,part⟩ := keyed.anchored row member
  exact unused r known (part.trans (beq_iff_eq.mp own))

theorem slugRowFound {s : Store} {slug : String} {r : FormRow} (found : s.slugRow? slug = some r) :
    r ∈ s.forms ∧ r.slug = slug := ⟨List.mem_of_find?_eq_some found,by simpa using List.find?_some found⟩

theorem slugRowFree {s : Store} {slug : String} : s.slugRow? slug = none ↔ ∀ r ∈ s.forms, r.slug ≠ slug := by
  simp [slugRow?]

theorem Keyed.slugRow {s : Store} (keyed : Keyed s) {r : FormRow} (known : r ∈ s.forms) :
    s.slugRow? r.slug = some r := by
  cases found : s.slugRow? r.slug with
  | none => exact absurd rfl (slugRowFree.mp found r known)
  | some t =>
    obtain ⟨among,same⟩ := slugRowFound found
    rw [keyed.bySlug among known same]

theorem Keyed.mapped {s : Store} (keyed : Keyed s) (change : FormRow → FormRow)
    (same : ∀ r ∈ s.forms, (change r).id = r.id ∧ (change r).slug = r.slug) :
    Keyed { s with forms := s.forms.map change } := by
  have ids : (s.forms.map change).map (·.id) = s.forms.map (·.id) := by
    rw [List.map_map]
    exact List.map_congr_left fun r member => (same r member).1
  have slugs : (s.forms.map change).map (·.slug) = s.forms.map (·.slug) := by
    rw [List.map_map]
    exact List.map_congr_left fun r member => (same r member).2
  refine ⟨ids ▸ keyed.ids,slugs ▸ keyed.slugs,fun r member => ?_⟩
  obtain ⟨f,known,own⟩ := keyed.anchored r member
  exact ⟨change f,List.mem_map_of_mem known,(same f known).1.trans own⟩

theorem Keyed.withFields {s : Store} (keyed : Keyed s) (now : Int) {form : Int} {fields : List Field}
    (there : fields ≠ [] → ∃ r ∈ s.forms, r.id = form) : Keyed (s.withFields now form fields) := by
  have mapped := keyed.mapped (fun old => if old.id = form then { old with updatedAt := now } else old)
    fun old _ => by split <;> exact ⟨rfl,rfl⟩
  refine ⟨mapped.ids,mapped.slugs,fun row member => ?_⟩
  rcases List.mem_append.mp member with other | new
  · exact mapped.anchored row (List.mem_filter.mp other).1
  · have given : fields ≠ [] := by
      rintro rfl
      exact absurd new List.not_mem_nil
    obtain ⟨r,known,rfl⟩ := there given
    exact ⟨_,List.mem_map_of_mem known,by rw [rowsFromForm _ _ _ row new,if_pos rfl]⟩

theorem Keyed.added {s : Store} (keyed : Keyed s) {r : FormRow} (fresh : r.id = nextId (s.forms.map (·.id)))
    (free : s.slugRow? r.slug = none) : Keyed { s with forms := s.forms ++ [r] } := by
  refine ⟨?_,?_,fun row member => ?_⟩
  · rw [List.map_append,List.map_singleton,List.nodup_append]
    refine ⟨keyed.ids,List.nodup_singleton _,fun id earlier id' last same => ?_⟩
    obtain ⟨old,known,rfl⟩ := List.mem_map.mp earlier
    exact nextIdUnused fresh old known (same.trans (List.mem_singleton.mp last))
  · rw [List.map_append,List.map_singleton,List.nodup_append]
    refine ⟨keyed.slugs,List.nodup_singleton _,fun slug earlier slug' last same => ?_⟩
    obtain ⟨old,known,rfl⟩ := List.mem_map.mp earlier
    exact slugRowFree.mp free old known (same.trans (List.mem_singleton.mp last))
  · obtain ⟨f,known,part⟩ := keyed.anchored row member
    exact ⟨f,List.mem_append_left _ known,part⟩

theorem Keyed.put {s : Store} (keyed : Keyed s) {old r : FormRow} (known : old ∈ s.forms) (id : r.id = old.id)
    (slug : r.slug = old.slug) : Keyed (s.putForm r) := by
  refine keyed.mapped _ fun f member => ?_
  split
  · rename_i same
    rw [keyed.byId member known (same.trans id)]
    exact ⟨id,slug⟩
  · exact ⟨rfl,rfl⟩

theorem Keyed.without {s : Store} (keyed : Keyed s) (form : Int) : Keyed (s.withoutForm form) := by
  refine ⟨keyed.ids.sublist (List.filter_sublist.map _),keyed.slugs.sublist (List.filter_sublist.map _),?_⟩
  intro row member
  obtain ⟨among,other⟩ := List.mem_filter.mp member
  obtain ⟨f,there,part⟩ := keyed.anchored row among
  exact ⟨f,List.mem_filter.mpr ⟨there,part ▸ other⟩,part⟩

theorem wroteKeyed {own new : FormRow → Prop} {s t : Store} (wrote : Wrote own new s t) (keyed : Keyed s) : Keyed t := by
  induction wrote with
  | nothing s => exact keyed
  | form s r fresh free tidy may => exact keyed.added fresh free
  | fields s now known mine reads fields distinct fit => exact keyed.withFields now fun _ => ⟨_,known,rfl⟩
  | columns s known mine r id owner slug created tidy was reads => exact keyed.put known id slug
  | removed s known mine => exact keyed.without _
  | submission s known mine row part => exact ⟨keyed.ids,keyed.slugs,keyed.anchored⟩
  | both first later ih ih' => exact ih' (ih keyed)

theorem wroteUnread {own new : FormRow → Prop} {s t : Store} (wrote : Wrote own new s t) (keyed : Keyed s) :
    ∀ r ∈ t.forms, ¬ Readable r → r ∈ s.forms ∨ new r := by
  induction wrote with
  | nothing s => exact fun r member _ => .inl member
  | form s r fresh free tidy may =>
    intro f member _
    rcases List.mem_append.mp member with earlier | last
    · exact .inl earlier
    · exact .inr (List.mem_singleton.mp last ▸ may)
  | @fields s now r known mine reads fields distinct fit =>
    intro f member unread
    obtain ⟨old,earlier,rfl⟩ := List.mem_map.mp member
    by_cases same : old.id = r.id
    · simp only [keyed.byId earlier known same] at unread
      exact absurd reads unread
    · simpa only [if_neg same] using .inl earlier
  | columns s known mine r id owner slug created tidy was reads =>
    intro f member unread
    obtain ⟨old,earlier,rfl⟩ := List.mem_map.mp member
    by_cases same : old.id = r.id
    · simp only [if_pos same] at unread
      exact absurd reads unread
    · simpa only [if_neg same] using .inl earlier
  | removed s known mine => exact fun f member _ => .inl (List.mem_filter.mp member).1
  | submission s known mine row part => exact fun f member _ => .inl member
  | both first later ih ih' =>
    intro f member unread
    rcases ih' (wroteKeyed first keyed) f member unread with before | made
    · exact ih keyed f before unread
    · exact .inr made

theorem filterOther {rows : List α} (key : α → Int) {gone asked : Int} (differs : gone ≠ asked) :
    (rows.filter (fun r => key r != gone)).filter (fun r => key r == asked) = rows.filter (fun r => key r == asked) := by
  rw [List.filter_filter]
  refine List.filter_congr fun r _ => ?_
  by_cases part : key r = asked
  · simp [part,Ne.symm differs]
  · simp [part]

theorem fieldRowsWithout (s : Store) {gone asked : Int} (differs : gone ≠ asked) :
    (s.withoutForm gone).fieldRows asked = s.fieldRows asked := filterOther FieldRow.form differs

theorem submissionsWithout (s : Store) {gone asked : Int} (differs : gone ≠ asked) :
    (s.withoutForm gone).submissionsOf asked = s.submissionsOf asked := filterOther Submission.form differs

structure Undisturbed (owner : String) (s t : Store) : Prop where
  forms : t.forms.filter (fun r => r.owner != owner) = s.forms.filter (fun r => r.owner != owner)
  fields : ∀ r ∈ s.forms, r.owner ≠ owner → t.fieldRows r.id = s.fieldRows r.id
  submissions : ∀ r ∈ s.forms, r.owner ≠ owner → t.submissionsOf r.id = s.submissionsOf r.id

theorem Undisturbed.there {owner : String} {s t : Store} (spared : Undisturbed owner s t) {r : FormRow}
    (known : r ∈ s.forms) (other : r.owner ≠ owner) : r ∈ t.forms := by
  have among : r ∈ s.forms.filter (fun r => r.owner != owner) := List.mem_filter.mpr ⟨known,by simpa using other⟩
  exact (List.mem_filter.mp (spared.forms ▸ among)).1

theorem othersMapped {owner : String} {rows : List FormRow} {change : FormRow → FormRow}
    (same : ∀ r ∈ rows, change r = r ∨ r.owner = owner ∧ (change r).owner = owner) :
    (rows.map change).filter (fun r => r.owner != owner) = rows.filter (fun r => r.owner != owner) := by
  have stays : rows.filter (fun r => (change r).owner != owner) = rows.filter (fun r => r.owner != owner) := by
    refine List.filter_congr fun r member => ?_
    rcases same r member with same | ⟨own,still⟩
    · rw [same]
    · rw [own,still]
  rw [List.filter_map,Function.comp_def,stays]
  refine (List.map_congr_left fun r member => ?_).trans (List.map_id _)
  obtain ⟨among,other⟩ := List.mem_filter.mp member
  exact (same r among).resolve_right fun own => by simp [own.1] at other

theorem wroteUndisturbed {owner : String} {s t : Store} (wrote : Wrote (·.owner = owner) (·.owner = owner) s t)
    (keyed : Keyed s) : Undisturbed owner s t := by
  -- A form that is changed is the owner's, so a form of somebody else has another id.
  have apart {s : Store} (keyed : Keyed s) {r f : FormRow} (known : r ∈ s.forms) (mine : r.owner = owner)
      (among : f ∈ s.forms) (other : f.owner ≠ owner) : r.id ≠ f.id := by
    intro same
    exact other (keyed.byId known among same ▸ mine)
  induction wrote with
  | nothing s => exact ⟨rfl,fun _ _ _ => rfl,fun _ _ _ => rfl⟩
  | form s r fresh free tidy may => exact ⟨by simp [may],fun _ _ _ => rfl,fun _ _ _ => rfl⟩
  | @fields s now r known mine reads fields distinct fit =>
    refine ⟨othersMapped fun old member => ?_,fun f among other => ?_,fun _ _ _ => rfl⟩
    · by_cases same : old.id = r.id
      · rw [keyed.byId member known same]
        exact .inr ⟨mine,by simpa using mine⟩
      · exact .inl (if_neg same)
    · exact fieldRowsOther s now (Ne.symm (apart keyed known mine among other)) fields
  | @columns s old known mine r id held slug created tidy was reads =>
    refine ⟨othersMapped fun f member => ?_,fun _ _ _ => rfl,fun _ _ _ => rfl⟩
    by_cases same : f.id = r.id
    · rw [keyed.byId member known (same.trans id),if_pos id.symm,held]
      exact .inr ⟨mine,mine⟩
    · exact .inl (if_neg same)
  | @removed s r known mine =>
    refine ⟨?_,fun f among other => ?_,fun f among other => ?_⟩
    · rw [withoutForm,List.filter_filter]
      refine List.filter_congr fun f among => ?_
      by_cases other : f.owner = owner
      · simp [other]
      · simpa [other] using Ne.symm (apart keyed known mine among other)
    · exact fieldRowsWithout s (apart keyed known mine among other)
    · exact submissionsWithout s (apart keyed known mine among other)
  | @submission s r known mine row part =>
    refine ⟨rfl,fun _ _ _ => rfl,fun f among other => ?_⟩
    have differs := apart keyed known mine among other
    simp [submissionsOf,part,differs]
  | both first later ih ih' =>
    have before := ih keyed
    have after := ih' (wroteKeyed first keyed)
    refine ⟨after.forms.trans before.forms,fun f among other => ?_,fun f among other => ?_⟩
    · exact (after.fields f (before.there among other) other).trans (before.fields f among other)
    · exact (after.submissions f (before.there among other) other).trans (before.submissions f among other)

end FormBuilder.Store
