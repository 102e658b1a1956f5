import FormBuilder.Proofs.Service.Orders
/-! Rows whose form is gone. There are none, whatever becomes of the store, so the id of a form that was deleted is
given out again with nothing left under it. -/
namespace FormBuilder

namespace Store

theorem Anchored.vacant {s : Store} (anchored : Anchored s) {id : Int} (unused : ∀ r ∈ s.forms, r.id ≠ id) :
    s.fieldRows id = [] ∧ s.submissionsOf id = [] := by
  refine ⟨anchored.toKeyed.vacant unused,List.filter_eq_nil_iff.mpr fun sub member own => ?_⟩
  obtain ⟨r,known,part⟩ := anchored.submitted sub member
  exact unused r known (part.trans (beq_iff_eq.mp own))

structure Removed (s t : Store) (r : FormRow) : Prop where
  forms : ∃ before after, s.forms = before ++ r :: after ∧ t.forms = before ++ after
  fields : t.fields = s.fields.filter (fun row => row.form != r.id)
  submissions : t.submissions = s.submissions.filter (fun sub => sub.form != r.id)

theorem withoutRemoved {s : Store} (keyed : Keyed s) {r : FormRow} (known : r ∈ s.forms) :
    Removed s (s.withoutForm r.id) r := by
  obtain ⟨before,after,split⟩ := List.append_of_mem known
  have distinct := keyed.ids
  rw [split,List.map_append,List.map_cons,List.nodup_middle,List.nodup_cons,← List.map_append] at distinct
  refine ⟨⟨before,after,split,?_⟩,rfl,rfl⟩
  have others : ∀ f ∈ before ++ after, (f.id != r.id) = true := fun f member =>
    bne_iff_ne.mpr fun same => distinct.1 (List.mem_map.mpr ⟨f,member,same⟩)
  rw [withoutForm,split,List.filter_append,List.filter_cons_of_neg (by simp),← List.filter_append]
  exact List.filter_eq_self.mpr others

theorem obeyedIds {s t : Store} {o : Order} (obeyed : Obeyed s o t)
    (other : ∀ m owner title description settings slug, o ≠ .createForm m owner title description settings slug) :
    ∀ f ∈ t.forms, ∃ r ∈ s.forms, r.id = f.id := by
  intro f member
  cases obeyed with
  | refused => exact ⟨f,member,rfl⟩
  | submissionAdded there => exact ⟨f,member,rfl⟩
  | formAdded free => exact absurd rfl (other _ _ _ _ _ _)
  | @columnsChanged now form owner p r t row changed =>
    obtain ⟨old,known,rfl⟩ := List.mem_map.mp member
    refine ⟨old,known,?_⟩
    split
    · assumption
    · rfl
  | fieldsReplaced there =>
    obtain ⟨old,known,rfl⟩ := List.mem_map.mp member
    exact ⟨old,known,by split <;> rfl⟩
  | formRemoved row => exact ⟨f,(List.mem_filter.mp member).1,rfl⟩

theorem obeyAllIds {s : Store} {orders : List Order} (other : ∀ o ∈ orders, ∀ m owner title description settings slug,
    o ≠ .createForm m owner title description settings slug) :
    ∀ f ∈ (s.obeyAll orders).forms, ∃ r ∈ s.forms, r.id = f.id := by
  refine obeyAllRelated (fun s t => ∀ f ∈ t.forms, ∃ r ∈ s.forms, r.id = f.id) (fun _ f member => ⟨f,member,rfl⟩)
    (fun first later f member => ?_) (fun o among s => obeyedIds (obeyCases s o) (other o among)) s
  obtain ⟨r,known,own⟩ := later f member
  obtain ⟨old,earlier,same⟩ := first r known
  exact ⟨old,earlier,same.trans own⟩

structure Bare (t : Store) (form : Int) (fields : List Field) : Prop where
  rows : ∃ start, t.fieldRows form = rowsFrom start form (Field.sorted fields)
  unanswered : t.submissionsOf form = []

theorem bareNone {t : Store} {form : Int} (vacant : t.fieldRows form = [] ∧ t.submissionsOf form = []) :
    Bare t form [] := ⟨⟨0,by rw [vacant.1,List.isEmpty_iff.mp (sortedEmpty.mpr rfl)]; rfl⟩,vacant.2⟩

theorem obeyedBare {s t : Store} (anchored : Anchored s) {o : Order} (obeyed : Obeyed s o t) :
    ∀ f ∈ t.forms, (∀ r ∈ s.forms, r.id ≠ f.id) → Bare t f.id [] := by
  intro f member unused
  cases o with
  | createForm m owner title description settings slug =>
    cases obeyed with
    | refused => exact absurd rfl (unused f member)
    | formAdded free => exact bareNone (anchored.vacant unused)
  | _ =>
    obtain ⟨r,known,same⟩ := obeyedIds obeyed (fun _ _ _ _ _ _ => nofun) f member
    exact absurd same (unused r known)

theorem createFormMade {s : Store} {m : Mint} {owner title : String} {description : Option String} {settings : Value}
    {slug : Option String} {f : Form} (made : (s.createForm m owner title description settings slug).2.2 = .ok f) :
    ∃ r : FormRow, (s.createForm m owner title description settings slug).1 = s.withForm r ∧ f.id = some r.id := by
  have created := createFormCreated s m owner title description settings slug
  rw [made] at created
  generalize (s.createForm m owner title description settings slug).1 = t at created ⊢
  generalize outcome : Except.ok f = out at created
  cases created with
  | refused misread => cases outcome
  | taken => cases outcome
  | @stored given read free =>
    refine ⟨_,rfl,?_⟩
    cases reads : Settings.ofObject (s.madeRow m owner title description slug given).settings with
    | error faults =>
      rw [toFormMisread reads] at outcome
      cases outcome
    | ok later =>
      rw [toFormReads reads] at outcome
      cases outcome
      rfl

theorem filledBare {s : Store} (anchored : Anchored s) {m : Mint} {owner title : String} {description : Option String}
    {settings : Value} {slug : Option String} {made : Form}
    (ok : (s.createForm m owner title description settings slug).2.2 = .ok made) (now : Int) (fields : List Field) :
    let orders : List Order := [.createForm m owner title description settings slug,
      .replaceFields now (made.id.getD 0) fields]
    ∀ f ∈ (s.obeyAll orders).forms, (∀ r ∈ s.forms, r.id ≠ f.id) →
      Bare (s.obeyAll orders) f.id [] ∨ Bare (s.obeyAll orders) f.id fields := by
  intro orders f member unused
  obtain ⟨r,put,id⟩ := createFormMade ok
  have first : s.obey (.createForm m owner title description settings slug) = s.withForm r := put
  have obeyed := obeyCases (s.withForm r) (.replaceFields now r.id fields)
  have left : s.obeyAll orders = (s.withForm r).obey (.replaceFields now r.id fields) := by
    rw [← first,← show made.id.getD 0 = r.id by rw [id]; rfl]
    rfl
  rw [left] at member ⊢
  obtain ⟨old,known,same⟩ := obeyedIds obeyed (fun _ _ _ _ _ _ => nofun) f member
  -- The form is the one that was put in: the others were there before.
  have own : f.id = r.id := by
    rcases List.mem_append.mp known with earlier | last
    · exact absurd same (unused old earlier)
    · rw [← same,List.mem_singleton.mp last]
  obtain ⟨rows,answers⟩ := anchored.vacant unused
  rw [own] at rows answers ⊢
  generalize (s.withForm r).obey (.replaceFields now r.id fields) = t at obeyed ⊢
  cases obeyed with
  | refused => exact .inl (bareNone ⟨rows,answers⟩)
  | fieldsReplaced there => exact .inr ⟨fieldRowsReplaced _ now r.id _,answers⟩

theorem deleteFormRemoves {s : Store} (keyed : Keyed s) (form : Int) (owner : Option String) :
    (∃ r, s.formRow? form owner = some r ∧ (s.deleteForm form owner).2 = true ∧
      Removed s (s.deleteForm form owner).1 r) ∨
    s.formRow? form owner = none ∧ s.deleteForm form owner = (s,false) := by
  cases row : s.formRow? form owner with
  | none => exact .inr ⟨rfl,deleteFormMissing row⟩
  | some r =>
    rw [deleteFormDone row]
    exact .inl ⟨r,rfl,rfl,withoutRemoved keyed (formRowKnown row).1⟩

end Store

namespace Service
open Store (Anchored Removed Bare fits)

theorem deleteFormRemoves {s : Service} (keyed : Store.Keyed s.store) (owner : String) (form : Int) :
    (∃ r, r.id = form ∧ r.owner = owner ∧ (s.deleteForm owner form).2 = .ok () ∧
      Removed s.store (s.deleteForm owner form).1.store r) ∨
    ∃ fault, (s.deleteForm owner form).2 = .error fault ∧ (s.deleteForm owner form).1.store = s.store ∧
      (fits form = false ∨ s.store.formRow? form (some owner) = none) := by
  unfold deleteForm
  split
  · rename_i large
    exact .inr ⟨_,rfl,rfl,.inl (by simpa using large)⟩
  rcases Store.deleteFormRemoves keyed form (some owner) with ⟨r,row,done,removed⟩ | ⟨none,missing⟩
  · obtain ⟨-,id,held⟩ := Store.formRowFound row
    exact .inl ⟨r,id,held,by simp [done],removed⟩
  · rw [missing]
    exact .inr ⟨_,rfl,rfl,.inr none⟩

inductive Brings (s : Service) : Deed → List Field → Prop where
  | none (d : Deed) : Brings s d []
  | given {owner rawTitle about settings source prepared m} (ready : prepare source s.mint = (.ok prepared,m)) :
      Brings s (.move (.ask (.createForm owner rawTitle about settings source))) prepared
  | copied {owner form source} (found : s.owned owner form = .ok source) :
      Brings s (.move (.ask (.duplicateForm owner form))) (source.fields.map Field.cleaned)

theorem actAnchored {s : Service} (anchored : Anchored s.store) (d : Deed) : Anchored (s.act d).store := by
  cases d with
  | order o => exact Store.obeyedAnchored (Store.obeyCases s.store o) anchored
  | lock held => exact ⟨⟨anchored.ids,anchored.slugs,anchored.anchored⟩,anchored.submitted⟩
  | move move =>
    cases move with
    | renew m => exact anchored
    | ask c =>
      obtain ⟨⟨orders,-,left⟩,-⟩ := callDoes s c
      have same : (s.act (.move (.ask c))).store = s.store.obeyAll orders := left
      rw [same]
      exact Store.obeyAllAnchored anchored orders

theorem actAllAnchored {s : Service} (anchored : Anchored s.store) (deeds : List Deed) :
    Anchored (s.actAll deeds).store := by
  induction deeds generalizing s with
  | nil => exact anchored
  | cons d rest ih => exact ih (actAnchored anchored d)

theorem asksBare {s : Service} (anchored : Anchored s.store) {c : Call} {orders : List Store.Order}
    (asks : Asks s c orders) : ∀ f ∈ (s.store.obeyAll orders).forms, (∀ r ∈ s.store.forms, r.id ≠ f.id) →
      ∃ fields, Brings s (.move (.ask c)) fields ∧ Bare (s.store.obeyAll orders) f.id fields := by
  intro f member unused
  cases asks with
  | make ready =>
    rw [Store.obeyAllOne] at member ⊢
    exact ⟨[],.none _,Store.obeyedBare anchored (Store.obeyCases _ _) f member unused⟩
  | copy found named =>
    rw [Store.obeyAllOne] at member ⊢
    exact ⟨[],.none _,Store.obeyedBare anchored (Store.obeyCases _ _) f member unused⟩
  | fill ready made =>
    rcases Store.filledBare anchored made _ _ f member unused with none | all
    · exact ⟨[],.none _,none⟩
    · exact ⟨_,.given ready,all⟩
  | copyFilled found named made =>
    rcases Store.filledBare anchored made _ _ f member unused with none | all
    · exact ⟨[],.none _,none⟩
    · exact ⟨_,.copied found,all⟩
  | _ =>
    obtain ⟨r,known,same⟩ := Store.obeyAllIds (by simp) f member
    exact absurd same (unused r known)

theorem actBare {s : Service} (anchored : Anchored s.store) (d : Deed) :
    ∀ f ∈ (s.act d).store.forms, (∀ r ∈ s.store.forms, r.id ≠ f.id) →
      ∃ fields, Brings s d fields ∧ Bare (s.act d).store f.id fields := by
  intro f member unused
  cases d with
  | order o => exact ⟨[],.none _,Store.obeyedBare anchored (Store.obeyCases s.store o) f member unused⟩
  | lock held => exact absurd rfl (unused f member)
  | move move =>
    cases move with
    | renew m => exact absurd rfl (unused f member)
    | ask c =>
      obtain ⟨⟨orders,asks,left⟩,-⟩ := callDoes s c
      have same : (s.act (.move (.ask c))).store = s.store.obeyAll orders := left
      rw [same] at member ⊢
      exact asksBare anchored asks f member unused

/-- Whatever becomes of the store, every row of fields and every submission belongs to a form that is there, and no
two forms share an id. A form that is deleted goes with all that is its own and nothing else, and a form that is put
in, also under an id that was given out before, starts with the fields it was made with, or with none, and with no
submissions. -/
theorem nothingInherited (limiter : Option (Limiter Double)) (m : Mint) (deeds : List Deed) :
    let s := (start limiter m).actAll deeds
    (s.store.forms.map (·.id)).Nodup ∧
    (∀ row ∈ s.store.fields, ∃ r ∈ s.store.forms, r.id = row.form) ∧
    (∀ sub ∈ s.store.submissions, ∃ r ∈ s.store.forms, r.id = sub.form) ∧
    (∀ form owner, (∃ r, s.store.formRow? form owner = some r ∧ (s.store.deleteForm form owner).2 = true ∧
        Removed s.store (s.store.deleteForm form owner).1 r) ∨
      s.store.formRow? form owner = none ∧ s.store.deleteForm form owner = (s.store,false)) ∧
    (∀ owner form, (∃ r, r.id = form ∧ r.owner = owner ∧ (s.deleteForm owner form).2 = .ok () ∧
        Removed s.store (s.deleteForm owner form).1.store r) ∨
      ∃ fault, (s.deleteForm owner form).2 = .error fault ∧ (s.deleteForm owner form).1.store = s.store ∧
        (fits form = false ∨ s.store.formRow? form (some owner) = none)) ∧
    ∀ d, ∀ f ∈ (s.act d).store.forms, (∀ r ∈ s.store.forms, r.id ≠ f.id) →
      ∃ fields, Brings s d fields ∧ Bare (s.act d).store f.id fields := by
  intro s
  have anchored : Anchored s.store := actAllAnchored Store.emptyAnchored deeds
  exact ⟨anchored.ids,anchored.anchored,anchored.submitted,Store.deleteFormRemoves anchored.toKeyed,
    deleteFormRemoves anchored.toKeyed,actBare anchored⟩

theorem idGivenOutAgain :
    let line : Field := ⟨"a",none,"",0,⟨false,none,none⟩,.plain .divider⟩
    let deeds : List Deed := [.move (.ask (.createForm "alice" (.str "A") .null .null (.ready []))),
      .order (.createForm (.atSeconds 1) "bob" "B" none .null none),.order (.replaceFields 1 2 [line]),
      .order (.createSubmission 1 2 [])]
    let before := (start none (.atSeconds 0)).actAll deeds
    let s := before.act (.move (.ask (.deleteForm "bob" 2)))
    let t := s.act (.order (.createForm (.atSeconds 2) "carol" "C" none .null none))
    ((before.store.fieldRows 2).length,(before.store.submissionsOf 2).length) = (1,1) ∧
    t.store.forms.map (fun r => (r.id,r.owner)) = [(1,"alice"),(2,"carol")] ∧ Bare t.store 2 [] := by
  intro line deeds before s t
  have held : ((before.store.fieldRows 2).length,(before.store.submissionsOf 2).length) = (1,1) := by decide +kernel
  have owners : t.store.forms.map (fun r => (r.id,r.owner)) = [(1,"alice"),(2,"carol")] := by decide +kernel
  have gone : ∀ r ∈ s.store.forms, r.id ≠ 2 := by decide +kernel
  have there : ∃ f ∈ t.store.forms, f.id = 2 := by decide +kernel
  refine ⟨held,owners,?_⟩
  obtain ⟨-,-,-,-,-,starts⟩ :=
    nothingInherited none (.atSeconds 0) (deeds ++ [.move (.ask (.deleteForm "bob" 2))])
  rw [actAll,List.foldl_append] at starts
  obtain ⟨f,member,id⟩ := there
  obtain ⟨fields,brings,bare⟩ := starts _ f member (by rw [id]; exact gone)
  cases brings
  rwa [id] at bare

end Service

end FormBuilder
