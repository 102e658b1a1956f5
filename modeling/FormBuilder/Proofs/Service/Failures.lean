import FormBuilder.Proofs.Service.Outcomes
/-! A call that fails leaves the store as it was, with three exceptions. Settings are checked as they are given,
and written under their plain names: ones that read well only under the names they were given let a form be
put away, or the fields of a form be replaced, before the call fails. And a new form is put away before its fields,
and stays if these cannot be. -/
namespace FormBuilder

def Call.manager? : Call → Option String
  | .listForms owner | .getForm owner _ | .createForm owner _ _ _ _ | .updateForm owner _ _ | .saveSnapshot owner _ _
  | .deleteForm owner _ | .setStatus owner _ _ | .publishForm owner _ | .unpublishForm owner _ | .duplicateForm owner _
  | .listSubmissions owner _ _ => some owner
  | .getPublicForm _ | .submit _ _ _ => none

def Call.reaches : Call → FormRow → Prop
  | .submit slug _ _,r => r.slug = slug
  | c,r => c.manager? = some r.owner

namespace Service
open Store (Wrote WellKept fits)

def Fits (s : Service) : Call → Prop
  | .createForm _ _ _ _ fields => Roomy s fields.size
  | .duplicateForm _ _ => Roomy s 0
  | _ => True

def Misreads (s : Service) : Call → Store → Prop
  | .createForm owner title description settings fields => HalfMade s owner title description settings fields
  | _ => never

-- What a call leaves behind that fails after it has written.
def Spoils (s : Service) : Call → Store → Prop
  | .createForm owner title description settings fields => fun t =>
    HalfMade s owner title description settings fields t ∨ FieldsRefused s owner title description settings fields t
  | .updateForm owner form u => HalfUpdated s owner form u
  | .saveSnapshot owner form snapshot => HalfUpdated s owner form (snapshotUpdate snapshot)
  | _ => never

theorem Fate.map {own new : FormRow → Prop} {before after : Store} {spoilt : Store → Prop}
    {outcome : Except ServiceFault α} (fate : Fate own new before spoilt after outcome) (f : α → β) :
    Fate own new before spoilt after (outcome.map f) := by
  cases fate with
  | through a wrote => exact .through (f a) wrote
  | refused fault same => exact .refused fault same
  | late fault wrote left => exact .late fault wrote left

theorem readOnlyFate (own new : FormRow → Prop) (s : Store) (spoilt : Store → Prop) (outcome : Except ServiceFault α) :
    Fate own new s spoilt s outcome := by
  cases outcome with
  | ok a => exact .through a (.nothing s)
  | error fault => exact .refused fault rfl

def Makes (s : Service) (c : Call) (r : FormRow) : Prop :=
  c.manager? = some r.owner ∧ (Store.Readable r ∨ Misreads s c { s.store with forms := s.store.forms ++ [r] })

theorem callFate {s : Service} (kept : WellKept s.store) (c : Call) :
    Fate c.reaches (Makes s c) s.store (fun t => Spoils s c t ∨ ¬ Fits s c) (s.call c).1.store (s.call c).2 := by
  have own {owner : String} (r : FormRow) (held : heldBy owner r) : some owner = some r.owner := congrArg some held.symm
  have none {P : Prop} {r : FormRow} (none : noForm r) : P := none.elim
  have never {t : Store} {P : Prop} (left : never t) : P := left.elim
  cases c with
  | listForms owner => exact readOnlyFate _ _ _ _ _
  | getForm owner form => exact readOnlyFate _ _ _ _ _
  | listSubmissions owner form page => exact readOnlyFate _ _ _ _ _
  | getPublicForm slug => exact readOnlyFate _ _ _ _ _
  | createForm owner title description settings fields =>
    have made (r : FormRow) (entered : Entered s owner (HalfMade s owner title description settings fields) r) :
        Makes s (.createForm owner title description settings fields) r := ⟨own r entered.1,entered.2⟩
    exact ((createFormFate kept owner title description settings fields).mono own made fun _ => .inl).map _
  | updateForm owner form u =>
    exact ((updateFormFate kept owner form u).mono own (fun _ => none) fun _ half => .inl half).map _
  | saveSnapshot owner form snapshot =>
    exact ((updateFormFate kept owner form (snapshotUpdate snapshot)).mono own (fun _ => none) fun _ half => .inl half).map _
  | deleteForm owner form => exact ((deleteFormFate s owner form).mono own (fun _ => none) fun _ => never).map _
  | setStatus owner form status => exact ((setStatusFate kept owner form status).mono own (fun _ => none) fun _ => never).map _
  | publishForm owner form =>
    exact ((setStatusFate kept owner form (.str Status.published.name)).mono own (fun _ => none) fun _ => never).map _
  | unpublishForm owner form =>
    exact ((setStatusFate kept owner form (.str Status.draft.name)).mono own (fun _ => none) fun _ => never).map _
  | duplicateForm owner form =>
    have made (r : FormRow) (entered : Entered s owner Service.never r) : Makes s (.duplicateForm owner form) r :=
      ⟨own r entered.1,entered.2.imp_right never⟩
    exact ((duplicateFormFate kept owner form).mono own made fun _ cramped => .inr cramped).map _
  | submit slug payload client =>
    exact ((submitFate s slug payload client).mono (fun _ held => held) (fun _ => none) fun _ => never).map _

theorem startKept (limiter : Option (Limiter Double)) (m : Mint) : WellKept (start limiter m).store :=
  ⟨rfl,List.forall_mem_nil _,fun _ => Nat.zero_le _,List.forall_mem_nil _⟩

theorem moveKept {s : Service} (kept : WellKept s.store) (m : Move) : WellKept (s.move m).store := by
  cases m with
  | ask c => exact Store.wroteWellKept (callFate kept c).wrote kept
  | renew m => exact kept

theorem playKept {s : Service} (kept : WellKept s.store) (moves : List Move) : WellKept (s.play moves).store := by
  induction moves generalizing s with
  | nil => exact kept
  | cons m rest ih => exact ih (moveKept kept m)

theorem halfMadeFails {s : Service} {owner : String} {rawTitle description settings : Value} {fields : FieldSource}
    {t : Store} (half : HalfMade s owner rawTitle description settings fields t) :
    ∃ fault, (s.createForm owner rawTitle description settings fields).2 = .error fault ∧
      (s.createForm owner rawTitle description settings fields).1.store = t := by
  cases half with
  | made name ready described read free misread =>
    rename_i named prepared m about given faults
    have misread : Settings.ofObject (s.store.madeRow m owner named about none given).settings = .error faults := misread
    obtain ⟨m',made⟩ := Store.createFormStored read free
    rw [Store.toFormMisread misread] at made
    simp only [createForm,name,ready,described,made]
    exact ⟨_,rfl,trivial⟩

theorem fieldsRefusedFails {s : Service} {owner : String} {rawTitle description settings : Value} {fields : FieldSource}
    {t : Store} (refused : FieldsRefused s owner rawTitle description settings fields t) :
    ∃ fault, (s.createForm owner rawTitle description settings fields).2 = .error fault ∧
      (s.createForm owner rawTitle description settings fields).1.store = t := by
  cases refused with
  | made name ready described read free reads asked fails =>
    rename_i named prepared m about given why
    obtain ⟨later,reads⟩ := reads
    obtain ⟨m',made⟩ := Store.createFormStored read free
    rw [Store.toFormReads reads] at made
    have number : (s.store.madeRow m owner named about none given).id = Store.nextId (s.store.forms.map (·.id)) := rfl
    rw [← number] at fails
    generalize s.store.madeRow m owner named about none given = r at fails made
    obtain ⟨u,failed,same⟩ := storeFieldsFailed (s := { s with store := s.store.withForm r, mint := m' }) fails
    simp only [createForm,name,ready,described,made,FormRow.shownAs,Option.getD_some,asked,failed]
    exact ⟨_,rfl,same⟩

theorem halfChangedFails {s : Service} (kept : WellKept s.store) {owner : String} {form : Int} {r : FormRow}
    {p : Patch} {fields : Option (List Field)} {t : Store} (row : s.store.formRow? form (some owner) = some r)
    (half : HalfChanged s r p fields t) :
    ∃ fault, (s.storeUpdate owner form p fields).2 = .error fault ∧
      (s.storeUpdate owner form p fields).1.store = t := by
  obtain ⟨among,rfl,-⟩ := Store.formRowFound row
  cases half with
  | replaced passes given misread =>
    rename_i fs changes faults
    obtain ⟨u,done,-,store⟩ := storeFieldsDone kept passes
    have found := rowStored row store
    obtain ⟨fault,refused⟩ := Store.patchedMisread (r := { r with updatedAt := s.mint.seconds }) given misread
    simp only [storeUpdate,done,Store.updateFormRefused u.mint.seconds found refused]
    exact ⟨_,rfl,store⟩

theorem halfUpdatedFails {s : Service} (kept : WellKept s.store) {owner : String} {form : Int} {u : Update} {t : Store}
    (half : HalfUpdated s owner form u t) :
    ∃ fault, (s.updateForm owner form u).2 = .error fault ∧ (s.updateForm owner form u).1.store = t := by
  cases half with
  | updated found row patch ready allowed half =>
    rename_i f r p fields m
    simp only [updateForm,found,patch,ready,allowed]
    exact halfChangedFails (s := { s with mint := m }) kept row half

theorem spoilsFails {s : Service} (kept : WellKept s.store) {c : Call} {t : Store} (spoils : Spoils s c t) :
    ∃ fault, (s.call c).2 = .error fault ∧ (s.call c).1.store = t := by
  have mapped {outcome : Except ServiceFault Form} {fault} (failed : outcome = .error fault) :
      outcome.map Answer.form = .error fault := failed ▸ rfl
  cases c with
  | createForm owner title description settings fields =>
    rcases spoils with half | refused
    · obtain ⟨fault,failed,left⟩ := halfMadeFails half
      exact ⟨fault,mapped failed,left⟩
    · obtain ⟨fault,failed,left⟩ := fieldsRefusedFails refused
      exact ⟨fault,mapped failed,left⟩
  | updateForm owner form u =>
    obtain ⟨fault,failed,left⟩ := halfUpdatedFails kept spoils
    exact ⟨fault,mapped failed,left⟩
  | saveSnapshot owner form snapshot =>
    obtain ⟨fault,failed,left⟩ := halfUpdatedFails kept spoils
    exact ⟨fault,mapped failed,left⟩
  | _ => exact spoils.elim

/-- A call that fails leaves every row as it was, unless it makes or changes a form with settings that read
well as they are given and do not under the names they are written under, or makes one with fields that cannot be
stored. Such a call does fail, and leaves exactly the new form behind, or the form with its fields replaced and its
columns as they were. -/
theorem failedCallLeaves (limiter : Option (Limiter Double)) (m : Mint) (moves : List Move) (c : Call)
    (fit : Fits ((start limiter m).play moves) c) :
    let s := (start limiter m).play moves
    (∀ fault, (s.call c).2 = .error fault → (s.call c).1.store = s.store ∨ Spoils s c (s.call c).1.store) ∧
    (∀ t, Spoils s c t → ∃ fault, (s.call c).2 = .error fault ∧ (s.call c).1.store = t) := by
  intro s
  have kept : WellKept s.store := playKept (startKept limiter m) moves
  refine ⟨?_,fun t spoils => spoilsFails kept spoils⟩
  intro fault failed
  have fate := callFate kept c
  rw [failed] at fate
  cases fate with
  | refused _ same => exact .inl same
  | late _ wrote left => exact .inr (left.resolve_right fun cramped => cramped fit)

theorem themeMerged (o : Object) (v : Value) : Settings.merged o [("Theme",v)] = o.put "theme" v := by
  have name : Text.underscored "Theme" = "theme" := (Text.underscoredAscii (by decide)).trans (by decide)
  simp [Settings.merged,Object.renameKeys,Object.put,Object.overlay,name]

theorem failedUpdateLosesFields :
    let field : Field := ⟨"a",none,"A",0,⟨false,none,none⟩,.text⟩
    let s := (start none (.atSeconds 0)).play
      [.ask (.createForm "alice" (.str "T") .null .null (.ready [field]))]
    let c : Call := .updateForm "alice" 1 ⟨.object [("settings",.object [("Theme",.int 5)])],some (.ready [])⟩
    Fits s c ∧ s.store.fields.length = 1 ∧ ∃ fault, (s.call c).2 = .error fault ∧ (s.call c).1.store.fields = [] := by
  intro field s c
  have given : (s.owned "alice" 1).toOption.isSome = true := by decide +kernel
  have refused : (s.store.formRow? 1 (some "alice")).all
      (fun r => (Settings.ofObject (r.settings.put "theme" (.int 5))).toOption.isNone) = true := by decide +kernel
  have fit : Fits s c := trivial
  refine ⟨fit,by decide +kernel,?_⟩
  cases found : s.owned "alice" 1 with
  | error fault => simp [found,Except.toOption] at given
  | ok f =>
    obtain ⟨r,shown⟩ := ownedShown found
    rw [shown.row,Option.all_some] at refused
    cases misread : Settings.ofObject (Settings.merged r.settings [("Theme",.int 5)]) with
    | ok settings =>
      rw [themeMerged] at misread
      simp [misread,Except.toOption] at refused
    | error faults =>
      have ready : prepareOptional (some (.ready [])) s.mint = (.ok (some []),s.mint) := by
        simp [prepareOptional,prepare,Field.arrange,Field.distinctIds,Field.sorted,Field.renumber,
          Field.renumberFrom]
        rfl
      have empty : s.store.writeFault? r.id (Field.sorted []) = none := by
        rw [(Store.formRowFound shown.row).2.1]
        decide +kernel
      have half : HalfChanged { s with mint := s.mint } r ⟨none,none,none,some [("Theme",.int 5)]⟩ (some [])
          (s.store.withFields s.mint.seconds r.id (Field.sorted [])) := .replaced empty rfl misread
      have spoils : Spoils s c (s.store.withFields s.mint.seconds r.id (Field.sorted [])) :=
        .updated found shown.row rfl ready rfl half
      obtain ⟨fault,failed,left⟩ := (failedCallLeaves none (.atSeconds 0) _ c fit).2 _ spoils
      refine ⟨fault,failed,?_⟩
      rw [left,(Store.formRowFound shown.row).2.1]
      decide +kernel

end Service
end FormBuilder
