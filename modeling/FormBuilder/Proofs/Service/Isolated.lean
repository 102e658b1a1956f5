import FormBuilder.Proofs.Service.Drafts
import FormBuilder.Proofs.Service.Readable
import FormBuilder.Proofs.Store.Alike
/-! Owners are kept apart: what one does leaves all that others have as it was, and what one is told does not
depend on the forms of others. -/
namespace FormBuilder

namespace Store

theorem updateFormAlike {s t : Store} {owner : String} {form : Int} {r : FormRow} (change : Field → Field)
    (left : s.formRow? form (some owner) = some r) (right : t.formRow? form (some owner) = some r)
    {fields fields' : List Field} (listed : s.getFields r.id = .ok fields) (listed' : t.getFields r.id = .ok fields')
    (same : fields.map change = fields'.map change) (now : Int) (p : Patch) :
    (s.updateForm now form (some owner) p).2.map (Option.map (Form.mapFields change)) =
      (t.updateForm now form (some owner) p).2.map (Option.map (Form.mapFields change)) := by
  simp only [updateForm,left,right]
  cases changed : patched r p with
  | error fault => rfl
  | ok u =>
    have id := (patchedSame changed).1.id
    have fields : (s.putForm { u with updatedAt := now }).getFields u.id = .ok fields := id ▸ listed
    have fields' : (t.putForm { u with updatedAt := now }).getFields u.id = .ok fields' := id ▸ listed'
    simp only [formOf,fields,fields',FormRow.toForm]
    cases Settings.ofObject u.settings with
    | error faults => rfl
    | ok settings =>
      show Except.ok (some (Form.mapFields change (FormRow.shownAs _ settings _))) =
        Except.ok (some (Form.mapFields change (FormRow.shownAs _ settings _)))
      simp only [Form.mapFields,Form.fields,FormRow.shownAs,same]

end Store

def placeless (stored : Bool) : Field → Field := if stored then Field.unplaced else id

def Answer.mapForm (change : Form → Form) : Answer → Answer
  | .form f => .form (change f)
  | other => other

theorem Answer.mapMade (x : Except ServiceFault Form) (change : Form → Form) :
    (x.map Answer.form).map (Answer.mapForm change) = (x.map change).map Answer.form := by cases x <;> rfl

theorem Answer.mapRefused {x y : Except ServiceFault Form} {told : ServiceFault → ServiceFault}
    (same : x.mapError told = y.mapError told) : (x.map Answer.form).mapError told = (y.map Answer.form).mapError told := by
  have swap (x : Except ServiceFault Form) : (x.map Answer.form).mapError told = (x.mapError told).map Answer.form := by
    cases x <;> rfl
  rw [swap,swap,same]

def Answer.names : Answer → Option (Option Int × Option String × List (Option String))
  | .form f => some (f.id,f.slug,f.fields.map (·.persistedId))
  | _ => none

def Call.shown : Call → Form → Form
  | .createForm _ _ _ _ _ | .duplicateForm _ _ => Form.unnamed
  | .updateForm _ _ u => Form.mapFields (placeless u.fields.isSome)
  | .saveSnapshot _ _ _ => Form.mapFields (placeless true)
  | _ => id

def Call.told : Call → ServiceFault → ServiceFault
  | .createForm _ _ _ _ _ => ServiceFault.unnumbered
  | _ => id

def Call.plain (c : Call) (answer : Except ServiceFault Answer) : Except ServiceFault Answer :=
  (answer.map (Answer.mapForm c.shown)).mapError c.told

namespace Service
open Store (WellKept Keyed Alike Undisturbed fits)

def columnsAnswer (owner : String) (form : Int) : Except StoreFault (Option Form) → Except ServiceFault Form
  | .error e => .error (.store e)
  | .ok none => .error (.missing (.owned form owner))
  | .ok (some f) => .ok f

theorem storeUpdateColumns (s : Service) (owner : String) (form : Int) (p : Patch) :
    (s.storeUpdate owner form p none).2 =
      columnsAnswer owner form (s.store.updateForm s.mint.seconds form (some owner) p).2 := by
  simp only [storeUpdate]
  rcases s.store.updateForm s.mint.seconds form (some owner) p with ⟨store,fault | none | f⟩ <;> rfl

theorem columnsAnswerMap (owner : String) (form : Int) (change : Form → Form) (x : Except StoreFault (Option Form)) :
    (columnsAnswer owner form x).map change = columnsAnswer owner form (x.map (Option.map change)) := by
  rcases x with fault | none | f <;> rfl

theorem changeColumnsAlike {s u : Service} (seconds : s.mint.seconds = u.mint.seconds) {owner : String} {form : Int}
    {r : FormRow} (change : Field → Field) (left : s.store.formRow? form (some owner) = some r)
    (right : u.store.formRow? form (some owner) = some r) {fields fields' : List Field}
    (listed : s.store.getFields r.id = .ok fields) (listed' : u.store.getFields r.id = .ok fields')
    (same : fields.map change = fields'.map change) (p : Patch) :
    (s.storeUpdate owner form p none).2.map (Form.mapFields change) =
      (u.storeUpdate owner form p none).2.map (Form.mapFields change) := by
  rw [storeUpdateColumns,storeUpdateColumns,columnsAnswerMap,columnsAnswerMap,seconds,
    Store.updateFormAlike change left right listed listed' same]

theorem prepareOptionalSome {source : Option FieldSource} {m m' : Mint} {fields : Option (List Field)}
    (ready : prepareOptional source m = (.ok fields,m')) : source.isSome = fields.isSome := by
  cases source with
  | none => cases ready; rfl
  | some source =>
    simp only [prepareOptional] at ready
    cases prepared : (prepare source m).1 with
    | error e => simp [prepared,Except.map] at ready
    | ok own =>
      simp only [prepared,Except.map,Prod.mk.injEq,Except.ok.injEq] at ready
      rw [← ready.1]
      rfl

theorem exactly {x y : Except ε Form} (same : x.map (Form.mapFields id) = y.map (Form.mapFields id)) : x = y := by
  have whole : Form.mapFields id = id := by
    funext f
    simp [Form.mapFields,Form.fields]
  rw [whole] at same
  rw [Except.map_id] at same
  exact same

def slugTaken : ServiceFault := .store (.violates .slugUnique)

section
variable {s : Service} {t : Store} {owner : String} (alike : Alike owner s.store t)
include alike

theorem ownedAlike (form : Int) : s.owned owner form = { s with store := t }.owned owner form := by
  simp only [owned,alike.getForm]

theorem listFormsAlike : s.listForms owner = { s with store := t }.listForms owner := by
  simp only [listForms,alike.listForms]

theorem deleteFormAlike (form : Int) : (s.deleteForm owner form).2 = ({ s with store := t }.deleteForm owner form).2 := by
  unfold deleteForm
  split
  · rfl
  · cases row : s.store.formRow? form (some owner) with
    | none => rw [Store.deleteFormMissing row,Store.deleteFormMissing (alike.formRow form ▸ row)]
    | some r => rw [Store.deleteFormDone row,Store.deleteFormDone (alike.formRow form ▸ row)]

theorem listSubmissionsAlike (form page : Int) :
    s.listSubmissions owner form page = { s with store := t }.listSubmissions owner form page := by
  simp only [listSubmissions,← ownedAlike alike]
  cases found : s.owned owner form with
  | error e => rfl
  | ok f =>
    obtain ⟨r,shown⟩ := ownedShown found
    obtain ⟨known,rfl,own⟩ := Store.formRowFound shown.row
    simp only [Store.listSubmissions,Store.countSubmissions,alike.submissions r known own]

theorem storeUpdateAlike (kept : WellKept s.store) (kept' : WellKept t) {form : Int} {f : Form} {r : FormRow}
    (shown : Shown s owner form f r) (p : Patch) {fields : Option (List Field)}
    (distinct : ∀ fs, fields = some fs → Field.distinctIds fs = true) :
    (s.storeUpdate owner form p fields).2.map (Form.mapFields (placeless fields.isSome)) =
      ({ s with store := t }.storeUpdate owner form p fields).2.map (Form.mapFields (placeless fields.isSome)) := by
  obtain ⟨known,rfl,own⟩ := Store.formRowFound shown.row
  have row' : t.formRow? r.id (some owner) = some r := alike.formRow r.id ▸ shown.row
  cases fields with
  | none =>
    obtain ⟨fields,listed,-⟩ := Store.getFieldsFits kept r.id
    have listed' := alike.getFields known own ▸ listed
    exact changeColumnsAlike (s := s) (u := { s with store := t }) rfl _ shown.row row' listed listed' rfl p
  | some fs =>
    have distinct : Field.distinctIds (Field.sorted fs) = true := (Store.sortedDistinct fs).trans (distinct fs rfl)
    have fault : s.store.writeFault? r.id (Field.sorted fs) = t.writeFault? r.id (Field.sorted fs) := by
      rw [Store.writeFaultPlain kept.unlocked ⟨r,known,rfl⟩ distinct,alike.most,
        ← Store.writeFaultPlain kept'.unlocked ⟨r,(Store.formRowFound row').1,rfl⟩ distinct]
    have same (u v : Service) (done : u.storeFields r.id fs = (v,.ok ())) :
        u.storeUpdate owner r.id p (some fs) = v.storeUpdate owner r.id p none := by
      simp only [storeUpdate,done]
    cases passes : s.store.writeFault? r.id (Field.sorted fs) with
    | none =>
      obtain ⟨u,done,seconds,store⟩ := storeFieldsDone kept passes
      obtain ⟨u',done',seconds',store'⟩ := storeFieldsDone (s := { s with store := t }) kept' (fault.symm.trans passes)
      obtain ⟨back,listed,given⟩ := storedFields store
      obtain ⟨back',listed',given'⟩ := storedFields store'
      have found : u'.store.formRow? r.id (some owner) = some { r with updatedAt := s.mint.seconds } :=
        rowStored (s := { s with store := t }) row' store'
      rw [same _ _ done,same _ _ done']
      exact changeColumnsAlike (congrArg Mint.seconds (seconds.trans seconds'.symm)) _ (rowStored shown.row store) found
        listed listed' (given.trans given'.symm) p
    | some why =>
      obtain ⟨u,failed,-⟩ := storeFieldsFailed passes
      obtain ⟨u',failed',-⟩ := storeFieldsFailed (s := { s with store := t }) (fault.symm.trans passes)
      simp only [storeUpdate,failed,failed']

theorem updateFormAlike (kept : WellKept s.store) (kept' : WellKept t) (form : Int) (u : Update) :
    (s.updateForm owner form u).2.map (Form.mapFields (placeless u.fields.isSome)) =
      ({ s with store := t }.updateForm owner form u).2.map (Form.mapFields (placeless u.fields.isSome)) := by
  simp only [updateForm,← ownedAlike alike]
  cases found : s.owned owner form with
  | error e => rfl
  | ok f =>
  cases readPatch u.patch with
  | error e => rfl
  | ok p =>
  cases ready : prepareOptional u.fields s.mint with
  | mk outcome m =>
  cases outcome with
  | error e => rfl
  | ok fields =>
  dsimp only
  split
  · rfl
  · obtain ⟨r,shown⟩ := ownedShown found
    have shownLater : Shown { s with mint := m } owner form f r := ⟨shown.fit,shown.row,shown.read⟩
    rw [prepareOptionalSome ready]
    exact storeUpdateAlike (s := { s with mint := m }) alike kept kept' shownLater p (prepareOptionalDistinct ready)

theorem setStatusAlike (kept : WellKept s.store) (kept' : WellKept t) (form : Int) (v : Value) :
    (s.setStatus owner form v).2 = ({ s with store := t }.setStatus owner form v).2 := by
  simp only [setStatus,← ownedAlike alike]
  cases status v with
  | error e => rfl
  | ok status =>
  cases found : s.owned owner form with
  | error e => rfl
  | ok f =>
  obtain ⟨r,shown⟩ := ownedShown found
  obtain ⟨known,rfl,own⟩ := Store.formRowFound shown.row
  simp only [alike.countFields known own]
  by_cases empty : (decide (status = .published) && t.countFields r.id == 0) = true
  · simp only [if_pos empty]
  · simp only [if_neg empty]
    exact exactly (storeUpdateAlike alike kept kept' shown _ (nofun : ∀ fs : List Field, none = some fs → _))

theorem duplicateFormAlike (kept : WellKept s.store) (kept' : WellKept t) (keyed : Keyed s.store) (keyed' : Keyed t)
    (form : Int) (fit : Roomy s 0) (fit' : Roomy { s with store := t } 0)
    (free : (s.duplicateForm owner form).2 ≠ .error slugTaken)
    (free' : ({ s with store := t }.duplicateForm owner form).2 ≠ .error slugTaken) :
    (s.duplicateForm owner form).2.map Form.unnamed =
      ({ s with store := t }.duplicateForm owner form).2.map Form.unnamed := by
  cases found : s.owned owner form with
  | error e =>
    have found' : { s with store := t }.owned owner form = .error e := ownedAlike alike form ▸ found
    simp only [duplicateForm,found,found']
  | ok source =>
    have found' : { s with store := t }.owned owner form = .ok source := ownedAlike alike form ▸ found
    exact (duplicateFormCopies kept keyed found fit free).trans
      (duplicateFormCopies (s := { s with store := t }) kept' keyed' found' fit' free').symm

end

theorem callAlike {s : Service} {t : Store} (kept : WellKept s.store) (kept' : WellKept t) (keyed : Keyed s.store)
    (keyed' : Keyed t) {c : Call} {owner : String} (manages : c.manager? = some owner) (alike : Alike owner s.store t)
    (fit : Fits s c) (fit' : Fits { s with store := t } c) (free : (s.call c).2 ≠ .error slugTaken)
    (free' : ({ s with store := t }.call c).2 ≠ .error slugTaken) :
    c.plain (s.call c).2 = c.plain ({ s with store := t }.call c).2 := by
  have made {x y : Except ServiceFault Form} {change : Form → Form} (same : x.map change = y.map change) :
      (x.map Answer.form).map (Answer.mapForm change) = (y.map Answer.form).map (Answer.mapForm change) := by
    rw [Answer.mapMade,Answer.mapMade,same]
  have unclashed {x : Except ServiceFault Form} (free : x.map Answer.form ≠ .error slugTaken) : x ≠ .error slugTaken := by
    rintro rfl
    exact free rfl
  cases c with
  | listForms owner' =>
    cases manages
    simp only [call,listFormsAlike alike]
  | getForm owner' form =>
    cases manages
    simp only [call,getForm,ownedAlike alike]
  | listSubmissions owner' form page =>
    cases manages
    simp only [call,listSubmissionsAlike alike]
  | deleteForm owner' form =>
    cases manages
    simp only [call,deleteFormAlike alike]
  | setStatus owner' form status =>
    cases manages
    simp only [call,setStatusAlike alike kept kept']
  | publishForm owner' form =>
    cases manages
    simp only [call,publishForm,setStatusAlike alike kept kept']
  | unpublishForm owner' form =>
    cases manages
    simp only [call,unpublishForm,setStatusAlike alike kept kept']
  | updateForm owner' form u =>
    cases manages
    exact congrArg (Except.mapError id) (made (updateFormAlike alike kept kept' form u))
  | saveSnapshot owner' form snapshot =>
    cases manages
    exact congrArg (Except.mapError id) (made (updateFormAlike alike kept kept' form (snapshotUpdate snapshot)))
  | createForm owner' title description settings fields =>
    cases manages
    have draft := createFormDrafts kept fit (unclashed free)
    have draft' := createFormDrafts (s := { s with store := t }) kept' fit' (unclashed free')
    rw [alike.most] at draft
    simp only [call,Call.plain,Answer.mapMade]
    exact Answer.mapRefused (draft.trans draft'.symm)
  | duplicateForm owner' form =>
    cases manages
    exact congrArg (Except.mapError id)
      (made (duplicateFormAlike alike kept kept' keyed keyed' form fit fit' (unclashed free) (unclashed free')))
  | getPublicForm slug => cases manages
  | submit slug payload client => cases manages

theorem callUndisturbed {s : Service} (kept : WellKept s.store) (keyed : Keyed s.store) {c : Call} {owner : String}
    (manages : c.manager? = some owner) : Undisturbed owner s.store (s.call c).1.store := by
  have own (r : FormRow) (held : c.manager? = some r.owner) : r.owner = owner :=
    Option.some.inj (held.symm.trans manages)
  have mine (r : FormRow) (reached : c.reaches r) : r.owner = owner := by
    cases c with
    | submit slug payload client => cases manages
    | _ => exact own r reached
  exact Store.wroteUndisturbed ((callFate kept c).wrote.mono mine fun r made => own r made.1) keyed

def Reached (t : Store) : Prop := ∃ limiter m moves, ((start limiter m).play moves).store = t

theorem reachedKept {t : Store} (reached : Reached t) : WellKept t ∧ Keyed t := by
  obtain ⟨limiter,m,moves,rfl⟩ := reached
  exact ⟨playKept (startKept limiter m) moves,playKeyed (startKept limiter m) Store.emptyKeyed moves⟩

/-- Whatever an owner does, the forms of others stay as they were, with their fields and submissions. And whatever
an owner asks for, the answer is the same in two stores that are the same but for one form, which is not the
owner's in either. Only what a new row is called may differ: the number and the slug of a form that is made or
copied, also where its fields are refused, and the row of a field that is stored; and a slug made up for a new form
may happen to be taken. -/
theorem ownersApart (limiter : Option (Limiter Double)) (m : Mint) (moves : List Move) {c : Call} {owner : String}
    (manages : c.manager? = some owner) :
    let s := (start limiter m).play moves
    Undisturbed owner s.store (s.call c).1.store ∧
    ∀ t form, Reached t → s.store.formRow? form (some owner) = none → t.formRow? form (some owner) = none →
      s.store.withoutForm form = t.withoutForm form →
      let s' : Service := { s with store := t }
      Fits s c → Fits s' c → (s.call c).2 ≠ .error slugTaken → (s'.call c).2 ≠ .error slugTaken →
      c.plain (s.call c).2 = c.plain (s'.call c).2 := by
  intro s
  obtain ⟨kept,keyed⟩ := reachedKept (t := s.store) ⟨limiter,m,moves,rfl⟩
  refine ⟨callUndisturbed kept keyed manages,?_⟩
  intro t form reached left right same s' fit fit' free free'
  obtain ⟨kept',keyed'⟩ := reachedKept reached
  exact callAlike kept kept' keyed keyed' manages (Store.alikeApart left right same) fit fit' free free'

theorem reachedWithout (limiter : Option (Limiter Double)) (m : Mint) (moves : List Move) (owner : String) {form : Int}
    (fit : fits form = true)
    (found : (((start limiter m).play moves).store.formRow? form (some owner)).isSome = true) :
    Reached (((start limiter m).play moves).store.withoutForm form) := by
  obtain ⟨r,row⟩ := Option.isSome_iff_exists.mp found
  refine ⟨limiter,m,moves ++ [.ask (.deleteForm owner form)],?_⟩
  rw [playLast]
  simp only [move,call,deleteForm,fit,Store.deleteFormDone row,(Store.formRowFound row).2.1]
  rfl

theorem withoutTwice (s : Store) (form : Int) : (s.withoutForm form).withoutForm form = s.withoutForm form := by
  simp [Store.withoutForm,List.filter_filter]

theorem withoutMissing (s : Store) (form : Int) (owner : Option String) :
    (s.withoutForm form).formRow? form owner = none := by
  simp only [Store.formRow?,Store.withoutForm,List.find?_eq_none,List.mem_filter,bne_iff_ne,ne_eq]
  rintro r ⟨-,other⟩
  simp [other]

theorem bobUndisturbed :
    let moves : List Move := [.ask (.createForm "alice" (.str "T") .null .null
      (.ready [⟨"a",none,"A",0,⟨false,none,none⟩,.text⟩]))]
    let s := (start none (.atSeconds 0)).play moves
    let c : Call := .createForm "bob" (.str "T") .null .null (.ready [⟨"b",none,"B",0,⟨false,none,none⟩,.email⟩])
    let s' : Service := { s with store := s.store.withoutForm 1 }
    c.manager? = some "bob" ∧ s.store.forms.length = 1 ∧ Undisturbed "bob" s.store (s.call c).1.store ∧
    (∃ a, (s.call c).2 = .ok a) ∧
    c.plain (s.call c).2 = c.plain (s'.call c).2 := by
  intro moves s c s'
  have manages : c.manager? = some "bob" := rfl
  obtain ⟨undisturbed,apart⟩ := ownersApart none (.atSeconds 0) moves manages
  obtain ⟨a,made⟩ := passed (x := (s.call c).2) (by decide +kernel)
  obtain ⟨a',made'⟩ := passed (x := (s'.call c).2) (by decide +kernel)
  have reached : Reached (s.store.withoutForm 1) :=
    reachedWithout none (.atSeconds 0) moves "alice" (by decide) (by decide +kernel)
  refine ⟨manages,by decide +kernel,undisturbed,⟨a,made⟩,?_⟩
  exact apart _ 1 reached (by decide +kernel) (withoutMissing _ _ _) (withoutTwice _ _).symm
    ⟨by decide +kernel,by decide⟩ ⟨by decide +kernel,by decide⟩ (fun failed => nomatch made.symm.trans failed)
    (fun failed => nomatch made'.symm.trans failed)

def refusedSlug : Except ServiceFault Answer → Bool
  | .error (.store (.violates .slugUnique)) => true
  | _ => false

theorem refusedSlugTaken {outcome : Except ServiceFault Answer} (refused : refusedSlug outcome = true) :
    outcome = .error slugTaken := by
  unfold refusedSlug at refused
  split at refused
  · rfl
  · contradiction

theorem aliceCounted :
    let moves : List Move := [.ask (.createForm "bob" (.str "U") .null .null (.ready [])),
      .ask (.createForm "alice" (.str "T") .null .null (.ready [⟨"a",none,"A",0,⟨false,none,none⟩,.text⟩]))]
    let more : List Move := [.ask (.createForm "alice" (.str "T 0 00001") .null .null (.ready []))]
    let s := (start none (.atSeconds 0)).play moves
    let s' : Service := { s with store := s.store.withoutForm 2 }
    let u := (start none (.atSeconds 0)).play (moves ++ more)
    let u' : Service := { u with store := u.store.withoutForm 3 }
    let made : Call := .createForm "bob" (.str "T") .null .null (.ready [])
    let copied : Call := .duplicateForm "bob" 1
    let changed : Call := .updateForm "bob" 1 ⟨.object [],some (.ready [⟨"b",none,"B",0,⟨false,none,none⟩,.text⟩])⟩
    (Reached s.store ∧ Reached s'.store ∧ s.store.formRow? 2 (some "bob") = none ∧
      s'.store.formRow? 2 (some "bob") = none ∧ s.store.withoutForm 2 = s'.store.withoutForm 2 ∧
      (s.call made).2 ≠ (s'.call made).2 ∧ (s.call copied).2 ≠ (s'.call copied).2 ∧
      (s.call changed).2 ≠ (s'.call changed).2) ∧
    Reached u.store ∧ Reached u'.store ∧ u.store.formRow? 3 (some "bob") = none ∧
      u'.store.formRow? 3 (some "bob") = none ∧ u.store.withoutForm 3 = u'.store.withoutForm 3 ∧
      (u.call made).2 = .error slugTaken ∧ ∃ a, (u'.call made).2 = .ok a := by
  intro moves more s s' u u' made copied changed
  have differ {x y : Except ServiceFault Answer} (names : x.toOption.bind Answer.names ≠ y.toOption.bind Answer.names) :
      x ≠ y := by
    rintro rfl
    exact names rfl
  refine ⟨⟨⟨_,_,_,rfl⟩,reachedWithout none (.atSeconds 0) moves "alice" (by decide) (by decide +kernel),
    by decide +kernel,withoutMissing _ _ _,(withoutTwice _ _).symm,differ ?_,differ ?_,differ ?_⟩,
    ⟨_,_,_,rfl⟩,reachedWithout none (.atSeconds 0) (moves ++ more) "alice" (by decide) (by decide +kernel),
    by decide +kernel,withoutMissing _ _ _,(withoutTwice _ _).symm,?_,passed (by decide +kernel)⟩
  · decide +kernel
  · decide +kernel
  · decide +kernel
  · exact refusedSlugTaken (by decide +kernel)

end Service
end FormBuilder
