import FormBuilder.Proofs.Service.Input
/-! What each call to the service comes to: it goes through with its writes, or it is refused before
anything was written. -/
namespace FormBuilder.Service
open Store (Wrote WellKept fits)

structure Shown (s : Service) (owner : String) (form : Int) (f : Form) (r : FormRow) : Prop where
  fit : fits form = true
  row : s.store.formRow? form (some owner) = some r
  read : Store.ReadFrom s.store r f

theorem ownedShown {s : Service} {owner : String} {form : Int} {f : Form} (ok : s.owned owner form = .ok f) :
    ∃ r, Shown s owner form f r := by
  unfold owned at ok
  split at ok
  · contradiction
  · rename_i fit
    split at ok <;> try contradiction
    rename_i found
    cases ok
    obtain ⟨r,row,read⟩ := Store.formOfSome found
    exact ⟨r,by simpa using fit,row,read⟩

theorem ownedShows {s : Service} {owner : String} {form : Int} {r : FormRow} {settings : Settings} {fields : List Field}
    (fit : fits form = true) (row : s.store.formRow? form (some owner) = some r)
    (reads : Settings.ofObject r.settings = .ok settings) (listed : s.store.getFields r.id = .ok fields) :
    s.owned owner form = .ok (r.shownAs settings fields) := by
  simp only [owned,fit,Store.getForm,row,Store.formOf?,Store.formOf,listed,Store.toFormReads reads]
  rfl

theorem ownedReads {s : Service} (kept : WellKept s.store) {owner : String} {form : Int} {r : FormRow}
    (fit : fits form = true) (row : s.store.formRow? form (some owner) = some r) (reads : Store.Readable r) :
    ∃ f, s.owned owner form = .ok f := by
  obtain ⟨settings,reads⟩ := reads
  obtain ⟨fields,listed,-⟩ := Store.getFieldsFits kept r.id
  exact ⟨_,ownedShows fit row reads listed⟩

theorem Shown.reads {s : Service} {owner : String} {form : Int} {f : Form} {r : FormRow}
    (shown : Shown s owner form f r) : Store.Readable r := ⟨_,shown.read.settings⟩

inductive Stored (s : Service) (form : Int) (fields : List Field) : Service × Except ServiceFault Unit → Prop where
  | done {t : Service} (passes : s.store.writeFault? form (Field.sorted fields) = none)
      (store : t.store = s.store.withFields s.mint.seconds form (Field.sorted fields)) : Stored s form fields (t,.ok ())
  | failed {t : Service} {why} (fails : s.store.writeFault? form (Field.sorted fields) = some why)
      (same : t.store = s.store) : Stored s form fields (t,.error (.store why))

theorem storeFieldsDone {s : Service} (kept : WellKept s.store) {form : Int} {fields : List Field}
    (passes : s.store.writeFault? form (Field.sorted fields) = none) :
    ∃ t, s.storeFields form fields = (t,.ok ()) ∧ t.mint = s.mint ∧
      t.store = s.store.withFields s.mint.seconds form (Field.sorted fields) := by
  obtain ⟨same,back,ok⟩ := Store.replaceFieldsDone kept passes s.mint.seconds
  unfold storeFields
  cases replaced : s.store.replaceFields s.mint.seconds form fields with
  | mk store rest =>
    obtain ⟨outcome,notices⟩ := rest
    rw [replaced] at same ok
    subst same ok
    exact ⟨_,rfl,rfl,rfl⟩

theorem storeFieldsFailed {s : Service} {form : Int} {fields : List Field} {why : StoreFault}
    (fails : s.store.writeFault? form (Field.sorted fields) = some why) :
    ∃ t, s.storeFields form fields = (t,.error (.store why)) ∧ t.store = s.store := by
  obtain ⟨same,refused⟩ := Store.replaceFieldsFailed fails s.mint.seconds
  unfold storeFields
  cases replaced : s.store.replaceFields s.mint.seconds form fields with
  | mk store rest =>
    obtain ⟨outcome,notices⟩ := rest
    rw [replaced] at same refused
    subst same refused
    exact ⟨_,rfl,rfl⟩

theorem storeFieldsStored {s : Service} (kept : WellKept s.store) (form : Int) (fields : List Field) :
    Stored s form fields (s.storeFields form fields) := by
  cases fault : s.store.writeFault? form (Field.sorted fields) with
  | none =>
    obtain ⟨t,done,-,store⟩ := storeFieldsDone kept fault
    rw [done]
    exact .done fault store
  | some why =>
    obtain ⟨t,failed,same⟩ := storeFieldsFailed fault
    rw [failed]
    exact .failed fault same

theorem rowStored {s t : Service} {owner : String} {r : FormRow} {fields : List Field}
    (row : s.store.formRow? r.id (some owner) = some r)
    (store : t.store = s.store.withFields s.mint.seconds r.id (Field.sorted fields)) :
    t.store.formRow? r.id (some owner) = some { r with updatedAt := s.mint.seconds } := by
  rw [store,Store.formRowWithFields,row]
  simp

theorem Stored.wrote {s : Service} (kept : WellKept s.store) {r : FormRow} {fields : List Field}
    {out : Service × Except ServiceFault Unit} (stored : Stored s r.id fields out) (own new : FormRow → Prop)
    (known : r ∈ s.store.forms) (mine : own r) (reads : Store.Readable r) : Wrote own new s.store out.1.store := by
  cases stored with
  | done passes store =>
    obtain ⟨-,fit,holds,writable⟩ := (Store.writeFaultNone kept.unlocked).mp passes
    have distinct : Field.distinctIds fields = true :=
      decide_eq_true (Classical.byContradiction fun repeated => writable (.inl repeated))
    dsimp only
    rw [store]
    exact .fields _ _ known mine reads _ ((Store.sortedDistinct fields).trans distinct)
      (fun f member => fit f (Store.sortedMember.mp member)) (Store.sortedHolds.mpr holds)
  | failed fails same =>
    dsimp only
    rw [same]
    exact .nothing s.store

-- How a call may end that changes forms that are `own` and makes `new` ones. `spoilt` says which stores it may leave
-- behind when it fails too late.
inductive Fate (own new : FormRow → Prop) (before : Store) (spoilt : Store → Prop) (after : Store) :
    Except ServiceFault α → Prop where
  | through (a : α) (wrote : Wrote own new before after) : Fate own new before spoilt after (.ok a)
  | refused (fault) (same : after = before) : Fate own new before spoilt after (.error fault)
  | late (fault) (wrote : Wrote own new before after) (left : spoilt after) : Fate own new before spoilt after (.error fault)

def never (_ : Store) : Prop := False

def heldBy (owner : String) (r : FormRow) : Prop := r.owner = owner

def noForm (_ : FormRow) : Prop := False

theorem Fate.wrote {own new : FormRow → Prop} {before after : Store} {spoilt : Store → Prop}
    {outcome : Except ServiceFault α} (fate : Fate own new before spoilt after outcome) : Wrote own new before after := by
  cases fate with
  | through a wrote => exact wrote
  | refused fault same =>
    rw [same]
    exact .nothing before
  | late fault wrote left => exact wrote

theorem Fate.mono {own own' new new' : FormRow → Prop} {before after : Store} {spoilt spoilt' : Store → Prop}
    {outcome : Except ServiceFault α} (fate : Fate own new before spoilt after outcome) (owned : ∀ r, own r → own' r)
    (made : ∀ r, new r → new' r) (more : ∀ t, spoilt t → spoilt' t) : Fate own' new' before spoilt' after outcome := by
  cases fate with
  | through a wrote => exact .through a (wrote.mono owned made)
  | refused fault same => exact .refused fault same
  | late fault wrote left => exact .late fault (wrote.mono owned made) (more _ left)

theorem Fate.either {own new : FormRow → Prop} {before after : Store} {spoilt : Store → Prop}
    (wrote : Wrote own new before after) (left : spoilt after) (outcome : Except ServiceFault α) :
    Fate own new before spoilt after outcome := by
  cases outcome with
  | ok a => exact .through a wrote
  | error fault => exact .late fault wrote left

theorem deleteFormFate (s : Service) (owner : String) (form : Int) :
    Fate (heldBy owner) noForm s.store never (s.deleteForm owner form).1.store (s.deleteForm owner form).2 := by
  unfold deleteForm
  split
  · exact .refused _ rfl
  · cases row : s.store.formRow? form (some owner) with
    | none =>
      rw [Store.deleteFormMissing row]
      exact .refused _ rfl
    | some r =>
      rw [Store.deleteFormDone row]
      obtain ⟨among,-,held⟩ := Store.formRowFound row
      exact .through _ (.removed s.store among held)

theorem letInKeeps (s : Service) (client : String) :
    (s.letIn client).1.store = s.store ∧ (s.letIn client).1.mint = s.mint := by
  unfold letIn
  split <;> exact ⟨rfl,rfl⟩

theorem submitSteps (s : Service) (slug : String) (payload : Value) (client : String) :
    ∃ t : Service, (t.store = s.store ∧ t.mint = s.mint) ∧
      ((∃ fault, s.submit slug payload client = (t,.error fault)) ∨
      ∃ form answers, s.store.getFormBySlug slug = .ok (some form) ∧ form.isPublished = true ∧ form.fields ≠ [] ∧
        validateSubmission form.fields payload = .ok answers ∧
        let stored := s.store.createSubmission t.mint.seconds (form.id.getD 0) (Sanitize.submission answers)
        s.submit slug payload client = ({ t with store := stored.1 },stored.2.mapError .store)) := by
  have kept := letInKeeps s client
  unfold submit
  cases counted : s.letIn client with
  | mk t allowed =>
    rw [counted] at kept
    dsimp only at kept ⊢
    refine ⟨t,kept,?_⟩
    rw [← kept.1]
    split
    · exact .inl ⟨_,rfl⟩
    split
    · exact .inl ⟨_,rfl⟩
    · exact .inl ⟨_,rfl⟩
    rename_i form found
    split
    · exact .inl ⟨_,rfl⟩
    rename_i published
    split
    · exact .inl ⟨_,rfl⟩
    rename_i asked
    split
    · exact .inl ⟨_,rfl⟩
    rename_i answers passed
    exact .inr ⟨form,answers,found,by simpa using published,by simpa using asked,passed,rfl⟩

theorem submitFate (s : Service) (slug : String) (payload : Value) (client : String) :
    Fate (·.slug = slug) noForm s.store never (s.submit slug payload client).1.store (s.submit slug payload client).2 := by
  obtain ⟨t,⟨kept,-⟩,⟨fault,refused⟩ | ⟨form,answers,found,-,-,-,stores⟩⟩ := submitSteps s slug payload client
  · rw [refused]
    exact .refused fault kept
  · obtain ⟨r,row,read⟩ := Store.formOfSome found
    rw [stores]
    simp only [read.id,Option.getD_some]
    cases finite : Value.finiteEntries (Sanitize.submission answers) with
    | false =>
      rw [Store.createSubmissionMalformed finite]
      exact .refused _ rfl
    | true =>
      obtain ⟨wrote,stored,done⟩ := Store.createSubmissionDone (·.slug = slug) noForm
        (List.mem_of_find?_eq_some row) (by simpa using List.find?_some row) t.mint.seconds finite
      simp only [done]
      exact .through stored wrote

inductive HalfChanged (s : Service) (r : FormRow) (p : Patch) : Option (List Field) → Store → Prop where
  | replaced {fields changes faults} (passes : s.store.writeFault? r.id (Field.sorted fields) = none)
      (given : p.settings = some changes)
      (misread : Settings.ofObject (Settings.merged r.settings changes) = .error faults) :
      HalfChanged s r p (some fields) (s.store.withFields s.mint.seconds r.id (Field.sorted fields))

theorem changeColumnsFate {s : Service} (kept : WellKept s.store) {owner : String} {form : Int} {r : FormRow}
    (row : s.store.formRow? form (some owner) = some r) (reads : Store.Readable r) {p : Patch}
    (known : ∀ v, p.status = some v → ∃ t, Status.read v = .ok t) :
    (∃ f, Wrote (heldBy owner) noForm s.store (s.storeUpdate owner form p none).1.store ∧
      (s.storeUpdate owner form p none).2 = .ok f) ∨
    (∃ fault changes faults, (s.storeUpdate owner form p none).1.store = s.store ∧
      (s.storeUpdate owner form p none).2 = .error fault ∧ p.settings = some changes ∧
      Settings.ofObject (Settings.merged r.settings changes) = .error faults) := by
  cases change : Store.patched r p with
  | ok t =>
    obtain ⟨wrote,f,done⟩ := Store.updateFormDone (heldBy owner) noForm kept s.mint.seconds row
      (Store.formRowFound row).2.2 reads change
    cases updated : s.store.updateForm s.mint.seconds form (some owner) p with
    | mk store outcome =>
      rw [updated] at wrote done
      dsimp only at wrote done
      subst done
      simp only [storeUpdate,updated]
      exact .inl ⟨f,wrote,rfl⟩
  | error fault =>
    obtain ⟨changes,faults,given,misread⟩ := Store.patchedRefused known change
    simp only [storeUpdate,Store.updateFormRefused s.mint.seconds row change]
    exact .inr ⟨_,changes,faults,trivial,rfl,given,misread⟩

theorem storeUpdateFate {s : Service} (kept : WellKept s.store) {owner : String} {form : Int} {f : Form} {r : FormRow}
    (shown : Shown s owner form f r) {p : Patch} (known : ∀ v, p.status = some v → ∃ t, Status.read v = .ok t)
    (fields : Option (List Field)) :
    Fate (heldBy owner) noForm s.store (HalfChanged s r p fields) (s.storeUpdate owner form p fields).1.store
      (s.storeUpdate owner form p fields).2 := by
  obtain ⟨among,rfl,held⟩ := Store.formRowFound shown.row
  cases fields with
  | none =>
    rcases changeColumnsFate kept shown.row shown.reads known with
      ⟨g,wrote,done⟩ | ⟨fault,-,-,same,failed,-⟩
    · rw [done]
      exact .through g wrote
    · rw [failed]
      exact .refused fault same
  | some fs =>
    have stored := storeFieldsStored kept r.id fs
    cases out : s.storeFields r.id fs with
    | mk t outcome =>
      rw [out] at stored
      have wrote := stored.wrote kept (heldBy owner) noForm among held shown.reads
      cases stored with
      | failed fails same =>
        simp only [storeUpdate,out]
        exact .refused _ same
      | done passes store =>
        have same : s.storeUpdate owner r.id p (some fs) = t.storeUpdate owner r.id p none := by
          simp only [storeUpdate,out]
        have row := rowStored shown.row store
        rw [same]
        rcases changeColumnsFate (Store.wroteWellKept wrote kept) row shown.reads known with
          ⟨g,later,ok⟩ | ⟨fault,changes,faults,left,failed,given,misread⟩
        · rw [ok]
          exact .through g (.both wrote later)
        · rw [failed,left,store]
          exact .late fault (store ▸ wrote) (.replaced passes given misread)

inductive HalfUpdated (s : Service) (owner : String) (form : Int) (u : Update) : Store → Prop where
  | updated {f r p fields m t} (found : s.owned owner form = .ok f)
      (row : s.store.formRow? form (some owner) = some r) (patch : readPatch u.patch = .ok p)
      (ready : prepareOptional u.fields s.mint = (.ok fields,m))
      (allowed : (publishes p && (fields.getD f.fields).isEmpty) = false)
      (half : HalfChanged { s with mint := m } r p fields t) : HalfUpdated s owner form u t

theorem updateFormFate {s : Service} (kept : WellKept s.store) (owner : String) (form : Int) (u : Update) :
    Fate (heldBy owner) noForm s.store (HalfUpdated s owner form u) (s.updateForm owner form u).1.store
      (s.updateForm owner form u).2 := by
  unfold updateForm
  split
  · exact .refused _ rfl
  · exact .refused _ rfl
  · rename_i f p found patch
    cases ready : prepareOptional u.fields s.mint with
    | mk outcome m =>
      dsimp only
      cases outcome with
      | error fault => exact .refused _ rfl
      | ok fields =>
        dsimp only
        split
        · exact .refused _ rfl
        · rename_i allowed
          obtain ⟨r,shown⟩ := ownedShown found
          have shownLater : Shown { s with mint := m } owner form f r := ⟨shown.fit,shown.row,shown.read⟩
          have fate := storeUpdateFate (s := { s with mint := m }) kept shownLater (readPatchStatus patch) fields
          exact fate.mono (fun _ own => own) (fun _ new => new) fun t half =>
            .updated found shown.row patch ready (by simpa using allowed) half

theorem setStatusFate {s : Service} (kept : WellKept s.store) (owner : String) (form : Int) (v : Value) :
    Fate (heldBy owner) noForm s.store never (s.setStatus owner form v).1.store (s.setStatus owner form v).2 := by
  unfold setStatus
  split
  · exact .refused _ rfl
  · rename_i status _
    split
    · exact .refused _ rfl
    · rename_i f found
      split
      · exact .refused _ rfl
      · obtain ⟨r,shown⟩ := ownedShown found
        let p : Patch := { Patch.none with status := some (.str status.name) }
        have known : ∀ given, p.status = some given → ∃ t, Status.read given = .ok t := by
          intro given some
          cases some
          exact ⟨status,statusKnown status⟩
        have fate := storeUpdateFate kept shown known none
        exact fate.mono (fun _ own => own) (fun _ new => new) fun t half => nomatch half

structure There (s : Service) (r : FormRow) : Prop where
  row : s.store.formRow? r.id (some r.owner) = some r
  reads : Store.Readable r

theorem There.owned {s : Service} (kept : WellKept s.store) {r : FormRow} (there : There s r)
    (fit : fits r.id = true) : ∃ f, s.owned r.owner r.id = .ok f := by
  exact ownedReads kept fit there.row there.reads

theorem There.known {s : Service} {r : FormRow} (there : There s r) : r ∈ s.store.forms := (Store.formRowFound there.row).1

theorem There.fieldsStored {s : Service} (kept : WellKept s.store) {r : FormRow} (there : There s r)
    {fields : List Field} (passes : s.store.writeFault? r.id (Field.sorted fields) = none) :
    ∃ t f, s.storeFields r.id fields = (t,.ok ()) ∧ Wrote (heldBy r.owner) noForm s.store t.store ∧
      t.owned r.owner r.id = .ok f := by
  obtain ⟨fit,-⟩ := (Store.writeFaultNone kept.unlocked).mp passes
  obtain ⟨t,done,-,store⟩ := storeFieldsDone kept passes
  have wrote := (Stored.done passes store).wrote kept (heldBy r.owner) noForm there.known rfl there.reads
  obtain ⟨f,shown⟩ := ownedReads (Store.wroteWellKept wrote kept) fit (rowStored there.row store) there.reads
  exact ⟨t,f,done,wrote,shown⟩

inductive HalfMade (s : Service) (owner : String) (rawTitle description settings : Value) (fields : FieldSource) :
    Store → Prop where
  | made {named prepared m about given faults} (name : title rawTitle = .ok named)
      (ready : prepare fields s.mint = (.ok prepared,m)) (described : cleanOptionalText description = .ok about)
      (read : Store.newSettings settings = .ok given)
      (free : s.store.slugRow? (s.store.madeRow m owner named about none given).slug = none)
      (misread : Settings.ofObject (Store.keptSettings given) = .error faults) :
      HalfMade s owner rawTitle description settings fields
        (s.store.withForm (s.store.madeRow m owner named about none given))

inductive FieldsRefused (s : Service) (owner : String) (rawTitle description settings : Value) (fields : FieldSource) :
    Store → Prop where
  | made {named prepared m about given why} (name : title rawTitle = .ok named)
      (ready : prepare fields s.mint = (.ok prepared,m)) (described : cleanOptionalText description = .ok about)
      (read : Store.newSettings settings = .ok given)
      (free : s.store.slugRow? (s.store.madeRow m owner named about none given).slug = none)
      (reads : Store.Readable (s.store.madeRow m owner named about none given)) (asked : prepared.isEmpty = false)
      (fails : (s.store.withForm (s.store.madeRow m owner named about none given)).writeFault?
        (Store.nextId (s.store.forms.map (·.id))) (Field.sorted prepared) = some why) :
      FieldsRefused s owner rawTitle description settings fields
        (s.store.withForm (s.store.madeRow m owner named about none given))

def Roomy (s : Service) (fields : Nat) : Prop :=
  fits (Store.nextId (s.store.forms.map (·.id))) = true ∧ fields ≤ 9223372036854775808

theorem fitsBelow {n bound : Nat} (below : n < bound) (most : bound ≤ 9223372036854775808) : fits n = true := by
  simp only [fits,Bool.and_eq_true,decide_eq_true_eq]
  omega

theorem madeThere (s : Service) (m : Mint) {r : FormRow} (fresh : r.id = Store.nextId (s.store.forms.map (·.id)))
    (reads : Store.Readable r) : There { s with store := s.store.withForm r, mint := m } r :=
  ⟨Store.formRowWithForm fresh,reads⟩

def Entered (s : Service) (owner : String) (spoilt : Store → Prop) (r : FormRow) : Prop :=
  r.owner = owner ∧ (Store.Readable r ∨ spoilt { s.store with forms := s.store.forms ++ [r] })

theorem createFormFate {s : Service} (kept : WellKept s.store) (owner : String) (rawTitle description settings : Value)
    (fields : FieldSource) :
    Fate (heldBy owner) (Entered s owner (HalfMade s owner rawTitle description settings fields)) s.store
      (fun t => HalfMade s owner rawTitle description settings fields t ∨
        FieldsRefused s owner rawTitle description settings fields t)
      (s.createForm owner rawTitle description settings fields).1.store
      (s.createForm owner rawTitle description settings fields).2 := by
  unfold createForm
  split
  · exact .refused _ rfl
  rename_i named name
  cases ready : prepare fields s.mint with
  | mk outcome m =>
    dsimp only
    split
    · exact .refused _ rfl
    · exact .refused _ rfl
    rename_i prepared about described
    have created := Store.createFormCreated s.store m owner named about settings none
    cases made : s.store.createForm m owner named about settings none with
    | mk store rest =>
      obtain ⟨m',outcome⟩ := rest
      rw [made] at created
      dsimp only at created ⊢
      cases created with
      | refused misread => exact .refused _ rfl
      | taken => exact .refused _ rfl
      | stored read free =>
        rename_i given
        generalize row : s.store.madeRow m owner named about none given = r at free ⊢
        have own : r.owner = owner := row ▸ rfl
        have number : r.id = Store.nextId (s.store.forms.map (·.id)) := row ▸ rfl
        let half := HalfMade s owner rawTitle description settings fields
        have entered (given : Store.Readable r ∨ half (s.store.withForm r)) :
            Wrote (heldBy owner) (Entered s owner half) s.store (s.store.withForm r) :=
          Store.withFormWrote number free read (row ▸ rfl) ⟨own,given⟩
        cases reads : Settings.ofObject r.settings with
        | error faults =>
          rw [Store.toFormMisread reads]
          subst row
          have left := HalfMade.made name ready described read free reads
          exact .late _ (entered (.inr left)) (.inl left)
        | ok later =>
          have wrote := entered (.inl ⟨_,reads⟩)
          rw [Store.toFormReads reads]
          dsimp only [FormRow.shownAs,Option.getD_some]
          split
          · exact .through _ wrote
          rename_i asked
          have there := madeThere s m' number ⟨_,reads⟩
          have keptNow := Store.wroteWellKept wrote kept
          cases fault : (s.store.withForm r).writeFault? r.id (Field.sorted prepared) with
          | none =>
            obtain ⟨u,f,done,more,shown⟩ := there.fieldsStored keptNow fault
            simp only [own] at more shown
            simp only [done,shown]
            exact .through f (.both wrote (more.mono (fun _ own => own) fun _ none => none.elim))
          | some why =>
            obtain ⟨u,failed,same⟩ := storeFieldsFailed (s := { s with store := s.store.withForm r, mint := m' }) fault
            simp only [failed,same]
            subst row
            exact .late _ wrote (.inr (.made name ready described read free ⟨_,reads⟩ (by simpa using asked) fault))

theorem cleanedSmall {fields : List Field} (small : ∀ f ∈ fields, fits f.order = true) :
    ∀ f ∈ fields.map Field.cleaned, fits f.order = true := by
  intro f member
  obtain ⟨g,among,rfl⟩ := List.mem_map.mp member
  rw [(Field.cleanedOwn g).2]
  exact small g among

theorem cleanedBounds (f : Field) : f.cleaned.kind.finite = f.kind.finite := by
  obtain ⟨_,_,_,_,_,kind⟩ := f
  cases kind <;> rfl

theorem cleanedHolds {s : Store} {fields : List Field} (holds : s.Holds fields) : s.Holds (fields.map Field.cleaned) := by
  refine ⟨List.forall_mem_map.mpr fun f member => ?_,(List.length_map Field.cleaned).symm ▸ holds.room⟩
  rw [Field.storableExact,cleanedBounds,← Field.storableExact]
  exact holds.readable f member

theorem copyFieldsFailed {s : Service} (source : Int) {form : Int} (fit : fits form = true) {fields : List Field}
    (small : ∀ f ∈ fields, fits f.order = true) (given : fields.isEmpty = false) {fault : StoreFault}
    (fails : s.store.writeFault? form (Field.sorted (fields.map Field.cleaned)) = some fault) :
    ∃ t, s.copyFields source form fields = (t,.ok ()) ∧ t.store = s.store := by
  obtain ⟨why,rfl⟩ := Store.writeFaultOwn fit (cleanedSmall small) fails
  obtain ⟨t,failed,same⟩ := storeFieldsFailed fails
  simp only [copyFields,given,Bool.false_eq_true,if_false,failed]
  exact ⟨_,rfl,same⟩

theorem copyFieldsDone {s : Service} (kept : WellKept s.store) (source : Int) {r : FormRow} (there : There s r)
    (fit : fits r.id = true) {fields : List Field} (small : ∀ f ∈ fields, fits f.order = true) :
    ∃ t f, s.copyFields source r.id fields = (t,.ok ()) ∧ Wrote (heldBy r.owner) noForm s.store t.store ∧
      t.owned r.owner r.id = .ok f := by
  cases none : fields.isEmpty with
  | true =>
    obtain ⟨f,shown⟩ := there.owned kept fit
    exact ⟨s,f,by simp only [copyFields,none,if_true],.nothing s.store,shown⟩
  | false =>
    cases fault : s.store.writeFault? r.id (Field.sorted (fields.map Field.cleaned)) with
    | none =>
      obtain ⟨t,f,done,wrote,shown⟩ := there.fieldsStored kept fault
      exact ⟨t,f,by simp only [copyFields,none,done]; rfl,wrote,shown⟩
    | some why =>
      obtain ⟨t,done,same⟩ := copyFieldsFailed source fit small none fault
      obtain ⟨f,shown⟩ := ownedReads (same ▸ kept) fit (same ▸ there.row) there.reads
      exact ⟨t,f,done,by rw [same]; exact .nothing s.store,shown⟩

theorem copyFieldsWrote (own new : FormRow → Prop) {s : Service} (kept : WellKept s.store) (source : Int) {r : FormRow}
    (there : There s r) (mine : own r) (fields : List Field) :
    Wrote own new s.store (s.copyFields source r.id fields).1.store := by
  have wrote := (storeFieldsStored kept r.id (fields.map Field.cleaned)).wrote kept own new there.known mine there.reads
  unfold copyFields
  split
  · exact .nothing s.store
  · split
    · rename_i failed
      rw [failed] at wrote
      split <;> exact wrote
    · exact wrote

theorem duplicateFormFate {s : Service} (kept : WellKept s.store) (owner : String) (form : Int) :
    Fate (heldBy owner) (Entered s owner never) s.store (fun _ => ¬ Roomy s 0) (s.duplicateForm owner form).1.store
      (s.duplicateForm owner form).2 := by
  unfold duplicateForm
  split
  · exact .refused _ rfl
  rename_i source found
  obtain ⟨old,shown⟩ := ownedShown found
  obtain ⟨fields,listed,small,-⟩ := Store.getFieldsFits kept old.id
  have copied : source.fields = fields := Except.ok.inj (shown.read.fields.symm.trans listed)
  have plain : Settings.Plain (Store.keptSettings source.snapshot.settings) :=
    Settings.keptIsPlain (Settings.dumpedPlain ((Settings.readsSound shown.read.settings).extra ▸ Settings.extrasPlain _))
  let (slug,m) := s.mint.slug (source.slug.getD "" ++ "-copy")
  dsimp only
  generalize Sanitize.clean source.snapshot.title ++ " (Copy)" = title
  generalize Sanitize.cleanOptional source.snapshot.description = about
  generalize Store.keptSettings source.snapshot.settings = settings at plain ⊢
  have created := Store.createFormCreated s.store m owner title about (.object settings) (some slug)
  cases made : s.store.createForm m owner title about (.object settings) (some slug) with
  | mk store rest =>
    obtain ⟨m',outcome⟩ := rest
    rw [made] at created
    dsimp only at created ⊢
    cases created with
    | refused misread => exact .refused _ rfl
    | taken => exact .refused _ rfl
    | stored read free =>
      rename_i given
      obtain ⟨later,reads⟩ := Store.newSettingsReadBack plain read
      generalize row : s.store.madeRow m owner title about (some slug) given = r at free ⊢
      have reads : Settings.ofObject r.settings = .ok later := row ▸ reads
      have number : r.id = Store.nextId (s.store.forms.map (·.id)) := row ▸ rfl
      have own : r.owner = owner := row ▸ rfl
      have wrote : Wrote (heldBy owner) (Entered s owner never) s.store (s.store.withForm r) :=
        Store.withFormWrote number free read (row ▸ rfl) ⟨own,.inl ⟨_,reads⟩⟩
      have keptNow := Store.wroteWellKept wrote kept
      have there := madeThere s m' number ⟨_,reads⟩
      rw [Store.toFormReads reads]
      simp only [FormRow.shownAs,Option.getD_some]
      by_cases room : Roomy s 0
      · obtain ⟨t,f,done,more,shown⟩ := copyFieldsDone keptNow form there (number ▸ room.1) (copied ▸ small)
        simp only [own] at done shown more
        simp only [done,shown]
        exact .through f (.both wrote (more.mono (fun _ own => own) fun _ none => none.elim))
      · have more := copyFieldsWrote (heldBy owner) (Entered s owner never) keptNow form there own source.fields
        dsimp only at more
        cases out : ({ s with store := s.store.withForm r, mint := m' } : Service).copyFields form r.id source.fields with
        | mk u result =>
          rw [out] at more
          cases result with
          | error fault => exact .late fault (.both wrote more) room
          | ok _ => exact .either (.both wrote more) room _

end FormBuilder.Service
