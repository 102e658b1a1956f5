import FormBuilder.Proofs.Service.Failures
import FormBuilder.Proofs.Store.Keyed
/-! What a new form is, made or copied: but for the numbers and the slug it is given, the same whatever else is
stored. -/
namespace FormBuilder

def Field.unplaced (f : Field) : Field := { f with persistedId := none }

def Form.mapFields (change : Field → Field) (f : Form) : Form :=
  { f with snapshot := { f.snapshot with fields := f.fields.map change } }

def ServiceFault.unnumbered : ServiceFault → ServiceFault
  | .store (.unwritableFields _ why) => .store (.unwritableFields 0 why)
  | fault => fault

namespace Store

def plainFault (most : Nat) (form : Int) (fields : List Field) : Option StoreFault :=
  if !fits form then some .outOfRange
  else if most < FieldRow.columns * fields.length then some (.unwritableFields form .tooManyValues)
  else if !fields.all (fun f => fits f.order) then some .outOfRange
  else if fields.all Field.storable then none else some (.unwritableFields form .malformed)

theorem refusalReadable {s : Store} {form : Int} (there : ∃ r ∈ s.forms, r.id = form) {ids : List String}
    {fields : List Field} (apart : ∀ f ∈ fields, f.id ∉ ids) (distinct : (fields.map (·.id)).Nodup) :
    s.refusal? form ids fields = if fields.all Field.storable then none else some .malformed := by
  induction fields generalizing ids with
  | nil => simpa [refusal?] using there
  | cons f rest ih =>
    obtain ⟨unseen,others⟩ := List.forall_mem_cons.mp apart
    obtain ⟨own,distinct⟩ := List.nodup_cons.mp distinct
    have apart : ∀ g ∈ rest, g.id ∉ f.id :: ids := fun g member seen => by
      rcases List.mem_cons.mp seen with same | seen
      · exact own (List.mem_map.mpr ⟨g,member,same⟩)
      · exact others g member seen
    rw [refusal?,ih apart distinct,List.all_cons]
    cases readable : f.storable <;> simp [unseen]

theorem writeFaultPlain {s : Store} (unlocked : s.fieldsLocked = false) {form : Int} (there : ∃ r ∈ s.forms, r.id = form)
    {fields : List Field} (distinct : Field.distinctIds fields = true) :
    s.writeFault? form fields = plainFault s.mostValues form fields := by
  have apart : ∀ f ∈ fields, f.id ∉ ([] : List String) := fun _ _ => List.not_mem_nil
  have refusal := refusalReadable there apart (of_decide_eq_true distinct)
  cases fields with
  | nil => simp [writeFault?,plainFault]
  | cons f rest =>
    rw [writeFault?,plainFault,refusal]
    simp only [List.isEmpty_cons,unlocked,Bool.false_eq_true,if_false]
    split <;> [rfl; skip]
    split <;> [rfl; skip]
    split <;> [rfl; skip]
    split <;> rfl

theorem writeFaultUnnumbered {s : Store} (unlocked : s.fieldsLocked = false) {form : Int} (fit : fits form = true)
    (there : ∃ r ∈ s.forms, r.id = form) {fields : List Field} (distinct : Field.distinctIds fields = true) :
    (s.writeFault? form fields).map (fun why => (ServiceFault.store why).unnumbered) =
      (plainFault s.mostValues 0 fields).map (fun why => (ServiceFault.store why).unnumbered) := by
  rw [writeFaultPlain unlocked there distinct]
  simp only [plainFault,fit,show fits 0 = true from rfl,Bool.not_true,Bool.false_eq_true,if_false]
  split
  · rfl
  split
  · rfl
  split <;> rfl

end Store

def Form.unnamed (f : Form) : Form := { f.mapFields Field.unplaced with id := none, slug := none }

namespace Service
open Store (Wrote WellKept Keyed fits)

def keptFields (fields : List Field) : List Field := (Field.sorted fields).map (fun f => (f.kept 0).unplaced)

def draftOf (now : Int) (owner title : String) (about : Option String) (settings : Settings) (fields : List Field) : Form :=
  ⟨⟨title,about,settings,fields⟩,none,some owner,none,.draft,some (.ofEpoch now),some (.ofEpoch now)⟩

def drafted (most : Nat) (m : Mint) (owner : String) (rawTitle description settings : Value) (fields : FieldSource) :
    Except ServiceFault Form :=
  match title rawTitle with
  | .error e => .error e
  | .ok named =>
    match (prepare fields m).1,cleanOptionalText description with
    | .error e,_ => .error e
    | .ok _,.error e => .error e
    | .ok prepared,.ok about =>
      match Store.newSettings settings with
      | .error faults => .error (.input (.badSettings faults))
      | .ok given =>
        match Settings.ofObject (Store.keptSettings given) with
        | .error faults => .error (.input (.badSettings faults))
        | .ok later =>
          match Store.plainFault most 0 (Field.sorted prepared) with
          | some why => .error (.store why)
          | none => .ok (draftOf (prepare fields m).2.seconds owner named about later (keptFields prepared))

def copied (m : Mint) (owner : String) (source : Form) : Except ServiceFault Form :=
  match Store.newSettings (.object (Store.keptSettings source.snapshot.settings)) with
  | .error faults => .error (.store (.invalid faults))
  | .ok given =>
    match Settings.ofObject (Store.keptSettings given) with
    | .error faults => .error (.store (.invalid faults))
    | .ok later =>
      let fields := if Field.distinctIds source.fields then source.fields.map Field.cleaned else []
      .ok (draftOf m.seconds owner (Sanitize.clean source.snapshot.title ++ " (Copy)")
        (Sanitize.cleanOptional source.snapshot.description) later (keptFields fields))

theorem keptUnplaced {fields back : List Field}
    (kept : List.Forall₂ (fun f g => ∃ row : Int, g = f.kept row) (Field.sorted fields) back) :
    back.map Field.unplaced = keptFields fields := Field.keptMap (fun _ _ => rfl) kept

theorem storedFields {s t : Service} {form : Int} {fields : List Field}
    (store : t.store = s.store.withFields s.mint.seconds form (Field.sorted fields)) :
    ∃ back, t.store.getFields form = .ok back ∧ back.map Field.unplaced = keptFields fields := by
  obtain ⟨back,listed,kept⟩ :=
    Store.getFieldsReplaced s.store s.mint.seconds form (Field.sortedInOrder fields).ascending
  exact ⟨back,store ▸ listed,keptUnplaced kept⟩

theorem newSlugSeconds (s : Store) (m : Mint) (title : String) (slug : Option String) :
    (s.newSlug m title slug).2.seconds = m.seconds := congrArg (· / 1000) (Store.newSlugClock s m title slug)

theorem createFormSeconds (s : Store) (m : Mint) (owner title : String) (about : Option String) (settings : Value)
    (slug : Option String) : (s.createForm m owner title about settings slug).2.1.seconds = m.seconds :=
  congrArg (· / 1000) (Store.createFormClock s m owner title about settings slug)

structure Draft (r : FormRow) (now : Int) (owner title : String) (about : Option String) : Prop where
  owner : r.owner = owner
  title : r.title = title
  about : r.description = about
  status : r.status = .draft
  created : r.createdAt = now
  updated : r.updatedAt = now

theorem madeDraft (s : Store) (m : Mint) (owner title : String) (about : Option String) (slug : Option String)
    (given : Settings) : Draft (s.madeRow m owner title about slug given) m.seconds owner title about :=
  ⟨rfl,rfl,rfl,rfl,newSlugSeconds s m title slug,newSlugSeconds s m title slug⟩

theorem Draft.shown {r : FormRow} {now : Int} {owner title : String} {about : Option String}
    (draft : Draft r now owner title about) (settings : Settings) {fields back : List Field}
    (kept : back.map Field.unplaced = fields) :
    (r.shownAs settings back).unnamed = draftOf now owner title about settings fields := by
  obtain ⟨rfl,rfl,rfl,status,created,updated⟩ := draft
  subst kept
  simp only [Form.unnamed,Form.mapFields,Form.fields,FormRow.shownAs,status,created,updated,draftOf]

theorem There.fieldsShown {s t : Service} {r : FormRow} (there : There s r) (now : s.mint.seconds = r.updatedAt)
    (fit : fits r.id = true) {settings : Settings} (reads : Settings.ofObject r.settings = .ok settings)
    {fields : List Field} (store : t.store = s.store.withFields s.mint.seconds r.id (Field.sorted fields)) :
    ∃ back, back.map Field.unplaced = keptFields fields ∧ t.owned r.owner r.id = .ok (r.shownAs settings back) := by
  obtain ⟨back,listed,same⟩ := storedFields store
  have row := rowStored there.row store
  rw [now] at row
  exact ⟨back,same,ownedShows fit row reads listed⟩

theorem distinctCleaned (fields : List Field) :
    Field.distinctIds (fields.map Field.cleaned) = Field.distinctIds fields := by
  rw [Field.distinctIds,Field.cleanedIds,Field.distinctIds]

theorem There.copiesShown {s : Service} (kept : WellKept s.store) (source : Int) {r : FormRow} (there : There s r)
    (now : s.mint.seconds = r.updatedAt) (fit : fits r.id = true) {settings : Settings}
    (reads : Settings.ofObject r.settings = .ok settings) (empty : s.store.getFields r.id = .ok [])
    {fields : List Field} (small : ∀ f ∈ fields, fits f.order = true) (holds : s.store.Holds fields) :
    ∃ t back, s.copyFields source r.id fields = (t,.ok ()) ∧
      back.map Field.unplaced = keptFields (if Field.distinctIds fields then fields.map Field.cleaned else []) ∧
      t.owned r.owner r.id = .ok (r.shownAs settings back) := by
  have nothing : keptFields [] = [] := by simp [keptFields,Field.sorted]
  cases none : fields.isEmpty with
  | true =>
    refine ⟨s,[],by simp only [copyFields,none,if_true],?_,ownedShows fit there.row reads empty⟩
    rw [List.isEmpty_iff.mp none]
    simp [nothing]
  | false =>
    have known : ∃ f ∈ s.store.forms, f.id = r.id := ⟨r,there.known,rfl⟩
    cases fault : s.store.writeFault? r.id (Field.sorted (fields.map Field.cleaned)) with
    | none =>
      obtain ⟨-,-,-,writable⟩ := (Store.writeFaultNone kept.unlocked).mp fault
      have distinct : Field.distinctIds fields = true := by
        rw [← distinctCleaned]
        exact decide_eq_true (Classical.byContradiction fun repeated => writable (.inl repeated))
      obtain ⟨t,done,-,store⟩ := storeFieldsDone kept fault
      obtain ⟨back,same,shown⟩ := there.fieldsShown now fit reads store
      exact ⟨t,back,by simp only [copyFields,none,done]; rfl,by rwa [distinct],shown⟩
    | some why =>
      have repeated : Field.distinctIds fields = false := by
        refine Bool.eq_false_iff.mpr fun distinct => ?_
        have passes := (Store.writeFaultNone kept.unlocked).mpr ⟨fit,cleanedSmall small,cleanedHolds holds,
          Store.writable known (of_decide_eq_true ((distinctCleaned fields).trans distinct))⟩
        cases fault.symm.trans passes
      obtain ⟨t,done,same⟩ := copyFieldsFailed source fit small none fault
      exact ⟨t,[],done,by rw [repeated]; exact nothing.symm,ownedShows fit (same ▸ there.row) reads (same ▸ empty)⟩

inductive NewForm (s : Service) (m : Mint) (owner title : String) (about : Option String) (settings : Value) :
    Store × Mint × Except StoreFault Form → Prop where
  | refused {m' faults} (misread : Store.newSettings settings = .error faults) :
      NewForm s m owner title about settings (s.store,m',.error (.invalid faults))
  | taken {m'} : NewForm s m owner title about settings (s.store,m',.error (.violates .slugUnique))
  | unread {store m' given faults} (read : Store.newSettings settings = .ok given)
      (misread : Settings.ofObject (Store.keptSettings given) = .error faults) :
      NewForm s m owner title about settings (store,m',.error (.invalid faults))
  | made {r m' given later} (read : Store.newSettings settings = .ok given)
      (reads : Settings.ofObject (Store.keptSettings given) = .ok later) (own : r.settings = Store.keptSettings given)
      (draft : Draft r m.seconds owner title about) (now : m'.seconds = r.updatedAt)
      (number : r.id = Store.nextId (s.store.forms.map (·.id))) (kept : WellKept (s.store.withForm r))
      (there : There { s with store := s.store.withForm r, mint := m' } r) :
      NewForm s m owner title about settings (s.store.withForm r,m',.ok (r.shownAs later []))

theorem createFormNew {s : Service} (kept : WellKept s.store) (m : Mint) (owner title : String) (about : Option String)
    (settings : Value) (slug : Option String) :
    NewForm s m owner title about settings (s.store.createForm m owner title about settings slug) := by
  have created := Store.createFormCreated s.store m owner title about settings slug
  have seconds := createFormSeconds s.store m owner title about settings slug
  cases made : s.store.createForm m owner title about settings slug with
  | mk store rest =>
    obtain ⟨m',outcome⟩ := rest
    rw [made] at created seconds
    dsimp only at created seconds
    cases created with
    | refused misread => exact .refused misread
    | taken => exact .taken
    | stored read free =>
      rename_i given
      have draft := madeDraft s.store m owner title about slug given
      have own : (s.store.madeRow m owner title about slug given).settings = Store.keptSettings given := rfl
      have number : (s.store.madeRow m owner title about slug given).id = Store.nextId (s.store.forms.map (·.id)) := rfl
      generalize s.store.madeRow m owner title about slug given = r at draft own number free ⊢
      cases reads : Settings.ofObject r.settings with
      | error faults =>
        rw [Store.toFormMisread reads]
        exact .unread read (own ▸ reads)
      | ok later =>
        rw [Store.toFormReads reads]
        have wrote : Wrote noForm (fun _ => True) s.store (s.store.withForm r) :=
          Store.withFormWrote number free read own trivial
        exact .made read (own ▸ reads) own draft (seconds.trans draft.updated.symm) number
          (Store.wroteWellKept wrote kept) (madeThere s m' number ⟨_,reads⟩)

theorem createFormDrafts {s : Service} (kept : WellKept s.store) {owner : String} {rawTitle description settings : Value}
    {fields : FieldSource} (room : Roomy s fields.size)
    (free : (s.createForm owner rawTitle description settings fields).2 ≠ .error (.store (.violates .slugUnique))) :
    ((s.createForm owner rawTitle description settings fields).2.map Form.unnamed).mapError ServiceFault.unnumbered =
      (drafted s.store.mostValues s.mint owner rawTitle description settings fields).mapError
        ServiceFault.unnumbered := by
  unfold createForm at free ⊢
  unfold drafted
  cases name : title rawTitle with
  | error e => rfl
  | ok named =>
  simp only [name] at free ⊢
  cases ready : prepare fields s.mint with
  | mk outcome m =>
  simp only [ready] at free ⊢
  cases outcome with
  | error e => rfl
  | ok prepared =>
  cases described : cleanOptionalText description with
  | error e => rfl
  | ok about =>
  simp only [described] at free ⊢
  have new := createFormNew kept m owner named about settings none
  generalize s.store.createForm m owner named about settings none = made at new free ⊢
  cases new with
  | refused misread =>
    rw [misread]
    rfl
  | taken => exact absurd rfl free
  | unread read misread =>
    simp only [read,misread]
    rfl
  | @made r m' given later read reads own draft now number keptNow there =>
  obtain rfl := draft.owner
  have id : (r.shownAs later []).id.getD 0 = r.id := rfl
  simp only [read,reads,id]
  obtain ⟨distinct,below⟩ := prepareDistinct ready
  have sorted : Field.distinctIds (Field.sorted prepared) = true := (Store.sortedDistinct prepared).trans distinct
  have fit : fits r.id = true := number ▸ room.1
  have alike := Store.writeFaultUnnumbered keptNow.unlocked fit ⟨r,there.known,rfl⟩ sorted
  change _ = (Store.plainFault s.store.mostValues 0 (Field.sorted prepared)).map _ at alike
  cases none : prepared.isEmpty with
  | true =>
    have nothing : Field.sorted [] = [] := by simp [Field.sorted]
    have clear : Store.plainFault s.store.mostValues 0 [] = Option.none := by simp [Store.plainFault,fits]
    rw [List.isEmpty_iff.mp none,nothing,clear]
    exact congrArg Except.ok (draft.shown later (by simp [keptFields,nothing]))
  | false =>
  cases fault : (s.store.withForm r).writeFault? r.id (Field.sorted prepared) with
  | none =>
    rw [fault] at alike
    obtain ⟨t,done,-,store⟩ := storeFieldsDone (s := { s with store := s.store.withForm r, mint := m' }) keptNow fault
    obtain ⟨back,same,shown⟩ := there.fieldsShown now fit (own ▸ reads) store
    rw [Option.map_eq_none_iff.mp alike.symm]
    simp only [done,shown]
    exact congrArg Except.ok (draft.shown later same)
  | some why =>
    rw [fault] at alike
    obtain ⟨other,fails,same⟩ := Option.map_eq_some_iff.mp alike.symm
    obtain ⟨t,failed,-⟩ := storeFieldsFailed (s := { s with store := s.store.withForm r, mint := m' }) fault
    rw [fails]
    simp only [failed]
    exact congrArg Except.error same.symm

theorem freshEmpty {s : Store} (keyed : Keyed s) : s.getFields (Store.nextId (s.forms.map (·.id))) = .ok [] := by
  rw [Store.getFields,keyed.vacant (Store.nextIdUnused rfl),List.mergeSort_nil]
  rfl

theorem duplicateFormCopies {s : Service} (kept : WellKept s.store) (keyed : Keyed s.store) {owner : String} {form : Int}
    {source : Form} (found : s.owned owner form = .ok source) (room : Roomy s 0)
    (free : (s.duplicateForm owner form).2 ≠ .error (.store (.violates .slugUnique))) :
    (s.duplicateForm owner form).2.map Form.unnamed = copied s.mint owner source := by
  obtain ⟨old,shown⟩ := ownedShown found
  obtain ⟨fields,listed,small,holds⟩ := Store.getFieldsFits kept old.id
  have same : source.fields = fields := Except.ok.inj (shown.read.fields.symm.trans listed)
  unfold duplicateForm at free ⊢
  unfold copied
  simp only [found] at free ⊢
  have later : (s.mint.slug (source.slug.getD "" ++ "-copy")).2.seconds = s.mint.seconds := rfl
  generalize s.mint.slug (source.slug.getD "" ++ "-copy") = name at free later ⊢
  have new := createFormNew kept name.2 owner (Sanitize.clean source.snapshot.title ++ " (Copy)")
    (Sanitize.cleanOptional source.snapshot.description) (.object (Store.keptSettings source.snapshot.settings))
    (some name.1)
  generalize s.store.createForm name.2 owner _ _ _ _ = made at new free ⊢
  cases new with
  | refused misread =>
    rw [misread]
    rfl
  | taken => exact absurd rfl free
  | unread read misread =>
    simp only [read,misread]
    rfl
  | @made r m' given settled read reads own draft now number keptNow there =>
  obtain rfl := draft.owner
  have id : (r.shownAs settled []).id.getD 0 = r.id := rfl
  simp only [read,reads,id]
  have empty : (s.store.withForm r).getFields r.id = .ok [] := number ▸ freshEmpty keyed
  obtain ⟨t,back,stored,copies,shown⟩ := there.copiesShown keptNow form now (number ▸ room.1)
    (own ▸ reads) empty (same ▸ small) (same ▸ ⟨holds.readable,holds.room⟩)
  simp only [stored,shown]
  exact congrArg Except.ok (later ▸ draft.shown settled copies)

end Service
end FormBuilder
