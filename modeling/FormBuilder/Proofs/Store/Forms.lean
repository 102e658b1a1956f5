import FormBuilder.Proofs.Store.Writes
/-! Forms of the store: which row answers to an id, what becomes of it under writes, and what making a new
form and changing one come to. -/
namespace FormBuilder.Store

theorem formRowFound {s : Store} {form : Int} {owner : String} {r : FormRow}
    (found : s.formRow? form (some owner) = some r) : r ∈ s.forms ∧ r.id = form ∧ r.owner = owner := by
  have matched := List.find?_some found
  simp only [Option.all_some,Bool.and_eq_true,beq_iff_eq] at matched
  exact ⟨List.mem_of_find?_eq_some found,matched.1,matched.2.symm⟩

theorem formRowAdded {s t : Store} {r : FormRow} (last : t.forms = s.forms ++ [r]) (unused : ∀ f ∈ s.forms, f.id ≠ r.id) :
    t.formRow? r.id (some r.owner) = some r := by
  have none : s.forms.find? (fun f => f.id == r.id && (some r.owner).all (· == f.owner)) = none :=
    List.find?_eq_none.mpr fun f member => by simp [unused f member]
  rw [formRow?,last,List.find?_append,none]
  simp

theorem formRowWithFields (s : Store) (now form : Int) (fields : List Field) (id : Int) (owner : Option String) :
    (s.withFields now form fields).formRow? id owner =
      (s.formRow? id owner).map (fun r => if r.id = form then { r with updatedAt := now } else r) := by
  simp only [formRow?,withFields,List.find?_map]
  congr 2
  funext r
  simp only [Function.comp_apply]
  split <;> rfl

theorem formRowPut {s : Store} {r : FormRow} (there : ∃ old ∈ s.forms, old.id = r.id) :
    (s.putForm r).formRow? r.id (some r.owner) = some r := by
  have matched (old : FormRow) : ((if old.id = r.id then r else old).id == r.id &&
      (some r.owner).all (· == (if old.id = r.id then r else old).owner)) = decide (old.id = r.id) := by
    by_cases same : old.id = r.id <;> simp [same]
  have found : ∃ old, s.forms.find? (fun old => decide (old.id = r.id)) = some old := by
    obtain ⟨old,member,same⟩ := there
    exact Option.isSome_iff_exists.mp (List.find?_isSome.mpr ⟨old,member,decide_eq_true same⟩)
  obtain ⟨old,found⟩ := found
  have same : old.id = r.id := by simpa using List.find?_some found
  simp only [formRow?,putForm,List.find?_map,Function.comp_def,matched,found,Option.map_some,same,if_true]

theorem formOfReads {s : Store} (kept : WellKept s) {r : FormRow} {settings : Settings}
    (reads : Settings.ofObject r.settings = .ok settings) : ∃ f, s.formOf r = .ok f ∧ f.id = some r.id := by
  obtain ⟨fields,ok,-⟩ := getFieldsFits kept r.id
  simp only [formOf,ok,FormRow.toForm,reads]
  exact ⟨_,rfl,rfl⟩

structure ReadFrom (s : Store) (r : FormRow) (f : Form) : Prop where
  id : f.id = some r.id
  fields : s.getFields r.id = .ok f.fields
  settings : Settings.ofObject r.settings = .ok f.snapshot.settings
  shown : f = r.shownAs f.snapshot.settings f.fields

theorem toFormReads {r : FormRow} {later : Settings} (reads : Settings.ofObject r.settings = .ok later)
    (fields : List Field) : (r.toForm fields).mapError StoreFault.invalid = .ok (r.shownAs later fields) := by
  simp only [FormRow.toForm,reads]
  rfl

theorem toFormMisread {r : FormRow} {faults : List Fault} (misread : Settings.ofObject r.settings = .error faults)
    (fields : List Field) : (r.toForm fields).mapError StoreFault.invalid = .error (.invalid faults) := by
  simp only [FormRow.toForm,misread]
  rfl

theorem formOfReadFrom {s : Store} {r : FormRow} {f : Form} (ok : s.formOf r = .ok f) : ReadFrom s r f := by
  unfold formOf at ok
  split at ok
  · contradiction
  · rename_i fields read
    cases settings : Settings.ofObject r.settings with
    | error faults =>
      rw [toFormMisread settings] at ok
      contradiction
    | ok given =>
      rw [toFormReads settings] at ok
      cases ok
      exact ⟨rfl,read,settings,rfl⟩

theorem formOfSome {s : Store} {row : Option FormRow} {f : Form} (ok : s.formOf? row = .ok (some f)) :
    ∃ r, row = some r ∧ ReadFrom s r f := by
  cases row with
  | none => simp [formOf?] at ok
  | some r =>
    obtain ⟨g,read,same⟩ := Checked.mapOk.mp ok
    exact ⟨r,rfl,Option.some.inj same ▸ formOfReadFrom read⟩

theorem newSlugClock (s : Store) (m : Mint) (title : String) (slug : Option String) :
    (s.newSlug m title slug).2.millis = m.millis := by
  unfold newSlug availableSlug
  split
  · rfl
  · dsimp only
    split <;> split <;> rfl

theorem createFormClock (s : Store) (m : Mint) (owner title : String) (description : Option String) (settings : Value)
    (slug : Option String) : (s.createForm m owner title description settings slug).2.1.millis = m.millis := by
  unfold createForm
  split
  · rfl
  · exact newSlugClock s m title slug

def madeRow (s : Store) (m : Mint) (owner title : String) (description : Option String) (slug : Option String)
    (given : Settings) : FormRow :=
  let (slug,m) := s.newSlug m title slug
  s.newRow m.seconds owner title slug description given

inductive Created (s : Store) (m : Mint) (owner title : String) (description : Option String) (settings : Value)
    (slug : Option String) : Store → Except StoreFault Form → Prop where
  | refused {faults} (misread : newSettings settings = .error faults) :
      Created s m owner title description settings slug s (.error (.invalid faults))
  | taken : Created s m owner title description settings slug s (.error (.violates .slugUnique))
  | stored {given} (read : newSettings settings = .ok given)
      (free : s.slugRow? (s.madeRow m owner title description slug given).slug = none) :
      Created s m owner title description settings slug
        (s.withForm (s.madeRow m owner title description slug given))
        (((s.madeRow m owner title description slug given).toForm []).mapError .invalid)

theorem createFormCreated (s : Store) (m : Mint) (owner title : String) (description : Option String)
    (settings : Value) (slug : Option String) :
    Created s m owner title description settings slug (s.createForm m owner title description settings slug).1
      (s.createForm m owner title description settings slug).2.2 := by
  unfold createForm
  split
  · rename_i misread
    exact .refused misread
  · rename_i given read
    simp only [insertForm]
    split
    · exact .taken
    · rename_i free
      exact .stored read (Option.not_isSome_iff_eq_none.mp free)

theorem newSettingsRead {settings : Value} {given : Settings} (ok : newSettings settings = .ok given) :
    ∃ o, Settings.ofObject o = .ok given := by
  unfold newSettings Settings.read at ok
  split at ok
  · exact ⟨_,ok⟩
  · contradiction

theorem newSettingsReadBack {o : Object} {given : Settings} (plain : Settings.Plain o)
    (ok : newSettings (.object o) = .ok given) : ∃ t, Settings.ofObject (keptSettings given) = .ok t := by
  unfold newSettings at ok
  split at ok
  · exact Settings.readReadsBack (o := []) (fun _ _ _ => rfl) ok
  · exact Settings.readReadsBack plain ok

theorem createFormStored {s : Store} {m : Mint} {owner title : String} {description : Option String}
    {settings : Value} {slug : Option String} {given : Settings} (read : newSettings settings = .ok given)
    (free : s.slugRow? (s.madeRow m owner title description slug given).slug = none) :
    let r := s.madeRow m owner title description slug given
    ∃ m', s.createForm m owner title description settings slug = (s.withForm r,m',(r.toForm []).mapError .invalid) := by
  intro r
  have inserted : s.insertForm r = (s.withForm r,(r.toForm []).mapError .invalid) := by
    simp only [insertForm,r,free]
    rfl
  have row : s.newRow (s.newSlug m title slug).2.seconds owner title (s.newSlug m title slug).1 description given = r := rfl
  refine ⟨(s.newSlug m title slug).2,?_⟩
  simp only [createForm,read,row,inserted]

theorem withFormWrote {own new : FormRow → Prop} {s : Store} {r : FormRow} {given : Settings} {settings : Value}
    (fresh : r.id = nextId (s.forms.map (·.id))) (free : s.slugRow? r.slug = none)
    (read : newSettings settings = .ok given) (kept : r.settings = keptSettings given)
    (may : new r) : Wrote own new s (s.withForm r) := by
  obtain ⟨o,ok⟩ := newSettingsRead read
  exact .form s _ fresh free (kept ▸ Settings.readKeepsTidy ok) may

theorem formRowWithForm {s : Store} {r : FormRow} (fresh : r.id = nextId (s.forms.map (·.id))) :
    (s.withForm r).formRow? r.id (some r.owner) = some r :=
  formRowAdded (s := s) rfl (nextIdUnused fresh)

inductive Patched (r : FormRow) (p : Patch) (t : FormRow) : Prop where
  | apart (none : p.settings = none) (same : t.settings = r.settings)
  | together {changes settings} (some : p.settings = some changes)
      (reads : Settings.ofObject (Settings.merged r.settings changes) = .ok settings) (kept : t.settings = keptSettings settings)

structure SameForm (r t : FormRow) : Prop where
  id : t.id = r.id
  owner : t.owner = r.owner
  slug : t.slug = r.slug
  created : t.createdAt = r.createdAt

theorem patchedSame {r t : FormRow} {p : Patch} (ok : patched r p = .ok t) : SameForm r t ∧ Patched r p t := by
  unfold patched at ok
  dsimp only at ok
  split at ok
  · contradiction
  · rename_i none
    cases ok
    exact ⟨⟨rfl,rfl,rfl,rfl⟩,.apart none rfl⟩
  · rename_i changes some
    split at ok
    · contradiction
    · rename_i settings reads
      cases ok
      exact ⟨⟨rfl,rfl,rfl,rfl⟩,.together some reads rfl⟩

theorem patchedMisread {r : FormRow} {p : Patch} {changes : Object} {faults : List Fault}
    (given : p.settings = some changes)
    (misread : Settings.ofObject (Settings.merged r.settings changes) = .error faults) :
    ∃ fault, patched r p = .error fault := by
  unfold patched
  dsimp only
  cases patchedStatus _ p with
  | error fault => exact ⟨fault,rfl⟩
  | ok status =>
    simp only [given,misread]
    exact ⟨_,rfl⟩

theorem patchedRefused {r : FormRow} {p : Patch} {fault : StoreFault}
    (known : ∀ v, p.status = some v → ∃ t, Status.read v = .ok t) (refused : patched r p = .error fault) :
    ∃ changes faults, p.settings = some changes ∧
      Settings.ofObject (Settings.merged r.settings changes) = .error faults := by
  unfold patched at refused
  dsimp only at refused
  split at refused
  · rename_i status
    unfold patchedStatus at status
    split at status
    · contradiction
    · rename_i v given
      obtain ⟨t,read⟩ := known v given
      rw [read] at status
      contradiction
  · contradiction
  · rename_i changes _ some
    split at refused
    · rename_i faults misread
      exact ⟨changes,faults,some,misread⟩
    · contradiction

theorem patchedReads {r t : FormRow} {p : Patch} {settings : Settings} (tidy : Settings.Tidy r.settings)
    (reads : Settings.ofObject r.settings = .ok settings) (ok : patched r p = .ok t) :
    Settings.Tidy t.settings ∧ ∃ later, Settings.ofObject t.settings = .ok later := by
  cases (patchedSame ok).2 with
  | apart none same =>
    rw [same]
    exact ⟨tidy,settings,reads⟩
  | together some read kept =>
    rw [kept]
    exact ⟨Settings.readKeepsTidy read,Settings.readReadsBack (Settings.mergedIsPlain tidy.plain _) read⟩

theorem updateFormDone (own new : FormRow → Prop) {s : Store} (kept : WellKept s) {form : Int} {owner : String}
    {r t : FormRow} {p : Patch} (now : Int) (found : s.formRow? form (some owner) = some r) (mine : own r)
    (reads : Readable r) (changed : patched r p = .ok t) :
    Wrote own new s (s.updateForm now form (some owner) p).1 ∧
    ∃ f, (s.updateForm now form (some owner) p).2 = .ok (some f) := by
  have known := (formRowFound found).1
  obtain ⟨settings,read⟩ := reads
  obtain ⟨tidy,later,readsLater⟩ := patchedReads (kept.settings r known) read changed
  obtain ⟨id,held,slug,created⟩ := (patchedSame changed).1
  let row : FormRow := { t with updatedAt := now }
  have wrote : Wrote own new s (s.putForm row) :=
    .columns s known mine row id held slug created tidy ⟨_,read⟩ ⟨_,readsLater⟩
  obtain ⟨f,shown,-⟩ := formOfReads (wroteWellKept wrote kept) (r := row) readsLater
  simp only [updateForm,found,changed]
  exact ⟨wrote,f,by simp only [row] at shown; rw [shown]; rfl⟩

theorem updateFormRefused {s : Store} {form : Int} {owner : String} {r : FormRow} {p : Patch} {fault : StoreFault}
    (now : Int) (found : s.formRow? form (some owner) = some r) (refused : patched r p = .error fault) :
    s.updateForm now form (some owner) p = (s,.error fault) := by
  simp only [updateForm,found,refused]

theorem deleteFormMissing {s : Store} {form : Int} {owner : Option String} (missing : s.formRow? form owner = none) :
    s.deleteForm form owner = (s,false) := by
  simp only [deleteForm,missing]

theorem deleteFormDone {s : Store} {form : Int} {owner : Option String} {r : FormRow}
    (found : s.formRow? form owner = some r) : s.deleteForm form owner = (s.withoutForm r.id,true) := by
  simp only [deleteForm,found]

theorem createSubmissionDone (own new : FormRow → Prop) {s : Store} {r : FormRow} (known : r ∈ s.forms) (mine : own r)
    (now : Int) {data : Object} (finite : Value.finiteEntries data = true) :
    Wrote own new s (s.createSubmission now r.id data).1 ∧ ∃ row, (s.createSubmission now r.id data).2 = .ok row := by
  simp only [createSubmission,finite,knownForm known,Bool.not_true,Bool.false_eq_true,if_false,if_true]
  exact ⟨.submission s known mine _ rfl,_,rfl⟩

theorem createSubmissionMalformed {data : Object} (endless : Value.finiteEntries data = false) (s : Store)
    (now form : Int) : s.createSubmission now form data = (s,.error .malformed) := by
  simp only [createSubmission,endless,Bool.not_false,if_true]

theorem createSubmissionRefused {s : Store} {now form : Int} {data : Object} {fault : StoreFault}
    (refused : (s.createSubmission now form data).2 = .error fault) : (s.createSubmission now form data).1 = s := by
  unfold createSubmission at refused ⊢
  split
  · rfl
  rename_i finite
  rw [if_neg finite] at refused
  split at refused
  · contradiction
  · rename_i unknown
    rw [if_neg unknown]

theorem createSubmissionMade {s : Store} {now form : Int} {data : Object} {row : Submission}
    (made : (s.createSubmission now form data).2 = .ok row) :
    row.form = form ∧ row.data = data ∧
      (s.createSubmission now form data).1 = { s with submissions := s.submissions ++ [row] } := by
  unfold createSubmission at made ⊢
  split at made
  · contradiction
  rename_i finite
  rw [if_neg finite]
  split at made
  · rename_i known
    cases made
    simp [known]
  · contradiction

end FormBuilder.Store
