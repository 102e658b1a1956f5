import FormBuilder.Proofs.Service.Failures
import FormBuilder.Proofs.Store.MergedSettings
import FormBuilder.Proofs.Store.Replaced
/-! What a form is once a snapshot of it was saved: the texts cleaned, the fields as they were arranged, and the
settings laid over the ones it had. -/
namespace FormBuilder

namespace Field

theorem arrangeSorted {fields arranged : List Field} (ok : arrange fields = .ok arranged) : sorted arranged = arranged := by
  unfold arrange at ok
  split at ok
  · cases ok
    refine List.mergeSort_of_pairwise ((renumberFromAscending 0 _).1.imp fun before => ?_)
    exact decide_eq_true before
  · contradiction

theorem arrangeSource {fields arranged : List Field} (ok : arrange fields = .ok arranged) :
    ∀ f ∈ arranged, ∃ g ∈ fields, ∃ order, f = { cleaned g with order } := by
  unfold arrange at ok
  split at ok
  · cases ok
    intro f member
    obtain ⟨h,among,order,same⟩ := renumberFromSource 0 _ f member
    obtain ⟨g,given,rfl⟩ := List.mem_map.mp among
    exact ⟨g,Store.sortedMember.mp given,order,same⟩
  · contradiction

theorem arrangeLength {fields arranged : List Field} (ok : arrange fields = .ok arranged) :
    arranged.length = fields.length := by
  unfold arrange at ok
  split at ok
  · cases ok
    have ids := congrArg List.length (renumberFromIds 0 ((sorted fields).map cleaned))
    simpa only [renumber,List.length_map,Store.sortedLength] using ids
  · contradiction

theorem cleanedCondition (g : Field) (order : Nat) : Field.condition { cleaned g with order } = g.condition := by
  simp only [Field.condition,cleaned]

theorem cleanedNamed {g : Field} (named : g.Named) (order : Nat) : Named { cleaned g with order } := by
  intro c own
  rw [cleanedCondition] at own
  exact named c own

theorem cleanedFinite {g : Field} (finite : g.finite = true) (order : Nat) :
    Field.finite { cleaned g with order } = true := by
  rw [Field.finite] at finite ⊢
  rw [cleanedCondition]
  have bounds : (g.cleaned).kind.finite = g.kind.finite := Service.cleanedBounds g
  simp only [bounds]
  exact finite

end Field

namespace Service
open Store (Wrote WellKept fits)

theorem cleanDescription (description : Option String) :
    cleanOptionalText (.ofOption .str description) = .ok (Sanitize.cleanOptional description) := by
  cases description with
  | none => rfl
  | some text =>
    simp only [cleanOptionalText,Value.ofOption,cleanText,Sanitize.cleanOptional,Option.map_some,Option.filter_some,
      Except.map]
    cases (Sanitize.clean text).isEmpty <;> rfl

theorem titleClean {given text : String} (ok : Service.title (.str given) = .ok text) : text = Sanitize.clean given := by
  simp only [Service.title,cleanText] at ok
  generalize Sanitize.clean given = cleaned at ok ⊢
  split at ok
  · contradiction
  · exact (Except.ok.inj ok).symm

theorem patchPartGiven {patch : Object} {key : String} {read : Value → Except ServiceFault α} {v : Value} {part : Option α}
    (given : patch.value? key = some v) (ok : patchPart patch key read = .ok part) :
    ∃ a, read v = .ok a ∧ part = some a := by
  simp only [patchPart,given] at ok
  cases reads : read v with
  | error fault =>
    rw [reads] at ok
    contradiction
  | ok a =>
    rw [reads] at ok
    exact ⟨a,rfl,(Except.ok.inj ok).symm⟩

theorem settingsPatchObject {o : Object} {part : Option Object} (ok : (settingsPatch (.object o)).map some = .ok part) :
    part = some o := by
  unfold settingsPatch at ok
  split at ok
  · contradiction
  · rename_i same
    rw [Value.object.inj same]
    exact (Except.ok.inj ok).symm
  · rename_i other
    exact absurd rfl (other o)

theorem readPatchSnapshot {snapshot : Snapshot} {p : Patch} (ok : readPatch (snapshotUpdate snapshot).patch = .ok p) :
    p = ⟨some (Sanitize.clean snapshot.title),some (Sanitize.cleanOptional snapshot.description),none,
      some (Store.keptSettings snapshot.settings)⟩ := by
  simp only [readPatch,bindOk,pure,Except.pure] at ok
  obtain ⟨patch,given,named,title,about,description,status,stated,rest⟩ := ok
  cases given
  obtain ⟨t,titled,rfl⟩ := patchPartGiven rfl title
  obtain ⟨d,described,rfl⟩ := patchPartGiven rfl description
  rw [cleanDescription] at described
  have unstated : status = none := (Except.ok.inj stated).symm
  obtain ⟨settings,set,last⟩ := bindOk.mp rest
  rw [← Except.ok.inj last,titleClean titled,← Except.ok.inj described,unstated,settingsPatchObject set]
  rfl

theorem storeUpdateStore {s u : Service} {owner : String} {form : Int} {p : Patch} {fields : List Field}
    (stored : s.storeFields form fields = (u,.ok ())) :
    (s.storeUpdate owner form p (some fields)).1.store = (u.store.updateForm u.mint.seconds form (some owner) p).1 := by
  simp only [storeUpdate,stored]
  cases u.store.updateForm u.mint.seconds form (some owner) p with
  | mk store outcome =>
    cases outcome with
    | error fault => rfl
    | ok form => cases form <;> rfl

theorem storeUpdateDone {s : Service} (kept : WellKept s.store) {owner : String} {r : FormRow} {p : Patch}
    {fields : List Field} {saved : Form} (row : s.store.formRow? r.id (some owner) = some r)
    (ok : (s.storeUpdate owner r.id p (some fields)).2 = .ok saved) :
    ∃ t now, Store.patched { r with updatedAt := s.mint.seconds } p = .ok t ∧
      (s.storeUpdate owner r.id p (some fields)).1.store =
        (s.store.withFields s.mint.seconds r.id (Field.sorted fields)).putForm
          { t with updatedAt := now } := by
  cases fault : s.store.writeFault? r.id (Field.sorted fields) with
  | some why =>
    obtain ⟨u,failed,-⟩ := storeFieldsFailed fault
    simp [storeUpdate,failed] at ok
  | none =>
    obtain ⟨u,done,-,store⟩ := storeFieldsDone kept fault
    have found := rowStored row store
    cases change : Store.patched { r with updatedAt := s.mint.seconds } p with
    | error fault =>
      simp only [storeUpdate,done,Store.updateFormRefused u.mint.seconds found change] at ok
      contradiction
    | ok t =>
      refine ⟨t,u.mint.seconds,rfl,?_⟩
      rw [storeUpdateStore done,← store]
      simp only [Store.updateForm,found,change]

theorem prepareReady {fields : List Field} {m m' : Mint} {ready : Option (List Field)}
    (ok : prepareOptional (some (.ready fields)) m = (.ok ready,m')) :
    m' = m ∧ ∃ prepared, Field.arrange fields = .ok prepared ∧ ready = some prepared := by
  cases arranged : Field.arrange fields with
  | error fault =>
    simp only [prepareOptional,prepare,arranged,Prod.mk.injEq] at ok
    exact absurd ok.1 (by rintro ⟨⟩)
  | ok prepared =>
    simp only [prepareOptional,prepare,arranged,Prod.mk.injEq] at ok
    exact ⟨ok.2.symm,prepared,rfl,(Except.ok.inj ok.1).symm⟩

theorem saveSnapshotSteps {s : Service} {owner : String} {form : Int} {snapshot : Snapshot} {saved : Form}
    (ok : (s.saveSnapshot owner form snapshot).2 = .ok saved) :
    ∃ old prepared, s.owned owner form = .ok old ∧ Field.arrange snapshot.fields = .ok prepared ∧
      s.saveSnapshot owner form snapshot = s.storeUpdate owner form
        ⟨some (Sanitize.clean snapshot.title),some (Sanitize.cleanOptional snapshot.description),none,
          some (Store.keptSettings snapshot.settings)⟩ (some prepared) := by
  unfold saveSnapshot updateForm at ok ⊢
  split at ok
  · cases ok
  · cases ok
  rename_i old p found patch
  cases ready : prepareOptional (snapshotUpdate snapshot).fields s.mint with
  | mk outcome m =>
    rw [ready] at ok
    cases outcome with
    | error fault => cases ok
    | ok fields =>
      obtain ⟨same,prepared,arranged,given⟩ := prepareReady ready
      have asked := readPatchSnapshot patch
      subst same given asked
      exact ⟨old,prepared,found,arranged,rfl⟩

def SameFields (given now : List Field) : Prop :=
  List.Forall₂ (fun f g => ∃ row : Int, g = { f with persistedId := some (toString row) }) given now

theorem keptSameFields {fields prepared back : List Field} (arranged : Field.arrange fields = .ok prepared)
    (kept : List.Forall₂ (fun f g => ∃ row : Int, g = f.kept row) prepared back)
    (parsed : ∀ f ∈ fields, f.Parsed) (finite : ∀ f ∈ fields, f.finite = true) : SameFields prepared back := by
  have each := (List.forall₂_and_left _ _).mpr ⟨Field.arrangeSource arranged,kept⟩
  refine each.imp ?_
  rintro f g ⟨⟨h,among,order,rfl⟩,row,rfl⟩
  exact ⟨row,Field.keptSame (Field.cleanedNamed (Field.parsedNamed (parsed h among)) order)
    (Field.cleanedFinite (finite h among) order) row⟩

theorem patchedTexts {r t : FormRow} {title : String} {about : Option String} {changes : Object}
    (ok : Store.patched r ⟨some title,some about,none,some changes⟩ = .ok t) :
    ∃ settings, Settings.ofObject (Settings.merged r.settings changes) = .ok settings ∧
      t = { r with title, description := about, settings := Store.keptSettings settings } := by
  simp only [Store.patched,Store.patchedStatus,Option.getD_some] at ok
  split at ok
  · cases ok
  · rename_i settings reads
    exact ⟨settings,reads,(Except.ok.inj ok).symm⟩

theorem ownedPut {s : Store} {r : FormRow} (fit : fits r.id = true) (there : ∃ old ∈ s.forms, old.id = r.id)
    {later : Settings} (reads : Settings.ofObject r.settings = .ok later) {back : List Field}
    (listed : s.getFields r.id = .ok back) {t : Service} (store : t.store = s.putForm r) :
    t.getForm r.owner r.id = .ok (r.shownAs later back) := by
  have row : t.store.formRow? r.id (some r.owner) = some r := by rw [store,Store.formRowPut there]
  exact ownedShows fit row reads (by rw [store]; exact listed)

structure Reloads (r : FormRow) (title : String) (about : Option String) (changes : Object) (fields : List Field)
    (now : Form) : Prop where
  title : now.snapshot.title = title
  about : now.snapshot.description = about
  settings : ∃ merged, Settings.ofObject (Settings.merged r.settings changes) = .ok merged ∧
    Settings.ofObject (Store.keptSettings merged) = .ok now.snapshot.settings
  fields : List.Forall₂ (fun f g => ∃ row : Int, g = f.kept row) fields now.fields
  slug : now.slug = some r.slug
  owner : now.owner = some r.owner
  status : now.status = r.status

theorem storeUpdateReloads {s : Service} (kept : WellKept s.store) {owner : String} {r : FormRow}
    (fit : fits r.id = true) (row : s.store.formRow? r.id (some owner) = some r) {title : String}
    {about : Option String} {changes : Object} {fields : List Field} {saved : Form}
    (inOrder : Field.sorted fields = fields)
    (ok : (s.storeUpdate owner r.id ⟨some title,some about,none,some changes⟩ (some fields)).2 = .ok saved) :
    ∃ now, (s.storeUpdate owner r.id ⟨some title,some about,none,some changes⟩ (some fields)).1.getForm owner r.id =
      .ok now ∧ Reloads r title about changes fields now := by
  obtain ⟨changed,moment,patched,store⟩ := storeUpdateDone kept row ok
  obtain ⟨settings,merged,rfl⟩ := patchedTexts patched
  obtain ⟨among,-,rfl⟩ := Store.formRowFound row
  obtain ⟨later,reads⟩ := Settings.readReadsBack (Settings.mergedIsPlain (kept.settings r among).plain _) merged
  obtain ⟨back,listed,keptFields⟩ :=
    Store.getFieldsReplaced s.store s.mint.seconds r.id (Field.sortedInOrder fields).ascending
  have there : ∃ old ∈ (s.store.withFields s.mint.seconds r.id (Field.sorted fields)).forms, old.id = r.id :=
    ⟨_,List.mem_map_of_mem among,by simp⟩
  let written : FormRow := { r with
    title, description := about, settings := Store.keptSettings settings, updatedAt := moment }
  have found := ownedPut (r := written) fit there reads listed store
  exact ⟨_,found,rfl,rfl,⟨settings,merged,reads⟩,inOrder ▸ keptFields,rfl,rfl,rfl⟩

theorem arrangedHolds {s : Store} {fields prepared : List Field} (arranged : Field.arrange fields = .ok prepared)
    (finite : ∀ f ∈ fields, f.kind.finite = true) (room : FieldRow.columns * fields.length ≤ s.mostValues) :
    s.Holds prepared := by
  refine ⟨fun f member => ?_,(Field.arrangeLength arranged).symm ▸ room⟩
  obtain ⟨g,among,order,rfl⟩ := Field.arrangeSource arranged f member
  have bounds : (Field.cleaned g).kind.finite = g.kind.finite := cleanedBounds g
  rw [Field.storableExact]
  exact bounds.trans (finite g among)

theorem saveSnapshotPasses {s : Service} (kept : WellKept s.store) {owner : String} {form : Int} {old : Form}
    (found : s.owned owner form = .ok old) {snapshot : Snapshot} {p : Patch} {prepared : List Field}
    (patch : readPatch (snapshotUpdate snapshot).patch = .ok p) (arranged : Field.arrange snapshot.fields = .ok prepared)
    (fit : ∀ f ∈ prepared, fits f.order = true) (holds : s.store.Holds prepared)
    (apart : Settings.Apart snapshot.settings.extra)
    (distinct : (snapshot.settings.extra.map (·.1)).Nodup) :
    ∃ saved, (s.saveSnapshot owner form snapshot).2 = .ok saved := by
  obtain ⟨r,shown⟩ := ownedShown found
  obtain ⟨among,rfl,rfl⟩ := Store.formRowFound shown.row
  have asked := readPatchSnapshot patch
  subst asked
  have ready : prepareOptional (snapshotUpdate snapshot).fields s.mint = (.ok (some prepared),s.mint) := by
    simp only [snapshotUpdate,prepareOptional,prepare,arranged]
    rfl
  have tidy := kept.settings r among
  have merged := Settings.readsHeld (Settings.mergedIsPlain tidy.plain _)
    (Settings.mergedHeld r.settings (Settings.dumpedApart apart) (Settings.dumpedDistinct distinct))
  have single : (prepared.map (·.id)).Nodup := of_decide_eq_true (Field.arrangeDistinct arranged).1
  have passes := (Store.writeFaultNone kept.unlocked).mpr ⟨shown.fit,fit,holds,Store.writable ⟨r,among,rfl⟩ single⟩
  obtain ⟨u,stored,-,store⟩ := storeFieldsDone kept passes
  have wrote := (Stored.done passes store).wrote kept (heldBy r.owner) noForm among rfl shown.reads
  have row := rowStored shown.row store
  have changed : ∃ t, Store.patched { r with updatedAt := s.mint.seconds } ⟨some (Sanitize.clean snapshot.title),
      some (Sanitize.cleanOptional snapshot.description),none,some (Store.keptSettings snapshot.settings)⟩ = .ok t := by
    simp only [Store.patched,Store.patchedStatus,Store.keptSettings,merged]
    exact ⟨_,rfl⟩
  obtain ⟨t,changed⟩ := changed
  obtain ⟨-,f,done⟩ := Store.updateFormDone (heldBy r.owner) noForm (Store.wroteWellKept wrote kept) u.mint.seconds row
    rfl shown.reads changed
  refine ⟨f,?_⟩
  simp only [saveSnapshot,updateForm,found,patch,ready,publishes,Bool.false_and,Bool.false_eq_true,if_false,
    storeUpdate,stored]
  cases updated : u.store.updateForm u.mint.seconds r.id (some r.owner) _ with
  | mk after outcome =>
    rw [updated] at done
    subst done
    rfl

structure SavedAs (snapshot : Snapshot) (prepared : List Field) (old now : Form) : Prop where
  title : now.snapshot.title = Sanitize.clean snapshot.title
  description : now.snapshot.description = Sanitize.cleanOptional snapshot.description
  fields : List.Forall₂ (fun f g => ∃ row : Int, g = f.kept row) prepared now.fields
  same : (∀ f ∈ snapshot.fields, f.Parsed) → (∀ f ∈ snapshot.fields, f.finite = true) → SameFields prepared now.fields
  settings : Settings.KeptNames snapshot.settings.extra → (snapshot.settings.extra.map (·.1)).Nodup →
    now.snapshot.settings.attributes = snapshot.settings.attributes ∧
    ∀ name, now.snapshot.settings.extra.value? name =
      ((snapshot.settings.extra.value? name).map Value.dumped).or (old.snapshot.settings.extra.value? name)
  slug : now.slug = old.slug
  owner : now.owner = old.owner
  status : now.status = old.status

theorem saveSnapshotReloads {s : Service} (kept : WellKept s.store) {owner : String} {form : Int} {snapshot : Snapshot}
    {saved : Form} (ok : (s.saveSnapshot owner form snapshot).2 = .ok saved) :
    ∃ old now prepared, s.getForm owner form = .ok old ∧
      (s.saveSnapshot owner form snapshot).1.getForm owner form = .ok now ∧
      Field.arrange snapshot.fields = .ok prepared ∧ SavedAs snapshot prepared old now := by
  obtain ⟨old,prepared,found,arranged,same⟩ := saveSnapshotSteps ok
  obtain ⟨r,shown⟩ := ownedShown found
  obtain ⟨among,own,owned⟩ := Store.formRowFound shown.row
  subst own
  rw [same] at ok
  obtain ⟨now,reads,reloads⟩ := storeUpdateReloads kept shown.fit shown.row (Field.arrangeSorted arranged) ok
  rw [← same] at reads
  obtain ⟨settings,merged,again⟩ := reloads.settings
  have shownAs := shown.read.shown
  refine ⟨old,now,prepared,found,reads,arranged,{
    title := reloads.title
    description := reloads.about
    fields := reloads.fields
    same := keptSameFields arranged reloads.fields
    settings := ?_
    slug := reloads.slug.trans (congrArg Form.slug shownAs).symm
    owner := reloads.owner.trans (congrArg Form.owner shownAs).symm
    status := reloads.status.trans (congrArg Form.status shownAs).symm }⟩
  intro own distinct
  obtain ⟨declared,extras⟩ :=
    Settings.mergedReadsBack (kept.settings r among) shown.read.settings own.apart distinct merged again
  refine ⟨declared,fun name => ?_⟩
  rw [extras,Object.valueRenamedSame (Settings.dumpedDistinct distinct) own.dumpedSame,Settings.dumped,
    Value.valueDumped]

end Service
end FormBuilder
