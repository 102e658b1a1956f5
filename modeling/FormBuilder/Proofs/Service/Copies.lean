import FormBuilder.Proofs.Service.Drafts
import FormBuilder.Proofs.Service.Readable
import FormBuilder.Proofs.Service.Tended
/-! Copies of forms. A form that can be read is copied faithfully, since nothing that stands in the store is changed
by being cleaned, read and put away once more; a form that cannot be read is not copied at all. -/
namespace FormBuilder

theorem Field.keptCleaned {f : Field} (own : f.cleaned = f) (row : Int) : (f.kept row).cleaned = f.kept row := by
  have moved : (f.kept row).cleaned = f.cleaned.kept row := by simp only [cleaned,kept]
  rw [moved,own]

namespace Service

structure Stable (fields : List Field) : Prop where
  sorted : Field.sorted fields = fields
  distinct : Field.distinctIds fields = true
  cleaned : fields.map Field.cleaned = fields
  kept : keptFields fields = fields.map Field.unplaced

theorem shelvedStable {s : Store} {form : Int} {fields back : List Field} (shelved : s.Shelved form fields)
    (kept : List.Forall₂ (fun f g => ∃ row : Int, g = f.kept row) fields back) : Stable back := by
  have orders : back.map (·.order) = fields.map (·.order) := Field.keptMap (fun _ _ => rfl) kept
  have ascending : back.Pairwise (fun f g => f.order ≤ g.order) := by
    have before := List.pairwise_map.mpr shelved.ascending
    rw [← orders] at before
    exact List.pairwise_map.mp before
  have sorted : Field.sorted back = back :=
    List.mergeSort_of_pairwise (ascending.imp fun before => decide_eq_true before)
  have source := forall₂Source kept
  refine ⟨sorted,?_,?_,?_⟩
  · rw [Field.distinctIds,Field.keptIds kept]
    exact shelved.distinct
  · refine (List.map_congr_left fun g member => ?_).trans (List.map_id _)
    obtain ⟨f,among,row,rfl⟩ := source g member
    exact Field.keptCleaned (shelved.cleaned f among) row
  · rw [keptFields,sorted]
    refine List.map_congr_left fun g member => ?_
    obtain ⟨f,-,row,rfl⟩ := source g member
    rw [Field.keptAgain]
    rfl

end Service

namespace Store

structure OneMore (s t : Store) (c : FormRow) : Prop where
  forms : t.forms = s.forms ++ [c]
  fresh : ∀ r ∈ s.forms, r.id ≠ c.id ∧ r.slug ≠ c.slug
  fields : ∀ r ∈ s.forms, t.fieldRows r.id = s.fieldRows r.id
  submissions : t.submissions = s.submissions
  unanswered : t.submissionsOf c.id = []

theorem withFormMore {s : Store} (anchored : Anchored s) {r : FormRow} (number : r.id = nextId (s.forms.map (·.id)))
    (free : s.slugRow? r.slug = none) :
    OneMore s (s.withForm r) r := by
  have other : ∀ f ∈ s.forms, f.id ≠ r.id := nextIdUnused number
  exact ⟨rfl,fun f member => ⟨other f member,slugRowFree.mp free f member⟩,fun _ _ => rfl,rfl,(anchored.vacant other).2⟩

theorem OneMore.filled {s t : Store} {c : FormRow} (more : OneMore s t c) (now : Int) (fields : List Field) :
    OneMore s (t.withFields now c.id fields) { c with updatedAt := now } := by
  refine ⟨?_,more.fresh,fun r member => ?_,more.submissions,more.unanswered⟩
  · have others : s.forms.map (fun r => if r.id = c.id then { r with updatedAt := now } else r) = s.forms :=
      (List.map_congr_left fun r member => if_neg (more.fresh r member).1).trans (List.map_id _)
    rw [withFields,more.forms,List.map_append,others,List.map_singleton,if_pos rfl]
  · rw [fieldRowsOther t now (more.fresh r member).1]
    exact more.fields r member

theorem OneMore.row {s t : Store} {c : FormRow} (more : OneMore s t c) : t.formRow? c.id (some c.owner) = some c :=
  formRowAdded more.forms fun r member => (more.fresh r member).1

theorem newSettingsKept {settings : Settings} (again : Settings.ofObject (keptSettings settings) = .ok settings) :
    newSettings (.object (keptSettings settings)) = .ok settings := by
  unfold newSettings
  split
  · rename_i void
    have empty : keptSettings settings = [] := by
      cases kept : keptSettings settings with
      | nil => rfl
      | cons => simp [kept,Value.isVoid] at void
    rwa [empty] at again
  · exact again

end Store

namespace Service
open Sanitize (Finished)
open Store (Anchored Tended OneMore fits)

structure Sound (s : Store) : Prop extends Anchored s,Tended s where
  tidy : ∀ r ∈ s.forms, Settings.Tidy r.settings
  small : ∀ form fields, s.getFields form = .ok fields → (∀ f ∈ fields, fits f.order = true) ∧ s.Holds fields

theorem playSound (limiter : Option (Limiter Double)) (m : Mint) (moves : List Move) :
    Sound ((start limiter m).play moves).store := by
  have kept := playKept (startKept limiter m) moves
  refine ⟨playAnchored Store.emptyAnchored moves,playTended Store.emptyTended moves,kept.settings,fun form fields listed => ?_⟩
  obtain ⟨known,again,small,holds⟩ := Store.getFieldsFits kept form
  cases listed.symm.trans again
  exact ⟨small,holds⟩

theorem Sound.held {s : Store} (sound : Sound s) (locked : Bool) : Sound { s with fieldsLocked := locked } :=
  ⟨⟨⟨sound.ids,sound.slugs,sound.anchored⟩,sound.submitted⟩,
    ⟨sound.forms,fun form => (sound.fields form).imp fun _ shelved => shelved.same rfl⟩,sound.tidy,fun form fields listed =>
      (sound.small form fields listed).imp_right fun holds => ⟨holds.readable,holds.room⟩⟩

-- What an owner is given to be copied. Nothing of it is changed by being cleaned, read or put away once more.
structure Source (s : Service) (owner : String) (form : Int) (f : Form) : Prop where
  shown : s.owned owner form = .ok f
  held : f.owner = some owner
  title : Finished f.snapshot.title
  about : ∀ t, f.snapshot.description = some t → Finished t
  again : Settings.ofObject (Store.keptSettings f.snapshot.settings) = .ok f.snapshot.settings
  stable : Stable f.fields
  small : ∀ g ∈ f.fields, fits g.order = true
  holds : s.store.Holds f.fields

theorem Sound.source {s : Service} (sound : Sound s.store) {r : FormRow} (known : r ∈ s.store.forms)
    (fit : fits r.id = true) {settings : Settings} (reads : Settings.ofObject r.settings = .ok settings) :
    ∃ f, Source s r.owner r.id f := by
  obtain ⟨given,shelved⟩ := sound.fields r.id
  obtain ⟨back,listed,kept⟩ := Store.getFieldsWritten shelved.rows shelved.ascending
  obtain ⟨-,title,about⟩ := sound.forms r known
  obtain ⟨small,holds⟩ := sound.small r.id back listed
  exact ⟨r.shownAs settings back,ownedShows fit (sound.formRow known) reads listed,rfl,title,about,
    (sound.tidy r known).again reads,shelvedStable shelved kept,small,holds⟩

theorem Sound.unread {s : Service} (sound : Sound s.store) {r : FormRow} (known : r ∈ s.store.forms)
    (fit : fits r.id = true) {faults : List Fault} (misread : Settings.ofObject r.settings = .error faults) :
    s.owned r.owner r.id = .error (.store (.invalid faults)) := by
  obtain ⟨given,shelved⟩ := sound.fields r.id
  obtain ⟨back,listed,-⟩ := Store.getFieldsWritten shelved.rows shelved.ascending
  simp only [owned,fit,Store.getForm,sound.formRow known,Store.formOf?,Store.formOf,listed,Store.toFormMisread misread]
  rfl

theorem copyFieldsEnds {s : Service} (source : Int) {r : FormRow} (known : r ∈ s.store.forms) (fit : fits r.id = true)
    {fields : List Field} (stable : Stable fields) (small : ∀ f ∈ fields, fits f.order = true)
    (holds : s.store.Holds fields) :
    ∃ t, s.copyFields source r.id fields = (t,.ok ()) ∧
      ((s.store.fieldsLocked = true ∨ fields = []) ∧ t.store = s.store ∨
        s.store.fieldsLocked = false ∧ t.store = s.store.withFields s.mint.seconds r.id fields) := by
  by_cases none : fields = []
  · exact ⟨s,by simp only [copyFields,none,List.isEmpty_nil,if_true],.inl ⟨.inr none,rfl⟩⟩
  have given : fields.isEmpty = false := by simpa using none
  simp only [copyFields,given,Bool.false_eq_true,if_false,stable.cleaned,storeFields]
  cases held : s.store.fieldsLocked with
  | true =>
    obtain ⟨same,refused⟩ := Store.replaceFieldsLocked held s.mint.seconds fit none
    generalize s.store.replaceFields s.mint.seconds r.id fields = replaced at same refused ⊢
    obtain ⟨store,outcome,notices⟩ := replaced
    subst same refused
    exact ⟨_,rfl,.inl ⟨.inl rfl,rfl⟩⟩
  | false =>
    have passes := (Store.writeFaultNone held).mpr
      ⟨fit,small,holds,Store.writable ⟨r,known,rfl⟩ (of_decide_eq_true stable.distinct)⟩
    obtain ⟨same,outcome⟩ := Store.replaceFieldsWritten passes s.mint.seconds
    obtain ⟨back,listed,-⟩ :=
      Store.getFieldsReplaced s.store s.mint.seconds r.id (Field.sortedInOrder fields).ascending
    rw [listed] at outcome
    rw [stable.sorted] at same
    generalize s.store.replaceFields s.mint.seconds r.id fields = replaced at same outcome ⊢
    obtain ⟨store,outcome,notices⟩ := replaced
    dsimp only at same outcome
    subst same outcome
    exact ⟨_,rfl,.inr ⟨rfl,rfl⟩⟩

theorem copyFieldsShown {s : Store} {u : Service} {c : FormRow} (more : OneMore s u.store c) (fit : fits c.id = true)
    {settings : Settings} (reads : Settings.ofObject c.settings = .ok settings) (empty : u.store.getFields c.id = .ok [])
    (source : Int) {fields : List Field} (stable : Stable fields) (small : ∀ f ∈ fields, fits f.order = true)
    (holds : u.store.Holds fields) :
    ∃ t now back, u.copyFields source c.id fields = (t,.ok ()) ∧ OneMore s t.store { c with updatedAt := now } ∧
      t.owned c.owner c.id = .ok ({ c with updatedAt := now }.shownAs settings back) ∧
      back.map Field.unplaced = (if u.store.fieldsLocked then [] else fields).map Field.unplaced := by
  have there : c ∈ u.store.forms := (Store.formRowFound more.row).1
  obtain ⟨t,copies,⟨none,store⟩ | ⟨held,store⟩⟩ := copyFieldsEnds source there fit stable small holds
  · refine ⟨t,c.updatedAt,[],copies,store ▸ more,ownedShows fit (store ▸ more.row) reads (store ▸ empty),?_⟩
    rcases none with held | none
    · rw [held]
      rfl
    · rw [none,ite_self]
  · have filled := more.filled u.mint.seconds fields
    rw [← store] at filled
    rw [← stable.sorted] at store
    obtain ⟨back,listed,same⟩ := storedFields store
    refine ⟨t,u.mint.seconds,back,copies,filled,ownedShows fit filled.row reads listed,?_⟩
    rw [held]
    exact same.trans stable.kept

theorem copyCreated {s : Store} (m : Mint) (owner title : String) (about : Option String) (slug : Option String)
    {settings : Settings} (again : Settings.ofObject (Store.keptSettings settings) = .ok settings) :
    let created := s.createForm m owner title about (.object (Store.keptSettings settings)) slug
    (∃ m', created = (s,m',.error (.violates .slugUnique))) ∨
    ∃ r m', created = (s.withForm r,m',.ok (r.shownAs settings [])) ∧ Draft r m.seconds owner title about ∧
      r.settings = Store.keptSettings settings ∧ r.id = Store.nextId (s.forms.map (·.id)) ∧ s.slugRow? r.slug = none := by
  intro created
  have ends := Store.createFormCreated s m owner title about (.object (Store.keptSettings settings)) slug
  cases made : s.createForm m owner title about (.object (Store.keptSettings settings)) slug with
  | mk store rest =>
    obtain ⟨m',outcome⟩ := rest
    rw [made] at ends
    dsimp only at ends
    cases ends with
    | refused misread => cases (Store.newSettingsKept again).symm.trans misread
    | taken => exact .inl ⟨m',made⟩
    | stored read free =>
      rename_i given
      obtain rfl : settings = given := Except.ok.inj ((Store.newSettingsKept again).symm.trans read)
      have draft := madeDraft s m owner title about slug settings
      have own : (s.madeRow m owner title about slug settings).settings = Store.keptSettings settings := rfl
      have number : (s.madeRow m owner title about slug settings).id = Store.nextId (s.forms.map (·.id)) := rfl
      generalize s.madeRow m owner title about slug settings = r at draft own number free made
      rw [Store.toFormReads (own ▸ again)] at made
      exact .inr ⟨r,m',made,draft,own,number,free⟩

structure CopyOf (source copy : Form) (fields : List Field) : Prop where
  title : copy.snapshot.title = source.snapshot.title ++ " (Copy)"
  description : copy.snapshot.description = source.snapshot.description
  settings : copy.snapshot.settings = source.snapshot.settings
  fields : copy.fields.map Field.unplaced = fields.map Field.unplaced
  owner : copy.owner = source.owner
  status : copy.status = .draft

theorem duplicateFormFaithful {s : Service} (sound : Sound s.store) (room : Roomy s 0) {owner : String} {form : Int}
    {f : Form} (source : Source s owner form f)
    (free : (s.duplicateForm owner form).2 ≠ .error (.store (.violates .slugUnique))) :
    ∃ copy c, (s.duplicateForm owner form).2 = .ok copy ∧ (s.duplicateForm owner form).1.getForm owner c.id = .ok copy ∧
      copy.slug = some c.slug ∧ OneMore s.store (s.duplicateForm owner form).1.store c ∧
      CopyOf f copy (if s.store.fieldsLocked then [] else f.fields) := by
  have titled : Sanitize.clean f.snapshot.title = f.snapshot.title := source.title.1.same Sanitize.read
  have described : Sanitize.cleanOptional f.snapshot.description = f.snapshot.description :=
    Sanitize.cleanOptionalSame Sanitize.read source.about
  unfold duplicateForm at free ⊢
  simp only [source.shown,titled,described] at free ⊢
  generalize s.mint.slug _ = name at free ⊢
  rcases copyCreated (s := s.store) name.2 owner (f.snapshot.title ++ " (Copy)") f.snapshot.description (some name.1)
    source.again with ⟨m',taken⟩ | ⟨c,m',made,draft,own,number,unused⟩
  · rw [taken] at free
    exact absurd rfl free
  obtain rfl := draft.owner
  have id : (c.shownAs f.snapshot.settings []).id.getD 0 = c.id := rfl
  simp only [made,id] at free ⊢
  have more := Store.withFormMore sound.toAnchored number unused
  have reads : Settings.ofObject c.settings = .ok f.snapshot.settings := own.symm ▸ source.again
  have empty : (s.store.withForm c).getFields c.id = .ok [] := number ▸ freshEmpty sound.toKeyed
  obtain ⟨t,now,back,copies,left,shown,same⟩ := copyFieldsShown (u := { s with store := s.store.withForm c, mint := m' })
    more (number ▸ room.1) reads empty form source.stable source.small ⟨source.holds.readable,source.holds.room⟩
  simp only [copies]
  exact ⟨_,{ c with updatedAt := now },shown,shown,rfl,left,
    draft.title,draft.about,rfl,same,source.held.symm,draft.status⟩

/-- Whatever was asked for before, a form that can be read is copied when its owner asks for it, as long as a number
and the slug are free for the copy. The store has one form more then, and is as it was otherwise. The copy is a draft
of the same owner with the same description, settings and fields; only its title tells that it is one. While something
else holds the rows of fields, the copy is made without any. A form that a call left behind that cannot be read is not
copied, and nothing is changed. -/
theorem duplicatesFaithful (limiter : Option (Limiter Double)) (m : Mint) (moves : List Move) (locked : Bool)
    (room : Roomy ((start limiter m).play moves) 0) :
    let s := ((start limiter m).play moves).act (.lock locked)
    ∀ r ∈ s.store.forms,
      let t := (s.duplicateForm r.owner r.id).1
      let outcome := (s.duplicateForm r.owner r.id).2
      (¬ LeftUnread limiter m moves r → outcome ≠ .error (.store (.violates .slugUnique)) →
        ∃ source copy c, s.getForm r.owner r.id = .ok source ∧ outcome = .ok copy ∧
          t.getForm r.owner c.id = .ok copy ∧ copy.slug = some c.slug ∧ OneMore s.store t.store c ∧
          CopyOf source copy (if locked then [] else source.fields)) ∧
      (LeftUnread limiter m moves r → t = s ∧ ∃ faults, outcome = .error (.store (.invalid faults))) := by
  intro s r known
  have sound : Sound s.store := (playSound limiter m moves).held locked
  have fit : fits r.id = true := by
    have least := (sound.forms r known).number
    have below := Store.nextIdAbove _ r.id (List.mem_map_of_mem (f := (·.id)) known)
    have most : Store.nextId (s.store.forms.map (·.id)) < 9223372036854775808 := by
      have inside := room.1
      simp only [fits,Bool.and_eq_true,decide_eq_true_eq] at inside
      exact inside.2
    simp only [fits,Bool.and_eq_true,decide_eq_true_eq]
    omega
  have readable := readableUnless limiter m moves r known
  refine ⟨fun clean free => ?_,fun left => ?_⟩
  · obtain ⟨settings,reads⟩ := readable.mpr clean
    obtain ⟨f,source⟩ := sound.source known fit reads
    obtain ⟨copy,c,done,again,slug,more,same⟩ := duplicateFormFaithful sound room source free
    exact ⟨f,copy,c,source.shown,done,again,slug,more,same⟩
  · obtain ⟨faults,misread⟩ := left.misread
    have refused := sound.unread known fit misread
    simp only [duplicateForm,refused]
    exact ⟨trivial,faults,rfl⟩

theorem formCopied :
    let field : Field := ⟨"a",none,"Name",0,⟨true,some "?",none⟩,.text⟩
    let moves : List Move := [
      .ask (.createForm "alice" (.str "T") (.str "About") (.object [("accent",.str "red")]) (.ready [field])),
      .ask (.createForm "bob" (.str "U") .null (.object [("redirectUrl",.str "x"),("redirect_url",.int 5)]) (.ready []))]
    let s (locked : Bool) := ((start none (.atSeconds 0)).play moves).act (.lock locked)
    Roomy ((start none (.atSeconds 0)).play moves) 0 ∧
    (∀ locked, ∃ source copy, (s locked).getForm "alice" 1 = .ok source ∧
      ((s locked).duplicateForm "alice" 1).2 = .ok copy ∧
      CopyOf source copy (if locked then [] else source.fields)) ∧
    ∀ locked, ((s locked).duplicateForm "bob" 2).1 = s locked ∧
      ∃ fault, ((s locked).duplicateForm "bob" 2).2 = .error fault := by
  intro field moves s
  have room : Roomy ((start none (.atSeconds 0)).play moves) 0 := ⟨by decide +kernel,by decide⟩
  have alice : ∃ r ∈ ((start none (.atSeconds 0)).play moves).store.forms, (r.id,r.owner) = (1,"alice") ∧
      (Settings.ofObject r.settings).toOption.isSome = true := by decide +kernel
  have bob : ∃ r ∈ ((start none (.atSeconds 0)).play moves).store.forms, (r.id,r.owner) = (2,"bob") ∧
      (Settings.ofObject r.settings).toOption.isSome = false := by decide +kernel
  have done : ∀ locked, ((s locked).duplicateForm "alice" 1).2.toOption.isSome = true := by decide +kernel
  have readable := readableUnless none (.atSeconds 0) moves
  have copies (locked : Bool) := duplicatesFaithful none (.atSeconds 0) moves locked room
  refine ⟨room,fun locked => ?_,fun locked => ?_⟩
  · obtain ⟨r,known,own,reads⟩ := alice
    obtain ⟨id,held⟩ := Prod.mk.inj own
    obtain ⟨faithful,-⟩ := copies locked r known
    have clean : ¬ LeftUnread none (.atSeconds 0) moves r := (readable r known).mp (passed reads)
    rw [id,held] at faithful
    have free : ((s locked).duplicateForm "alice" 1).2 ≠ .error (.store (.violates .slugUnique)) := by
      intro taken
      have made := done locked
      rw [taken] at made
      contradiction
    obtain ⟨source,copy,c,shown,made,-,-,-,same⟩ := faithful clean free
    exact ⟨source,copy,shown,made,same⟩
  · obtain ⟨r,known,own,misread⟩ := bob
    obtain ⟨id,held⟩ := Prod.mk.inj own
    obtain ⟨-,refused⟩ := copies locked r known
    have left : LeftUnread none (.atSeconds 0) moves r := by
      refine Classical.byContradiction fun clean => ?_
      obtain ⟨settings,reads⟩ := (readable r known).mpr clean
      simp [reads,Except.toOption] at misread
    rw [id,held] at refused
    obtain ⟨same,faults,failed⟩ := refused left
    exact ⟨same,_,failed⟩

end Service
end FormBuilder
