import FormBuilder.Proofs.Service.Outcomes
import FormBuilder.Proofs.Store.Orders
/-! The orders that a call gives to the store, and what the service has made sure of when it gives them. -/
namespace FormBuilder

namespace Field

theorem parseClock (v : Value) (m : Mint) : (parse v m).2.millis = m.millis := by
  unfold parse
  split <;> rfl

theorem parseAllClock (items : List Value) (m : Mint) : (parseAll items m).2.millis = m.millis := by
  induction items generalizing m with
  | nil => rfl
  | cons v rest ih =>
    have head := parseClock v m
    unfold parseAll
    split
    · rename_i parsed
      rwa [parsed] at head
    · rename_i parsed
      rw [parsed] at head
      exact (ih _).trans head

theorem prepareClock (items : List Value) (m : Mint) : (prepare items m).2.millis = m.millis := by
  have read := parseAllClock items m
  unfold prepare
  split <;> rename_i parsed <;> rwa [parsed] at read

end Field

def Patch.Publishes (p : Patch) : Prop := ∃ v, p.status = some v ∧ Status.read v = .ok .published

structure Patch.Cleaned (p : Patch) : Prop where
  title : ∀ t, p.title = some t → ∃ v, Service.title v = .ok t
  description : ∀ d, p.description = some d → ∃ v, Service.cleanOptionalText v = .ok d

def Call.changed : Call → Option Int
  | .updateForm _ form _ | .saveSnapshot _ form _ | .setStatus _ form _ | .publishForm _ form
  | .unpublishForm _ form => some form
  | _ => none

namespace Service
open Store (Order)

theorem prepareClock (source : FieldSource) (m : Mint) : (prepare source m).2.millis = m.millis := by
  unfold prepare
  split
  · rfl
  · split
    · rfl
    · exact Field.prepareClock _ m

theorem prepareOptionalClock (source : Option FieldSource) (m : Mint) :
    (prepareOptional source m).2.millis = m.millis := by
  cases source with
  | none => rfl
  | some source => exact prepareClock source m

inductive Asks (s : Service) : Call → List Order → Prop where
  | nothing (c : Call) : Asks s c []
  | make {owner rawTitle about settings source prepared m title description}
      (ready : prepare source s.mint = (.ok prepared,m)) (named : Service.title rawTitle = .ok title)
      (described : cleanOptionalText about = .ok description) :
      Asks s (.createForm owner rawTitle about settings source) [.createForm m owner title description settings none]
  | fill {owner rawTitle about settings source prepared m title description f now}
      (ready : prepare source s.mint = (.ok prepared,m))
      (made : (s.store.createForm m owner title description settings none).2.2 = .ok f)
      (named : Service.title rawTitle = .ok title) (described : cleanOptionalText about = .ok description) :
      Asks s (.createForm owner rawTitle about settings source)
        [.createForm m owner title description settings none,.replaceFields now (f.id.getD 0) prepared]
  | copy {owner form source slug m title description settings} (found : s.owned owner form = .ok source)
      (named : s.mint.slug (source.slug.getD "" ++ "-copy") = (slug,m))
      (titled : title = Sanitize.clean source.snapshot.title ++ " (Copy)")
      (described : description = Sanitize.cleanOptional source.snapshot.description) :
      Asks s (.duplicateForm owner form) [.createForm m owner title description settings (some slug)]
  | copyFilled {owner form source slug m title description settings f now} (found : s.owned owner form = .ok source)
      (named : s.mint.slug (source.slug.getD "" ++ "-copy") = (slug,m))
      (made : (s.store.createForm m owner title description settings (some slug)).2.2 = .ok f)
      (titled : title = Sanitize.clean source.snapshot.title ++ " (Copy)")
      (described : description = Sanitize.cleanOptional source.snapshot.description) :
      Asks s (.duplicateForm owner form) [.createForm m owner title description settings (some slug),
        .replaceFields now (f.id.getD 0) (source.fields.map Field.cleaned)]
  | replace {c now form fields} (own : c.changed = some form)
      (ready : ∃ source m m', prepare source m = (.ok fields,m')) : Asks s c [.replaceFields now form fields]
  | change {c now form owner p} (own : c.changed = some form) (gate : p.Publishes → 0 < s.store.countFields form)
      (cleaned : p.Cleaned) : Asks s c [.updateForm now form owner p]
  | replaceAndChange {c now later form fields back owner p} (own : c.changed = some form)
      (stored : (s.store.replaceFields now form fields).2.1 = .ok back) (gate : p.Publishes → fields ≠ [])
      (ready : ∃ source m m', prepare source m = (.ok fields,m')) (cleaned : p.Cleaned) :
      Asks s c [.replaceFields now form fields,.updateForm later form owner p]
  | delete {owner form} : Asks s (.deleteForm owner form) [.deleteForm form (some owner)]
  | submit {slug payload client now form data} : Asks s (.submit slug payload client) [.createSubmission now form data]

structure Does (s : Service) (c : Call) (t : Service) : Prop where
  orders : ∃ orders, Asks s c orders ∧ t.store = s.store.obeyAll orders
  clock : t.mint.millis = s.mint.millis

theorem Does.nothing {s t : Service} (c : Call) (same : t.store = s.store) (clock : t.mint.millis = s.mint.millis) :
    Does s c t := ⟨⟨[],.nothing c,same⟩,clock⟩

theorem createFormDoes (s : Service) (owner : String) (rawTitle about settings : Value) (source : FieldSource) :
    Does s (.createForm owner rawTitle about settings source)
      (s.createForm owner rawTitle about settings source).1 := by
  unfold createForm
  split
  · exact .nothing _ rfl rfl
  rename_i title named
  have prepared := prepareClock source s.mint
  cases ready : prepare source s.mint with
  | mk outcome m =>
    rw [ready] at prepared
    dsimp only
    split
    · exact .nothing _ rfl prepared
    · exact .nothing _ rfl prepared
    rename_i given description described
    have created := Store.createFormClock s.store m owner title description settings none
    cases made : s.store.createForm m owner title description settings none with
    | mk store rest =>
      obtain ⟨m',outcome⟩ := rest
      rw [made] at created
      have clock : m'.millis = s.mint.millis := created.trans prepared
      have same : store = s.store.obeyAll [.createForm m owner title description settings none] :=
        (congrArg Prod.fst made).symm
      have alone (notices : List Notice) :
          Does s (.createForm owner rawTitle about settings source) ⟨store,s.limiter,m',notices⟩ :=
        ⟨⟨_,.make ready named described,same⟩,clock⟩
      dsimp only
      split
      · exact alone _
      · exact alone _
      rename_i f
      split
      · exact alone _
      have known : (s.store.createForm m owner title description settings none).2.2 = .ok f := by rw [made]
      cases stored : ({ s with store, mint := m' } : Service).storeFields (f.id.getD 0) given with
      | mk t outcome =>
        have left : t.store = store.obey (.replaceFields m'.seconds (f.id.getD 0) given) :=
          (congrArg (·.1.store) stored).symm
        have still : t.mint.millis = m'.millis := (congrArg (·.1.mint.millis) stored).symm
        rw [same] at left
        cases outcome <;> exact ⟨⟨_,.fill ready known named described,left⟩,still.trans clock⟩

theorem columnsObeyed (s : Service) (owner : String) (form : Int) (p : Patch) :
    (s.storeUpdate owner form p none).1.store = s.store.obey (.updateForm s.mint.seconds form (some owner) p) ∧
    (s.storeUpdate owner form p none).1.mint = s.mint := by
  unfold storeUpdate Store.obey
  dsimp only
  split <;> rename_i updated <;> rw [updated] <;> exact ⟨rfl,rfl⟩

theorem storeUpdateDoes {s t : Service} (same : t.store = s.store) (clock : t.mint.millis = s.mint.millis) {c : Call}
    {owner : String} {form : Int} {p : Patch} {fields : Option (List Field)} (own : c.changed = some form)
    (alone : fields = none → p.Publishes → 0 < s.store.countFields form)
    (together : ∀ fs, fields = some fs → p.Publishes → fs ≠ [])
    (ready : ∀ fs, fields = some fs → ∃ source m m', prepare source m = (.ok fs,m')) (cleaned : p.Cleaned) :
    Does s c (t.storeUpdate owner form p fields).1 := by
  cases fields with
  | none =>
    obtain ⟨left,still⟩ := columnsObeyed t owner form p
    exact ⟨⟨_,.change own (alone rfl) cleaned,by rw [left,same]; rfl⟩,(congrArg Mint.millis still).trans clock⟩
  | some fs =>
    cases stored : t.storeFields form fs with
    | mk u outcome =>
      have left : u.store = s.store.obey (.replaceFields t.mint.seconds form fs) := by
        rw [← same]
        exact (congrArg (·.1.store) stored).symm
      have still : u.mint.millis = t.mint.millis := (congrArg (·.1.mint.millis) stored).symm
      cases outcome with
      | error fault =>
        simp only [storeUpdate,stored]
        exact ⟨⟨_,.replace own (ready fs rfl),left⟩,still.trans clock⟩
      | ok _ =>
        have later : t.storeUpdate owner form p (some fs) = u.storeUpdate owner form p none := by
          simp only [storeUpdate,stored]
        have done : ∃ back, (s.store.replaceFields t.mint.seconds form fs).2.1 = .ok back := by
          have outcome := congrArg Prod.snd stored
          rw [← same]
          cases replaced : (t.store.replaceFields t.mint.seconds form fs).2.1 with
          | ok back => exact ⟨back,rfl⟩
          | error fault => simp [storeFields,replaced,Except.map,Except.mapError] at outcome
        obtain ⟨back,done⟩ := done
        obtain ⟨last,rest⟩ := columnsObeyed u owner form p
        rw [later]
        exact ⟨⟨_,.replaceAndChange own done (together fs rfl) (ready fs rfl) cleaned,by rw [last,left]; rfl⟩,
          (congrArg Mint.millis rest).trans (still.trans clock)⟩

theorem publishesGiven {p : Patch} {status : Option Status} (named : p.status = status.map (fun t => .str t.name))
    (published : p.Publishes) : publishes p = true := by
  obtain ⟨v,given,read⟩ := published
  obtain ⟨t,rfl,rfl⟩ := Option.map_eq_some_iff.mp (named.symm.trans given)
  cases (statusKnown t).symm.trans read
  simp [publishes,given]

theorem shownCount {s : Service} {owner : String} {form : Int} {f : Form} (found : s.owned owner form = .ok f) :
    f.fields.length = s.store.countFields form := by
  obtain ⟨r,shown⟩ := ownedShown found
  obtain ⟨-,rfl,-⟩ := Store.formRowFound shown.row
  exact Store.getFieldsCount shown.read.fields

theorem patchPartRead {patch : Object} {key : String} {read : Value → Except ServiceFault α} {a : α}
    (ok : patchPart patch key read = .ok (some a)) : ∃ v, read v = .ok a := by
  unfold patchPart at ok
  split at ok
  · cases ok
  · rename_i v _
    cases reads : read v with
    | error fault =>
      rw [reads] at ok
      contradiction
    | ok b =>
      rw [reads] at ok
      exact ⟨v,reads.trans (congrArg Except.ok (Option.some.inj (Except.ok.inj ok)))⟩

theorem readPatchCleaned {v : Value} {p : Patch} (ok : readPatch v = .ok p) : p.Cleaned := by
  simp only [readPatch,bindOk,pure,Except.pure] at ok
  obtain ⟨patch,-,named,title,about,description,status,-,rest⟩ := ok
  have texts : p.title = named ∧ p.description = about := by
    split at rest <;> obtain ⟨settings,-,last⟩ := bindOk.mp rest <;> cases last <;> exact ⟨rfl,rfl⟩
  exact ⟨fun t own => patchPartRead (title.trans (congrArg Except.ok (texts.1.symm.trans own))),
    fun d own => patchPartRead (description.trans (congrArg Except.ok (texts.2.symm.trans own)))⟩

theorem updateFormDoes (s : Service) (owner : String) (form : Int) (u : Update) {c : Call}
    (own : c.changed = some form) : Does s c (s.updateForm owner form u).1 := by
  unfold updateForm
  split
  · exact .nothing c rfl rfl
  · exact .nothing c rfl rfl
  rename_i old p found patch
  obtain ⟨status,named⟩ := readPatchNamed patch
  have clock := prepareOptionalClock u.fields s.mint
  cases ready : prepareOptional u.fields s.mint with
  | mk outcome m =>
    rw [ready] at clock
    dsimp only
    split
    · exact .nothing c rfl clock
    rename_i fields
    split
    · exact .nothing c rfl clock
    rename_i allowed
    have asked (published : p.Publishes) : fields.getD old.fields ≠ [] := by
      simpa [publishesGiven named published] using allowed
    refine storeUpdateDoes (s := s) (t := { s with mint := m }) rfl clock own ?_ ?_ ?_ (readPatchCleaned patch)
    · rintro rfl published
      rw [← shownCount found]
      exact List.length_pos_of_ne_nil (asked published)
    · rintro fs rfl published
      exact asked published
    · rintro fs rfl
      exact prepareOptionalReady ready

theorem setStatusDoes (s : Service) (owner : String) (form : Int) (v : Value) {c : Call}
    (own : c.changed = some form) : Does s c (s.setStatus owner form v).1 := by
  unfold setStatus
  split
  · exact .nothing c rfl rfl
  rename_i status _
  split
  · exact .nothing c rfl rfl
  split
  · exact .nothing c rfl rfl
  rename_i allowed
  refine storeUpdateDoes rfl rfl own (fun _ published => ?_) (fun _ given => nomatch given) (fun _ given => nomatch given)
    ⟨nofun,nofun⟩
  obtain ⟨v,given,read⟩ := published
  cases given
  cases (statusKnown status).symm.trans read
  simpa [Nat.pos_iff_ne_zero] using allowed

theorem copyFieldsStore (s : Service) (source copy : Int) (fields : List Field) :
    let t := (s.copyFields source copy fields).1
    t.mint = s.mint ∧ (t.store = s.store ∨
      t.store = s.store.obey (.replaceFields s.mint.seconds copy (fields.map Field.cleaned))) := by
  have stored : (s.storeFields copy (fields.map Field.cleaned)).1.mint = s.mint ∧
      (s.storeFields copy (fields.map Field.cleaned)).1.store =
        s.store.obey (.replaceFields s.mint.seconds copy (fields.map Field.cleaned)) := ⟨rfl,rfl⟩
  unfold copyFields
  split
  · exact ⟨rfl,.inl rfl⟩
  · split
    · rename_i failed
      rw [failed] at stored
      split <;> exact ⟨stored.1,.inr stored.2⟩
    · exact ⟨stored.1,.inr stored.2⟩

theorem duplicateFormDoes (s : Service) (owner : String) (form : Int) :
    Does s (.duplicateForm owner form) (s.duplicateForm owner form).1 := by
  unfold duplicateForm
  split
  · exact .nothing _ rfl rfl
  rename_i source found
  cases named : s.mint.slug (source.slug.getD "" ++ "-copy") with
  | mk slug m =>
    dsimp only
    generalize titled : Sanitize.clean source.snapshot.title ++ " (Copy)" = title
    generalize described : Sanitize.cleanOptional source.snapshot.description = about
    generalize Value.object (Store.keptSettings source.snapshot.settings) = settings
    have created := Store.createFormClock s.store m owner title about settings (some slug)
    cases made : s.store.createForm m owner title about settings (some slug) with
    | mk store rest =>
      obtain ⟨m',outcome⟩ := rest
      rw [made] at created
      have clock : m'.millis = s.mint.millis := created.trans (congrArg (·.2.millis) named).symm
      have same : store = s.store.obeyAll [.createForm m owner title about settings (some slug)] :=
        (congrArg Prod.fst made).symm
      dsimp only
      split
      · exact ⟨⟨_,.copy found named titled.symm described.symm,same⟩,clock⟩
      rename_i f
      have given : (s.store.createForm m owner title about settings (some slug)).2.2 = .ok f := by rw [made]
      have does : Does s (.duplicateForm owner form)
          (({ s with store, mint := m' } : Service).copyFields form (f.id.getD 0) source.fields).1 := by
        obtain ⟨still,left⟩ := copyFieldsStore { s with store, mint := m' } form (f.id.getD 0) source.fields
        refine ⟨?_,(congrArg Mint.millis still).trans clock⟩
        rcases left with none | filled
        · exact ⟨_,.copy found named titled.symm described.symm,none.trans same⟩
        · exact ⟨[_,.replaceFields m'.seconds _ _],.copyFilled found named given titled.symm described.symm,
            by rw [filled,same]; rfl⟩
      split <;> rename_i copied <;> rw [copied] at does <;> exact does

theorem deleteFormDoes (s : Service) (owner : String) (form : Int) :
    Does s (.deleteForm owner form) (s.deleteForm owner form).1 := by
  unfold deleteForm
  split
  · exact .nothing _ rfl rfl
  · exact ⟨⟨_,.delete,rfl⟩,rfl⟩

theorem submitDoes (s : Service) (slug : String) (payload : Value) (client : String) :
    Does s (.submit slug payload client) (s.submit slug payload client).1 := by
  obtain ⟨t,⟨kept,still⟩,⟨fault,refused⟩ | ⟨form,answers,-,-,-,-,stores⟩⟩ := submitSteps s slug payload client
  · rw [refused]
    exact .nothing _ kept (congrArg Mint.millis still)
  · rw [stores]
    exact ⟨⟨_,.submit,rfl⟩,congrArg Mint.millis still⟩

theorem callDoes (s : Service) (c : Call) : Does s c (s.call c).1 := by
  cases c with
  | createForm owner rawTitle about settings source => exact createFormDoes s owner rawTitle about settings source
  | updateForm owner form u => exact updateFormDoes s owner form u rfl
  | saveSnapshot owner form snapshot => exact updateFormDoes s owner form (snapshotUpdate snapshot) rfl
  | deleteForm owner form => exact deleteFormDoes s owner form
  | setStatus owner form status => exact setStatusDoes s owner form status rfl
  | publishForm owner form => exact setStatusDoes s owner form (.str Status.published.name) rfl
  | unpublishForm owner form => exact setStatusDoes s owner form (.str Status.draft.name) rfl
  | duplicateForm owner form => exact duplicateFormDoes s owner form
  | submit slug payload client => exact submitDoes s slug payload client
  | _ => exact .nothing _ rfl rfl

end Service
end FormBuilder
