import Mathlib.Data.List.Induction
import FormBuilder.Proofs.Service.Failures
import FormBuilder.Proofs.Store.Keyed
/-! Which stored forms can be read again. All of them can, but for those that are left of a call that put them
away with settings that do not read well under their plain names; each of these also keeps its owner from listing
any form. -/
namespace FormBuilder

namespace Store

theorem formOfExact {s : Store} (kept : WellKept s) {r : FormRow} : (∃ f, s.formOf r = .ok f) ↔ Readable r := by
  constructor
  · rintro ⟨f,ok⟩
    exact ⟨_,(formOfReadFrom ok).settings⟩
  · rintro ⟨settings,reads⟩
    obtain ⟨f,shown,-⟩ := formOfReads kept reads
    exact ⟨f,shown⟩

theorem formOfRowExact {s : Store} (kept : WellKept s) {row : Option FormRow} :
    (∃ f, s.formOf? row = .ok f) ↔ ∀ r, row = some r → Readable r := by
  cases row with
  | none => simp [formOf?]
  | some r =>
    rw [← show Readable r ↔ ∀ t, some r = some t → Readable t by simp,← formOfExact kept]
    cases shown : s.formOf r <;> simp [formOf?,shown,Except.map]

theorem readFormsExact {s : Store} (kept : WellKept s) {rows : List FormRow} :
    (∃ fs, s.readForms rows = .ok fs) ↔ ∀ r ∈ rows, Readable r := by
  induction rows with
  | nil => simp [readForms]
  | cons r rest ih =>
    rw [List.forall_mem_cons,← ih,← formOfExact kept]
    cases shown : s.formOf r with
    | error fault => simp [readForms,shown]
    | ok f => cases others : s.readForms rest <;> simp [readForms,shown,others,Except.map]

theorem listFormsExact {s : Store} (kept : WellKept s) {owner : String} :
    (∃ fs, s.listForms owner = .ok fs) ↔ ∀ r ∈ s.forms, r.owner = owner → Readable r := by
  simp only [listForms,readFormsExact kept,List.mem_mergeSort,List.mem_filter,beq_iff_eq,and_imp]

theorem getFormBySlugExact {s : Store} (kept : WellKept s) (keyed : Keyed s) {slug : String} :
    (∃ f, s.getFormBySlug slug = .ok f) ↔ ∀ r ∈ s.forms, r.slug = slug → Readable r := by
  rw [getFormBySlug,formOfRowExact kept]
  constructor
  · rintro reads r known rfl
    exact reads r (keyed.slugRow known)
  · intro reads r found
    exact reads r (slugRowFound found).1 (slugRowFound found).2

end Store

namespace Service
open Store (WellKept Keyed Readable fits)

theorem getFormExact {s : Service} (kept : WellKept s.store) (keyed : Keyed s.store) {r : FormRow}
    (known : r ∈ s.store.forms) : (∃ f, s.getForm r.owner r.id = .ok f) ↔ fits r.id = true ∧ Readable r := by
  constructor
  · rintro ⟨f,ok⟩
    obtain ⟨t,shown⟩ := ownedShown ok
    cases Option.some.inj (shown.row.symm.trans (keyed.formRow known))
    exact ⟨shown.fit,shown.reads⟩
  · rintro ⟨fit,reads⟩
    exact ownedReads kept fit (keyed.formRow known) reads

theorem playKeyed {s : Service} (kept : WellKept s.store) (keyed : Keyed s.store) (moves : List Move) :
    Keyed (s.play moves).store := by
  induction moves generalizing s with
  | nil => exact keyed
  | cons move rest ih =>
    refine ih (moveKept kept move) ?_
    cases move with
    | ask c => exact Store.wroteKeyed (callFate kept c).wrote keyed
    | renew m => exact keyed

theorem playLast (s : Service) (moves : List Move) (last : Move) : s.play (moves ++ [last]) = (s.play moves).move last := by
  simp [play]

theorem broughtAbout {s : Service} (holds : Store → Prop) (brings : Service → Call → Prop) (never : ¬ holds s.store)
    (step : ∀ earlier c, holds ((s.play earlier).call c).1.store → holds (s.play earlier).store ∨ brings (s.play earlier) c)
    (moves : List Move) (now : holds (s.play moves).store) :
    ∃ earlier c later, moves = earlier ++ .ask c :: later ∧ brings (s.play earlier) c := by
  induction moves using List.reverseRecOn with
  | nil => exact absurd now never
  | append_singleton moves last ih =>
    have before (was : holds (s.play moves).store) :
        ∃ earlier c later, moves ++ [last] = earlier ++ .ask c :: later ∧ brings (s.play earlier) c := by
      obtain ⟨earlier,c,later,rfl,made⟩ := ih was
      exact ⟨earlier,c,later ++ [last],by simp,made⟩
    rw [playLast] at now
    cases last with
    | renew m => exact before now
    | ask c =>
      rcases step moves c now with was | made
      · exact before was
      · exact ⟨moves,c,[],rfl,made⟩

theorem unreadMade {s : Service} (kept : WellKept s.store) (keyed : Keyed s.store) (read : ∀ r ∈ s.store.forms, Readable r)
    (moves : List Move) : ∀ r ∈ (s.play moves).store.forms, ¬ Readable r →
      ∃ earlier c later, moves = earlier ++ .ask c :: later ∧ Makes (s.play earlier) c r := by
  intro r known unread
  refine broughtAbout (r ∈ ·.forms) (Makes · · r) (fun there => unread (read r there)) (fun earlier c now => ?_) moves known
  have wrote := (callFate (playKept kept earlier) c).wrote
  exact Store.wroteUnread wrote (playKeyed kept keyed earlier) r now unread

theorem misreadsMakes {s : Service} {c : Call} {t : Store} (left : Misreads s c t) :
    ∃ owner title description settings fields, c = .createForm owner title description settings fields ∧
      HalfMade s owner title description settings fields t := by
  cases c with
  | createForm owner title description settings fields => exact ⟨owner,title,description,settings,fields,rfl,left⟩
  | _ => exact left.elim

-- A form that a call put away, and then could not read: the call failed, and the form stayed.
structure LeftUnread (limiter : Option (Limiter Double)) (m : Mint) (moves : List Move) (r : FormRow) : Prop where
  misread : ∃ faults, Settings.ofObject r.settings = .error faults
  left : ∃ earlier owner title description settings fields later,
    moves = earlier ++ .ask (.createForm owner title description settings fields) :: later ∧
    let s := (start limiter m).play earlier
    HalfMade s owner title description settings fields { s.store with forms := s.store.forms ++ [r] } ∧
    ∃ fault, (s.createForm owner title description settings fields).2 = .error fault

theorem readableUnless (limiter : Option (Limiter Double)) (m : Mint) (moves : List Move) :
    ∀ r ∈ ((start limiter m).play moves).store.forms, Readable r ↔ ¬ LeftUnread limiter m moves r := by
  intro r known
  have kept := startKept limiter m
  have none : ∀ r ∈ (start limiter m).store.forms, Readable r := List.forall_mem_nil _
  constructor
  · rintro ⟨settings,reads⟩ ⟨⟨faults,misread⟩,-⟩
    cases reads.symm.trans misread
  · refine fun clean => Classical.byContradiction fun unread => clean ?_
    obtain ⟨earlier,c,later,rfl,-,made⟩ := unreadMade kept Store.emptyKeyed none moves r known unread
    obtain ⟨owner,title,description,settings,fields,rfl,half⟩ := misreadsMakes (made.resolve_left unread)
    obtain ⟨fault,failed,-⟩ := halfMadeFails half
    refine ⟨?_,earlier,owner,title,description,settings,fields,later,rfl,half,fault,failed⟩
    cases reads : Settings.ofObject r.settings with
    | error faults => exact ⟨faults,rfl⟩
    | ok settings => exact absurd ⟨settings,reads⟩ unread

/-- A stored form is found by its owner, listed and found under its slug, unless it is what is left of a call that
put it away with settings that do not read well under their plain names, and then failed. Such a form cannot be
read in any way, and hides all forms of its owner from the list. -/
theorem storedFormsRead (limiter : Option (Limiter Double)) (m : Mint) (moves : List Move) :
    let s := (start limiter m).play moves
    (∀ r ∈ s.store.forms, (∃ f, s.getForm r.owner r.id = .ok f) ↔ fits r.id = true ∧ ¬ LeftUnread limiter m moves r) ∧
    (∀ owner, (∃ fs, s.listForms owner = .ok fs) ↔
      ∀ r ∈ s.store.forms, r.owner = owner → ¬ LeftUnread limiter m moves r) ∧
    (∀ slug, (∃ f, s.store.getFormBySlug slug = .ok f) ↔
      ∀ r ∈ s.store.forms, r.slug = slug → ¬ LeftUnread limiter m moves r) := by
  intro s
  have kept : WellKept s.store := playKept (startKept limiter m) moves
  have keyed : Keyed s.store := playKeyed (startKept limiter m) Store.emptyKeyed moves
  have same (p : FormRow → Prop) :
      (∀ r ∈ s.store.forms, p r → Readable r) ↔ ∀ r ∈ s.store.forms, p r → ¬ LeftUnread limiter m moves r :=
    forall₂_congr fun r known => imp_congr_right fun _ => readableUnless limiter m moves r known
  refine ⟨fun r known => ?_,fun owner => ?_,fun slug => ?_⟩
  · rw [getFormExact kept keyed known,readableUnless limiter m moves r known]
  · rw [← same (·.owner = owner),← Store.listFormsExact kept,listForms]
    cases s.store.listForms owner <;> simp [Except.mapError]
  · rw [← same (·.slug = slug),Store.getFormBySlugExact kept keyed]

theorem redirectTwiceLeft :
    let moves : List Move := [.ask (.createForm "alice" (.str "T") .null
      (.object [("redirectUrl",.str "x"),("redirect_url",.int 5)]) (.ready []))]
    let s := (start none (.atSeconds 0)).play moves
    (∃ r ∈ s.store.forms, r.owner = "alice" ∧ LeftUnread none (.atSeconds 0) moves r) ∧
    (¬ ∃ f, s.getForm "alice" 1 = .ok f) ∧ (¬ ∃ fs, s.listForms "alice" = .ok fs) ∧
    ¬ ∃ f, s.store.getFormBySlug "t" = .ok f := by
  intro moves s
  have single : s.store.forms.map (fun r => (r.id,r.owner,r.slug)) = [(1,"alice","t")] := by decide +kernel
  have unlisted : (s.listForms "alice").toOption.isNone = true := by decide +kernel
  have hidden : ¬ ∃ fs, s.listForms "alice" = .ok fs := by
    rintro ⟨fs,ok⟩
    simp [ok,Except.toOption] at unlisted
  obtain ⟨form,list,slug⟩ := storedFormsRead none (.atSeconds 0) moves
  obtain ⟨r,only,same⟩ := List.map_eq_singleton_iff.mp single
  obtain ⟨id,owner,named⟩ : r.id = 1 ∧ r.owner = "alice" ∧ r.slug = "t" := by simpa using same
  have known : r ∈ s.store.forms := only ▸ List.mem_singleton_self r
  have left : LeftUnread none (.atSeconds 0) moves r := by
    refine Classical.byContradiction fun clean => hidden ((list "alice").mpr fun t member _ => ?_)
    have sole : t = r := by
      rw [only] at member
      exact List.mem_singleton.mp member
    exact sole ▸ clean
  refine ⟨⟨r,known,owner,left⟩,fun read => ?_,hidden,fun read => (slug "t").mp read r known named left⟩
  exact ((form r known).mp (by rwa [owner,id])).2 left

end Service
end FormBuilder
