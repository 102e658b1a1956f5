import FormBuilder.Proofs.Session.Taken
/-! What can be relied on once an explicit save has returned. If it began a save, then the form as it was at the call or
later has been taken, or saving has failed. If a save was on its way already, it only asks for another one and returns at
once, and the same can be relied on when nothing is on its way any more. -/
namespace FormBuilder.Session

inductive Event where
  | move (m : Move)
  | direct (e : Edit)
  | amend (change : Editor → Editor)

def meet (s : Session) : Event → Session
  | .move m => s.move m
  | .direct e => (s.edit e).1
  | .amend change => { s with editor := change s.editor }

def after (s : Session) (events : List Event) : Session := events.foldl meet s

def took (s : Session) : List Snapshot := taken s.journal

structure Still (s t : Session) : Prop where
  saver : t.saver = s.saver
  flight : t.flight = s.flight
  awaited : t.awaited = s.awaited
  took : t.took = s.took

theorem dispatchStill (s : Session) (e : Edit) : Still s (s.dispatch e).1 := by
  have edited : Still s (s.edit e).1 := ⟨rfl,rfl,rfl,takenNotices _ _⟩
  simp only [dispatch]
  split
  · split
    · exact ⟨edited.saver,edited.flight,edited.awaited,edited.took⟩
    · exact edited
  · exact edited

theorem applyTypedStill (s : Session) : Still s s.applyTyped := by
  have still := dispatchStill { s with typing := s.typing.cancel } (.applyText (.str s.text))
  exact ⟨still.saver,still.flight,still.awaited,still.took⟩

inductive Met (s t : Session) : Prop where
  | still (same : Still s t)
  | flushed {u awaited} (same : Still s u) (made : t = u.flush awaited)
  | resumed {outcome} (made : t = s.resume outcome)

def called (s : Session) : Session :=
  let s := if s.typing.pending then s.applyTyped else s
  { s with autosave := s.autosave.cancel }

theorem calledStill (s : Session) : Still s s.called := by
  unfold called
  split
  · have still := applyTypedStill s
    exact ⟨still.saver,still.flight,still.awaited,still.took⟩
  · exact ⟨rfl,rfl,rfl,rfl⟩

theorem calledTyped {s : Session} (pending : s.typing.pending = true) :
    s.called.editor.fields = Editor.arranged (Outline.parse s.text s.mint).1.fields := by
  simp only [called,pending,if_true]
  rfl

theorem calledSame {s : Session} (quiet : s.typing.pending = false) : s.called.editor = s.editor := by
  simp [called,quiet]

theorem meetMet (s : Session) (e : Event) : Met s (s.meet e) := by
  cases e with
  | direct c => exact .still ⟨rfl,rfl,rfl,takenNotices _ _⟩
  | amend change => exact .still ⟨rfl,rfl,rfl,rfl⟩
  | move m =>
    cases m with
    | dispatch c => exact .still (dispatchStill s c)
    | setText text =>
      simp only [meet,move,setText]
      split <;> exact .still ⟨rfl,rfl,rfl,rfl⟩
    | saveNow => exact .flushed (calledStill s) rfl
    | close => exact .still ⟨rfl,rfl,rfl,rfl⟩
    | setPersistence p => exact .still ⟨rfl,rfl,rfl,rfl⟩
    | resume outcome => exact .resumed rfl
    | ringTyping =>
      simp only [meet,move,ringTyping]
      split
      · exact .still (applyTypedStill s)
      · exact .still ⟨rfl,rfl,rfl,rfl⟩
    | ringAutosave =>
      simp only [meet,move,ringAutosave]
      split <;> exact .still ⟨rfl,rfl,rfl,rfl⟩
    | serve =>
      simp only [meet,move,serve]
      split
      · exact .still ⟨rfl,rfl,rfl,rfl⟩
      · rename_i due _
        exact .flushed (u := { s with due }) ⟨rfl,rfl,rfl,rfl⟩ rfl
    | pass duration => exact .still ⟨rfl,rfl,rfl,rfl⟩

/-! ### Saves change nothing in the form -/

theorem begunContent {e : Editor} {last : Option Snapshot} {t : Session} (begun : Begun e last t) :
    t.editor.content = e.content := by
  cases begun with
  | stalled _ _ editor | failed editor => rw [editor]
  | passed _ _ editor =>
    rw [editor]
    rfl

theorem flushContent (s : Session) (awaited : Bool) : (s.flush awaited).editor.content = s.editor.content := by
  cases flushFlushed s awaited with
  | begun idle begun => exact begunContent begun
  | flagged running phase editor => rw [editor]

theorem endSaveContent {s : Session} {f : Flight} (flight : s.flight = some f) (outcome : Except SaveFault Unit) :
    (s.endSave outcome).1.editor.content = s.editor.content := by
  cases outcome with
  | error fault => rw [(endSaveBadly s fault).1]
  | ok _ =>
    rw [(endSaveWell flight).1]
    rfl

theorem resumeContent (s : Session) (outcome : Except SaveFault Unit) :
    (s.resume outcome).editor.content = s.editor.content := by
  unfold resume
  split
  · rfl
  · rename_i f flight
    have ended := endSaveContent flight outcome
    obtain ⟨saver,again⟩ := endSaveSaver s outcome
    dsimp only
    split
    · rename_i more
      rcases Saver.finishPhase s.saver (outcome.mapError SaveFault.message) with ⟨-,phase,-⟩ | ⟨-,-,done⟩
      · exact (begunContent (beginSaveBegun (saver ▸ phase))).trans ended
      · exact absurd (again.symm.trans more) (by simp [done])
    · exact ended

theorem Met.keeps {fresh : Snapshot → Prop} {P : Session → Prop} {s t : Session} (met : Met s t)
    (new : ∀ x, t.editor.snapshot = .ok x → fresh x) (still : ∀ u, Still s u → P u)
    (flush : ∀ u awaited, P u → (∀ x, u.editor.snapshot = .ok x → fresh x) → P (u.flush awaited))
    (resume : ∀ outcome, (∀ x, s.editor.snapshot = .ok x → fresh x) → P (s.resume outcome)) : P t := by
  cases met with
  | still same => exact still t same
  | flushed same made =>
    subst made
    exact flush _ _ (still _ same) (Editor.snapshotOfContent (flushContent _ _) ▸ new)
  | resumed made =>
    subst made
    exact resume _ (Editor.snapshotOfContent (resumeContent s _) ▸ new)

theorem afterKeeps {fresh : Snapshot → Prop} {P : Session → Prop}
    (step : ∀ s e, P s → (∀ x, (s.meet e).editor.snapshot = .ok x → fresh x) → P (s.meet e)) {s : Session} (now : P s)
    {events : List Event} (new : ∀ before, before <+: events → ∀ x, (s.after before).editor.snapshot = .ok x → fresh x) :
    P (s.after events) := by
  induction events generalizing s with
  | nil => exact now
  | cons e rest ih =>
    have first := step s e now (new [e] ⟨rest,rfl⟩)
    exact ih first fun before earlier => new (e :: before) (List.cons_prefix_cons.mpr ⟨rfl,earlier⟩)

/-! ### What has been taken since -/

theorem endSaveTakes {s : Session} {f : Flight} (flight : s.flight = some f) :
    (s.endSave (.ok ())).1.took = s.took ++ [f.snapshot] := by
  simp only [endSave,flight]
  exact (takenNotices _ _).trans (by simp [taken,note,took,List.filterMap_append])

theorem endSaveRefuses (s : Session) (fault : SaveFault) : (s.endSave (.error fault)).1.took = s.took := takenNotices _ _

theorem launchTakes (s : Session) (snapshot : Snapshot) : (s.launch snapshot).took = s.took := by
  have noted := takenNotices s.journal s.editor.collisionNotices
  simp only [took,launch,notify,note]
  rw [← noted]
  simp [taken,List.filterMap_append]

inductive Sent (s t : Session) : Prop where
  | aloft {snapshot} (sound : s.editor.snapshot = .ok snapshot) (flight : t.flight = some ⟨s.editor.revision,snapshot⟩)
      (saver : t.saver = s.saver) (awaited : t.awaited = s.awaited) (took : t.took = s.took)
  | arrived {snapshot} (sound : s.editor.snapshot = .ok snapshot) (flight : t.flight = none)
      (took : t.took = s.took ++ [snapshot])
  | failed (flight : t.flight = none) (error : t.saver.lastError ≠ none) (took : t.took = s.took)

theorem beginSaveSent (s : Session) : Sent s s.beginSave := by
  unfold beginSave
  split
  · rename_i fault _
    exact .failed (endSaveLands s _) (endSaveBadly s fault).2.2 (endSaveRefuses s fault)
  · rename_i snapshot ok
    have sound := handoverSound ok
    have launched := launchTakes s snapshot
    dsimp only
    split
    · exact .aloft sound rfl rfl rfl launched
    · rename_i reason _
      exact .failed (endSaveLands _ _) (endSaveBadly _ (.refused reason)).2.2 ((endSaveRefuses _ _).trans launched)
    · exact .arrived sound (endSaveLands _ _) ((endSaveTakes (s := s.launch snapshot) rfl).trans (by rw [launched]))

theorem flushIdle {s : Session} (idle : s.saver.phase = .idle) (awaited : Bool) :
    s.flush awaited = { s with saver := s.saver.request.1, awaited }.beginSave := by
  simp only [flush,Saver.requestIdle idle,if_true]

theorem flushRunning {s : Session} (running : s.saver.phase ≠ .idle) (awaited : Bool) :
    s.flush awaited = { s with saver := s.saver.request.1 } ∧ s.saver.request.1.phase = .running true ∧
      s.saver.request.1.lastError = s.saver.lastError := by
  cases phase : s.saver.phase with
  | idle => exact absurd phase running
  | running trailing => simp [flush,Saver.requestRunning phase]

structure Settled (fresh : Snapshot → Prop) (count : Nat) (s : Session) : Prop where
  grown : count ≤ s.took.length
  held : (∃ x ∈ s.took.drop count, fresh x) ∨ s.saver.lastError ≠ none
  coming : ∀ f, s.flight = some f → fresh f.snapshot

-- How an explicit save stands: it waits for the save after the one on its way, or its own is on its way, or all is well.
inductive Bound (fresh : Snapshot → Prop) (count : Nat) (mine : Bool) (s : Session) : Prop where
  | flagged (grown : count ≤ s.took.length) (other : mine = false) (phase : s.saver.phase = .running true)
  | aloft {f} (grown : count ≤ s.took.length) (own : mine = true → s.awaited = true) (phase : s.saver.phase ≠ .idle)
      (flight : s.flight = some f) (new : fresh f.snapshot)
  | settled (settled : Settled fresh count s)

section
variable {fresh : Snapshot → Prop} {count : Nat} {s t : Session}

theorem tookFresh (grown : count ≤ s.took.length) {snapshot : Snapshot} (new : fresh snapshot)
    (took : t.took = s.took ++ [snapshot]) : count ≤ t.took.length ∧ ∃ x ∈ t.took.drop count, fresh x := by
  rw [took]
  refine ⟨by rw [List.length_append]; omega,snapshot,?_,new⟩
  rw [List.drop_append_of_le_length grown]
  exact List.mem_append_right _ List.mem_cons_self

theorem Settled.same (settled : Settled fresh count s) (took : t.took = s.took) (flight : t.flight = s.flight)
    (error : t.saver.lastError = s.saver.lastError) : Settled fresh count t := by
  obtain ⟨grown,held,coming⟩ := settled
  exact ⟨by rwa [took],by rwa [took,error],by rwa [flight]⟩

theorem Settled.sent (settled : Settled fresh count s) (sent : Sent s t)
    (new : ∀ x, s.editor.snapshot = .ok x → fresh x) : Settled fresh count t := by
  obtain ⟨grown,held,-⟩ := settled
  cases sent with
  | aloft sound flight saver awaited took =>
    refine ⟨by rwa [took],by rwa [took,saver],fun f aloft => ?_⟩
    cases flight.symm.trans aloft
    exact new _ sound
  | arrived sound flight took =>
    obtain ⟨grown,among⟩ := tookFresh grown (new _ sound) took
    exact ⟨grown,.inl among,by simp [flight]⟩
  | failed flight error took => exact ⟨by rwa [took],.inr error,by simp [flight]⟩

theorem endSaveSettled (grown : count ≤ s.took.length) {f : Flight} (flight : s.flight = some f) (new : fresh f.snapshot)
    (outcome : Except SaveFault Unit) : Settled fresh count (s.endSave outcome).1 := by
  cases outcome with
  | ok _ =>
    obtain ⟨grown,among⟩ := tookFresh grown new (endSaveTakes flight)
    exact ⟨grown,.inl among,by simp [endSaveLands]⟩
  | error fault =>
    have took := endSaveRefuses s fault
    exact ⟨by rwa [took],.inr (endSaveBadly s fault).2.2,by simp [endSaveLands]⟩

theorem endSaveGrown (grown : count ≤ s.took.length) {f : Flight} (flight : s.flight = some f)
    (outcome : Except SaveFault Unit) : count ≤ (s.endSave outcome).1.took.length := by
  cases outcome with
  | ok _ =>
    rw [endSaveTakes flight,List.length_append]
    omega
  | error fault => rwa [endSaveRefuses s fault]

theorem resumeSettled (grown : count ≤ s.took.length) {f : Flight} (flight : s.flight = some f) (aloft : fresh f.snapshot)
    (outcome : Except SaveFault Unit) (new : ∀ x, s.editor.snapshot = .ok x → fresh x) :
    Settled fresh count (s.resume outcome) := by
  have ended := endSaveSettled grown flight aloft outcome
  have content := Editor.snapshotOfContent (endSaveContent flight outcome)
  simp only [resume,flight]
  split
  · exact ended.sent (beginSaveSent _) (content ▸ new)
  · exact ended

theorem Settled.still (settled : Settled fresh count s) (same : Still s t) : Settled fresh count t :=
  settled.same same.took same.flight (congrArg Saver.lastError same.saver)

theorem Settled.flush (settled : Settled fresh count s) (awaited : Bool)
    (new : ∀ x, s.editor.snapshot = .ok x → fresh x) : Settled fresh count (s.flush awaited) := by
  by_cases phase : s.saver.phase = .idle
  · have asked : Settled fresh count { s with saver := s.saver.request.1, awaited } := by
      refine settled.same rfl rfl ?_
      rw [Saver.requestIdle phase]
    rw [flushIdle phase]
    exact asked.sent (beginSaveSent _) new
  · obtain ⟨asked,-,error⟩ := flushRunning phase awaited
    rw [asked]
    exact settled.same rfl rfl error

theorem Settled.resume (settled : Settled fresh count s) (outcome : Except SaveFault Unit)
    (new : ∀ x, s.editor.snapshot = .ok x → fresh x) : Settled fresh count (s.resume outcome) := by
  cases flight : s.flight with
  | none =>
    simp only [Session.resume,flight]
    exact settled
  | some f => exact resumeSettled settled.grown flight (settled.coming f flight) outcome new

theorem Settled.meet (settled : Settled fresh count s) (e : Event)
    (new : ∀ x, (s.meet e).editor.snapshot = .ok x → fresh x) : Settled fresh count (s.meet e) :=
  (meetMet s e).keeps new (fun _ same => settled.still same) (fun _ awaited settled => settled.flush awaited)
    fun outcome => settled.resume outcome

theorem Bound.still {mine : Bool} (bound : Bound fresh count mine s) (same : Still s t) : Bound fresh count mine t := by
  have ⟨saver,sameFlight,sameAwaited,took⟩ := same
  cases bound with
  | flagged grown other phase => exact .flagged (by rwa [took]) other (by rwa [saver])
  | aloft grown own phase flight new =>
    exact .aloft (by rwa [took]) (by rwa [sameAwaited]) (by rwa [saver]) (sameFlight.trans flight) new
  | settled settled => exact .settled (settled.still same)

theorem Sent.bound {mine : Bool} (sent : Sent s t) (grown : count ≤ s.took.length)
    (new : ∀ x, s.editor.snapshot = .ok x → fresh x) (running : s.saver.phase ≠ .idle)
    (own : mine = true → s.awaited = true) : Bound fresh count mine t := by
  cases sent with
  | aloft sound flight saver awaited took =>
    exact .aloft (by rwa [took]) (by rwa [awaited]) (by rwa [saver]) flight (new _ sound)
  | arrived sound flight took =>
    obtain ⟨grown,among⟩ := tookFresh grown (new _ sound) took
    exact .settled ⟨grown,.inl among,by simp [flight]⟩
  | failed flight error took => exact .settled ⟨by rwa [took],.inr error,by simp [flight]⟩

theorem Bound.flush {mine : Bool} (bound : Bound fresh count mine s) (awaited : Bool)
    (new : ∀ x, s.editor.snapshot = .ok x → fresh x) : Bound fresh count mine (s.flush awaited) := by
  cases bound with
  | settled settled => exact .settled (settled.flush awaited new)
  | flagged grown other phase =>
    obtain ⟨asked,running,-⟩ := flushRunning (s := s) (by simp [phase]) awaited
    rw [asked]
    exact .flagged grown other running
  | aloft grown own phase flight aloft =>
    obtain ⟨asked,running,-⟩ := flushRunning phase awaited
    rw [asked]
    exact .aloft grown own (by simp [running]) flight aloft

theorem Bound.resume {mine : Bool} (bound : Bound fresh count mine s) (outcome : Except SaveFault Unit)
    (new : ∀ x, s.editor.snapshot = .ok x → fresh x) : Bound fresh count mine (s.resume outcome) := by
  cases bound with
  | settled settled => exact .settled (settled.resume outcome new)
  | aloft grown own phase flight aloft => exact .settled (resumeSettled grown flight aloft outcome new)
  | flagged grown other phase =>
    cases flight : s.flight with
    | none =>
      simp only [Session.resume,flight]
      exact .flagged grown other phase
    | some f =>
      obtain ⟨saver,again⟩ := endSaveSaver s outcome
      have content := Editor.snapshotOfContent (endSaveContent flight outcome)
      rcases Saver.finishPhase s.saver (outcome.mapError SaveFault.message) with ⟨-,running,more⟩ | ⟨plain,-,-⟩
      · simp only [Session.resume,flight,again,more,if_true]
        exact (beginSaveSent _).bound (endSaveGrown grown flight outcome) (content ▸ new) (by simp [saver,running])
          fun own => (nomatch other.symm.trans own)
      · exact absurd phase plain

theorem Bound.meet {mine : Bool} (bound : Bound fresh count mine s) (e : Event)
    (new : ∀ x, (s.meet e).editor.snapshot = .ok x → fresh x) : Bound fresh count mine (s.meet e) :=
  (meetMet s e).keeps new (fun _ same => bound.still same) (fun _ awaited bound => bound.flush awaited)
    fun outcome => bound.resume outcome

theorem saveNowBound (s : Session) (new : ∀ x, s.saveNow.editor.snapshot = .ok x → fresh x) :
    Bound fresh s.took.length (!s.inFlight) s.saveNow := by
  have still := calledStill s
  have made : s.saveNow = s.called.flush true := rfl
  have content := Editor.snapshotOfContent (flushContent s.called true)
  rw [made] at new ⊢
  by_cases idle : s.called.saver.phase = .idle
  · rw [flushIdle idle]
    refine (beginSaveSent _).bound (Nat.le_of_eq (congrArg List.length still.took.symm)) (content ▸ new) ?_ fun _ => rfl
    simp [Saver.requestIdle idle]
  · obtain ⟨asked,running,-⟩ := flushRunning idle true
    rw [asked]
    refine .flagged (Nat.le_of_eq (congrArg List.length still.took.symm)) ?_ running
    rw [Session.inFlight,Saver.inFlight,← still.saver]
    simpa using idle

theorem Bound.landed {mine : Bool} (bound : Bound fresh count mine s) (landed : s.inFlight = false) :
    Settled fresh count s := by
  have idle : s.saver.phase = .idle := by simpa [Session.inFlight,Saver.inFlight] using landed
  cases bound with
  | flagged grown other phase => exact (nomatch idle.symm.trans phase)
  | aloft grown own phase flight new => exact absurd idle phase
  | settled settled => exact settled

theorem Bound.returned (bound : Bound fresh count true s) (returned : s.waiting = 0) : Settled fresh count s := by
  cases inFlight : s.inFlight with
  | false => exact bound.landed inFlight
  | true =>
    cases bound with
    | flagged grown other phase => cases other
    | aloft grown own phase flight new => simp [waiting,inFlight,own rfl] at returned
    | settled settled => exact settled

end

def Seen (s : Session) (events : List Event) (x : Snapshot) : Prop :=
  ∃ before, before <+: events ∧ (s.after before).editor.snapshot = .ok x

theorem saveNowApplies (s : Session) :
    (s.typing.pending = true → s.saveNow.editor.fields = Editor.arranged (Outline.parse s.text s.mint).1.fields) ∧
    (s.typing.pending = false → s.saveNow.editor.snapshot = s.editor.snapshot) := by
  have content : s.saveNow.editor.content = s.called.editor.content := flushContent s.called true
  constructor
  · exact fun pending => (congrArg Prod.fst content).trans (calledTyped pending)
  · exact fun quiet => by rw [Editor.snapshotOfContent content,calledSame quiet]

theorem saveNowFlags {s : Session} (running : s.inFlight = true) :
    s.saveNow.waiting = s.waiting ∧ s.saveNow.saver.phase = .running true := by
  have still := calledStill s
  have made : s.saveNow = s.called.flush true := rfl
  have busy : s.called.saver.phase ≠ .idle := by
    rw [still.saver]
    simpa [inFlight,Saver.inFlight] using running
  obtain ⟨asked,flagged,-⟩ := flushRunning busy true
  have aloft : s.saveNow.inFlight = true := by simp [made,asked,inFlight,Saver.inFlight,flagged]
  have awaited : s.saveNow.awaited = s.awaited := by rw [made,asked,still.awaited]
  refine ⟨by rw [waiting,waiting,aloft,awaited,running],?_⟩
  rw [made,asked]
  exact flagged

/-- An explicit save applies the text that is pending before anything else. If no save is on its way it begins one, and
once it has returned, a form as it was at the call or later has been taken since the call, or the last save has failed.
If a save is on its way, it asks for one more and returns at once; the same holds once nothing is on its way any more. -/
theorem explicitSaveHolds (s : Session) (meanwhile later : List Event) :
    let u := s.saveNow.after meanwhile
    let t := u.after later
    let kept := (∃ x ∈ t.took.drop s.took.length, s.saveNow.Seen (meanwhile ++ later) x) ∨ t.saver.lastError ≠ none
    (s.typing.pending = true → s.saveNow.editor.fields = Editor.arranged (Outline.parse s.text s.mint).1.fields) ∧
    (s.typing.pending = false → s.saveNow.editor.snapshot = s.editor.snapshot) ∧
    (s.inFlight = false → u.waiting = 0 → kept) ∧
    (s.inFlight = true → s.saveNow.waiting = s.waiting ∧ s.saveNow.saver.phase = .running true ∧
      (u.inFlight = false → kept)) := by
  intro u t kept
  let fresh := s.saveNow.Seen (meanwhile ++ later)
  have bound : Bound fresh s.took.length (!s.inFlight) u := by
    refine afterKeeps (fun _ e bound => bound.meet e) (saveNowBound s ?_) ?_
    · exact fun x sound => ⟨[],List.nil_prefix,sound⟩
    · exact fun before early x sound => ⟨before,early.trans (List.prefix_append _ _),sound⟩
  have settles (settled : Settled fresh s.took.length u) : kept := by
    refine (afterKeeps (fun _ e settled => settled.meet e) settled ?_ : Settled fresh s.took.length t).held
    intro before early x sound
    refine ⟨meanwhile ++ before,(List.prefix_append_right_inj _).mpr early,?_⟩
    rwa [after,List.foldl_append]
  obtain ⟨typed,quiet⟩ := saveNowApplies s
  refine ⟨typed,quiet,fun idle returned => ?_,fun running => ?_⟩
  · rw [idle] at bound
    exact settles (bound.returned returned)
  · obtain ⟨atOnce,flagged⟩ := saveNowFlags running
    exact ⟨atOnce,flagged,fun landed => settles (bound.landed landed)⟩

theorem secondSaveReturnsFirst :
    let e : Editor := .ofParts [] (.str "") .null .default
    let s := (start e (.atSeconds 0) .stalled 2 1).after [.move (.dispatch (.setTitle (.str "a"))),.move .saveNow,
      .move (.dispatch (.setTitle (.str "b")))]
    s.waiting = 1 ∧ s.saveNow.waiting = 1 ∧ s.saveNow.took = [] ∧ s.saveNow.saver.lastError = none ∧
    s.saveNow.flight.map (·.snapshot.title) = some "a" ∧ s.saveNow.editor.snapshot.toOption.map (·.title) = some "b" :=
  ⟨by decide +kernel,by decide +kernel,List.isEmpty_iff.mp (by decide +kernel),by decide +kernel,by decide +kernel,
    by decide +kernel⟩

theorem stalledSavesHold :
    let e : Editor := .ofParts [] (.str "") .null .default
    let ends : Event := .move (.resume (.ok ()))
    let idle := (start e (.atSeconds 0) .stalled 2 1).after [.move (.dispatch (.setTitle (.str "a")))]
    let busy := idle.saveNow.after [.move (.dispatch (.setTitle (.str "b"))),.move (.setText "Name")]
    (∃ x ∈ (idle.saveNow.after [ends]).took.drop idle.took.length, idle.saveNow.Seen [ends] x) ∧
    busy.saveNow.editor.fields = Editor.arranged (Outline.parse busy.text busy.mint).1.fields ∧
    busy.saveNow.waiting = busy.waiting ∧
    ∃ x ∈ (busy.saveNow.after [ends,ends]).took.drop busy.took.length, busy.saveNow.Seen [ends,ends] x := by
  intro e ends idle busy
  have quiet : idle.inFlight = false := by decide +kernel
  have returned : (idle.saveNow.after [ends]).waiting = 0 := by decide +kernel
  have well : (idle.saveNow.after [ends]).saver.lastError = none := by decide +kernel
  have typing : busy.typing.pending = true := by decide +kernel
  have aloft : busy.inFlight = true := by decide +kernel
  have landed : (busy.saveNow.after [ends,ends]).inFlight = false := by decide +kernel
  have wellAgain : (busy.saveNow.after [ends,ends]).saver.lastError = none := by decide +kernel
  clear_value busy idle
  obtain ⟨-,-,own,-⟩ := explicitSaveHolds idle [ends] []
  obtain ⟨typed,-,-,more⟩ := explicitSaveHolds busy [ends,ends] []
  obtain ⟨atOnce,-,last⟩ := more aloft
  exact ⟨(own quiet returned).resolve_right (not_not_intro well),typed typing,atOnce,
    (last landed).resolve_right (not_not_intro wellAgain)⟩

end FormBuilder.Session
