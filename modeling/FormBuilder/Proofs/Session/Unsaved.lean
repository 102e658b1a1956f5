import FormBuilder.Proofs.Session.Acts
/-! No edit is forgotten. As long as a session is not closed, whatever is unsaved in it is waited for by
the quiet period, is on its way or will be sent after what is on its way, or its save has failed. -/
namespace FormBuilder.Session
open Editor (Untouched Touched)

def Followed (s : Session) : Prop :=
  match s.flight with
  | some f => f.revision = s.editor.revision ∨ s.saver.phase = .running true
  | none => s.saver.lastError ≠ none

structure Attended (s : Session) : Prop where
  flying : s.flight = none ↔ s.saver.phase = .idle
  unsaved : s.editor.dirty = true → s.autosave.pending = true ∨ 0 < s.due ∨ s.Followed

theorem startAttended {e : Editor} (clean : e.dirty = false) (m p autosaveDelay typingDelay) :
    Attended (.start e m p autosaveDelay typingDelay) :=
  ⟨⟨fun _ => rfl,fun _ => rfl⟩,fun dirty => absurd (clean.symm.trans dirty) (by simp)⟩

theorem completedClean {e : Editor} {revision} (same : e.revision = revision) :
    (e.completed revision).dirty = false := if_pos same

theorem completedDirty {e : Editor} {revision} (other : e.revision ≠ revision) :
    (e.completed revision).dirty = e.dirty := if_neg other

theorem begunAttended {e last t} (begun : Begun e last t) :
    (t.flight = none ↔ t.saver.phase = .idle) ∧ (t.editor.dirty = true → t.Followed) := by
  cases begun with
  | stalled snapshot sound editor flight phase taken =>
    refine ⟨by simp [flight,phase],fun _ => ?_⟩
    simp [Followed,flight,editor]
  | passed snapshot sound editor flight phase taken =>
    refine ⟨by simp [flight,phase],fun dirty => ?_⟩
    rw [editor,completedClean rfl] at dirty
    contradiction
  | failed editor flight phase taken error =>
    refine ⟨by simp [flight,phase],fun _ => ?_⟩
    simpa only [Followed,flight] using error

theorem flushAttended {s : Session} (flying : s.flight = none ↔ s.saver.phase = .idle) (awaited) :
    Attended (s.flush awaited) := by
  cases flushFlushed s awaited with
  | begun idle begun =>
    obtain ⟨flying,followed⟩ := begunAttended begun
    exact ⟨flying,fun dirty => .inr (.inr (followed dirty))⟩
  | flagged running phase editor flight taken =>
    have aloft : (s.flush awaited).flight ≠ none := fun landed => running (flying.mp (flight.symm.trans landed))
    refine ⟨⟨fun landed => absurd landed aloft,fun idle => ?_⟩,fun _ => .inr (.inr ?_)⟩
    · rw [phase] at idle
      contradiction
    · unfold Followed
      split
      · exact .inr phase
      · rename_i landed
        exact absurd landed aloft

theorem editedAttended {s t : Session} (attended : Attended s) (kept : SavesKept s t) (edited : Edited s t) :
    Attended t := by
  refine ⟨by rw [kept.flight,kept.saver]; exact attended.flying,fun dirty => ?_⟩
  cases edited with
  | refused same autosave =>
    have before := attended.unsaved (same.dirty ▸ dirty)
    simpa only [Followed,autosave,kept.due,kept.flight,kept.saver,same.revision] using before
  | answered editor armed => exact .inl (armed dirty)

theorem resumeAttended {s : Session} (attended : Attended s) (outcome) : Attended (s.resume outcome) := by
  unfold resume
  split
  · exact attended
  · rename_i f flight
    have aloft : s.saver.phase ≠ .idle := fun idle => by simp [attended.flying.mpr idle] at flight
    obtain ⟨saver,again⟩ := endSaveSaver s outcome
    have ⟨_,autosave,due⟩ := endSaveAside s outcome
    dsimp only
    rcases Saver.finishPhase s.saver (outcome.mapError SaveFault.message) with ⟨flagged,phase,more⟩ | ⟨plain,phase,done⟩
    · rw [again,more,if_pos rfl]
      obtain ⟨flying,followed⟩ := begunAttended (beginSaveBegun (saver ▸ phase))
      exact ⟨flying,fun dirty => .inr (.inr (followed dirty))⟩
    · rw [again,done,if_neg (by simp)]
      refine ⟨⟨fun _ => saver ▸ phase,fun _ => rfl⟩,fun dirty => ?_⟩
      cases outcome with
      | error fault => exact .inr (.inr (endSaveBadly s fault).2.2)
      | ok _ =>
        rw [(endSaveWell flight).1] at dirty
        have other : s.editor.revision ≠ f.revision := fun same => by simp [completedClean same] at dirty
        rw [completedDirty other] at dirty
        rw [autosave,due]
        refine (attended.unsaved dirty).imp id (Or.imp id fun followed => ?_)
        simp only [Followed,flight] at followed
        exact (followed.elim (absurd ·.symm other) (absurd · plain))

theorem moveAttended {s : Session} (attended : Attended s) {m : Move} (opened : m ≠ .close) :
    Attended (s.move m) := by
  cases m with
  | dispatch c => exact editedAttended attended (dispatchKept s c) (dispatchEdited s c)
  | setText text =>
    simp only [move,setText]
    split <;> exact ⟨attended.flying,attended.unsaved⟩
  | saveNow =>
    simp only [move,saveNow]
    split
    · exact flushAttended (s := { s.applyTyped with autosave := s.applyTyped.autosave.cancel })
        (editedAttended attended (applyTypedKept s) (applyTypedEdited s)).flying true
    · exact flushAttended (s := { s with autosave := s.autosave.cancel }) attended.flying true
  | close => contradiction
  | setPersistence p => exact ⟨attended.flying,attended.unsaved⟩
  | resume outcome => exact resumeAttended attended outcome
  | ringTyping =>
    simp only [move,ringTyping]
    split
    · exact editedAttended attended (applyTypedKept s) (applyTypedEdited s)
    · exact attended
  | ringAutosave =>
    simp only [move,ringAutosave]
    split
    · exact ⟨attended.flying,fun _ => .inr (.inl (Nat.succ_pos _))⟩
    · exact attended
  | serve =>
    simp only [move,serve]
    split
    · exact attended
    · rename_i due _
      exact flushAttended (s := { s with due }) attended.flying false
  | pass duration => exact ⟨attended.flying,attended.unsaved⟩

theorem playAttended {s : Session} (attended : Attended s) {moves : List Move} (opened : Move.close ∉ moves) :
    Attended (s.play moves) := by
  induction moves generalizing s with
  | nil => exact attended
  | cons m rest ih =>
    simp only [List.mem_cons,not_or] at opened
    exact ih (moveAttended attended fun same => opened.1 same.symm) opened.2

theorem attendedAtRest {s : Session} (attended : Attended s) (rest : s.due = 0) (dirty : s.editor.dirty = true) :
    s.autosave.pending = true ∨
    (s.inFlight = true ∧ ((∃ f, s.flight = some f ∧ f.revision = s.editor.revision) ∨
      s.saver.phase = .running true)) ∨
    s.saver.lastError ≠ none := by
  rcases attended.unsaved dirty with pending | waiting | followed
  · exact .inl pending
  · exact absurd waiting (by simp [rest])
  · unfold Followed at followed
    split at followed
    · rename_i f flight
      have aloft : s.saver.phase ≠ .idle := fun idle => by simp [attended.flying.mpr idle] at flight
      exact .inr (.inl ⟨bne_iff_ne.mpr aloft,followed.imp (fun same => ⟨f,flight,same⟩) id⟩)
    · exact .inr (.inr followed)

def TakenCareOf (s : Session) : Prop :=
  (s.editor.dirty = true →
    s.autosave.pending = true ∨
    (s.inFlight = true ∧ ((∃ f, s.flight = some f ∧ f.revision = s.editor.revision) ∨
      s.saver.phase = .running true)) ∨
    s.saver.lastError ≠ none) ∧
  (s.autosave.pending = false → s.inFlight = false → s.saver.lastError = none → s.editor.dirty = false)

theorem attendedTakenCareOf {s : Session} (attended : Attended s) (rest : s.due = 0) : TakenCareOf s := by
  refine ⟨attendedAtRest attended rest,fun idle landed well => ?_⟩
  cases dirty : s.editor.dirty with
  | false => rfl
  | true =>
    rcases attendedAtRest attended rest dirty with pending | ⟨aloft,_⟩ | failed
    · simp [idle] at pending
    · simp [landed] at aloft
    · exact absurd well failed

/-- Whenever no save waits for its turn, everything unsaved is taken care of. After an act none ever waits. -/
theorem unsavedTakenCareOf (e : Editor) (m : Mint) (p : Persistence) (autosaveDelay typingDelay : Rat)
    (clean : e.dirty = false) :
    let first := start e m p autosaveDelay typingDelay
    (∀ moves : List Move, Move.close ∉ moves → (first.play moves).due = 0 → TakenCareOf (first.play moves)) ∧
    ∀ acts : List Act, (∀ a ∈ acts, a.ordinary = true) → Act.close ∉ acts → TakenCareOf (first.actAll acts) := by
  intro first
  have attended : Attended first := startAttended clean m p autosaveDelay typingDelay
  refine ⟨fun moves opened rest => attendedTakenCareOf (playAttended attended opened) rest,fun acts ordinary opened => ?_⟩
  obtain ⟨moves,closes,played⟩ := actAllPlays first ordinary
  refine attendedTakenCareOf ?_ (actAllServes rfl acts)
  rw [played]
  exact playAttended attended (opened ∘ closes)

theorem titleChangedInFlightTakenCareOf :
    let first := start (Editor.ofParts [] (.str "") .null .default) (.atSeconds 0) .accepting 2 1
    let moves : List Move := [.dispatch (.setTitle (.str "a")),.pass 2,.ringAutosave,.setPersistence .stalled,
      .serve,.dispatch (.setTitle (.str "b")),.pass 2,.ringAutosave,.serve]
    let acts : List Act := [.dispatch (.setTitle (.str "a")),.setPersistence .stalled,.advance 2,
      .dispatch (.setTitle (.str "b")),.advance 2]
    (∀ s ∈ [first.play moves,first.actAll acts],
      s.editor.dirty = true ∧ s.autosave.pending = false ∧ s.inFlight = true) ∧
    TakenCareOf (first.play moves) ∧ TakenCareOf (first.actAll acts) := by
  intro first moves acts
  obtain ⟨played,acted⟩ := unsavedTakenCareOf (Editor.ofParts [] (.str "") .null .default) (.atSeconds 0) .accepting 2 1 rfl
  exact ⟨by decide +kernel,played moves (by simp [moves]) (by decide +kernel),acted acts (by decide) (by simp [acts])⟩

end FormBuilder.Session
