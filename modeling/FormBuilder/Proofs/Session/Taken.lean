import FormBuilder.Proofs.Session.Acts
/-! A clean editor is one whose form has been taken. As long as nothing is unsaved, the form that would
be sent is the one that was taken last, or the one that the session began with. -/
namespace FormBuilder.Session
open Editor (Untouched Touched)

def backed (first : Checked Snapshot) (s : Session) : Checked Snapshot := (s.lastTaken.map .ok).getD first

structure Backed (first : Checked Snapshot) (s : Session) : Prop where
  past : ∀ f, s.flight = some f → f.revision ≤ s.editor.revision
  same : ∀ f, s.flight = some f → f.revision = s.editor.revision → s.editor.snapshot = .ok f.snapshot
  current : s.editor.dirty = false → ∀ f, s.flight = some f → f.revision = s.editor.revision
  clean : s.editor.dirty = false → s.editor.snapshot = s.backed first

theorem completedSnapshot (e : Editor) (revision) : (e.completed revision).snapshot = e.snapshot :=
  Editor.snapshotOfContent rfl

theorem landedBacked {first s} (landed : s.flight = none)
    (clean : s.editor.dirty = false → s.editor.snapshot = s.backed first) : Backed first s :=
  ⟨by simp [landed],by simp [landed],by simp [landed],clean⟩

theorem startBacked (e : Editor) (m p autosaveDelay typingDelay) :
    Backed e.snapshot (.start e m p autosaveDelay typingDelay) := landedBacked rfl fun _ => rfl

theorem begunBacked {first e last t} (begun : Begun e last t)
    (clean : e.dirty = false → e.snapshot = (last.map .ok).getD first) : Backed first t := by
  cases begun with
  | stalled snapshot sound editor flight phase taken =>
    have only (f) (aloft : t.flight = some f) : f = ⟨e.revision,snapshot⟩ :=
      Option.some.inj (aloft.symm.trans flight)
    refine ⟨fun f aloft => ?_,fun f aloft _ => ?_,fun _ f aloft => ?_,fun tidy => ?_⟩
    · simp [only f aloft,editor]
    · rw [only f aloft,editor,sound]
    · rw [only f aloft,editor]
    · rw [editor] at tidy ⊢
      rw [backed,taken,clean tidy]
  | passed snapshot sound editor flight phase taken =>
    refine landedBacked flight fun _ => ?_
    rw [editor,completedSnapshot,sound,backed,taken]
    rfl
  | failed editor flight phase taken error =>
    refine landedBacked flight fun tidy => ?_
    rw [editor] at tidy ⊢
    rw [backed,taken,clean tidy]

theorem flushBacked {first s} (before : Backed first s) (awaited) : Backed first (s.flush awaited) := by
  cases flushFlushed s awaited with
  | begun idle begun => exact begunBacked begun before.clean
  | flagged running phase editor flight taken =>
    refine ⟨?_,?_,?_,?_⟩
    · simpa only [editor,flight] using before.past
    · simpa only [editor,flight] using before.same
    · simpa only [editor,flight] using before.current
    · simpa only [editor,backed,taken] using before.clean

theorem editedBacked {first s t} (before : Backed first s) (kept : SavesKept s t)
    (editor : Untouched s.editor t.editor ∨ Touched s.editor t.editor) : Backed first t := by
  rcases editor with same | new
  · have snapshot := Editor.snapshotOfContent same.content
    refine ⟨?_,?_,?_,?_⟩
    · simpa only [kept.flight,same.revision] using before.past
    · simpa only [kept.flight,same.revision,snapshot] using before.same
    · simpa only [kept.flight,same.revision,same.dirty] using before.current
    · simpa only [same.dirty,snapshot,backed,kept.taken] using before.clean
  · have past (f) (aloft : t.flight = some f) : f.revision < t.editor.revision := by
      have := before.past f (kept.flight ▸ aloft)
      have := new.revision
      omega
    have dirty : t.editor.dirty ≠ false := by simp [new.dirty]
    exact ⟨fun f aloft => Nat.le_of_lt (past f aloft),fun f aloft same => absurd same (Nat.ne_of_lt (past f aloft)),
      fun tidy => absurd tidy dirty,fun tidy => absurd tidy dirty⟩

theorem endSaveBacked {first s f} (before : Backed first s) (flight : s.flight = some f) (outcome) :
    Backed first (s.endSave outcome).1 := by
  refine landedBacked (endSaveLands s outcome) fun tidy => ?_
  cases outcome with
  | error fault =>
    obtain ⟨editor,taken,_⟩ := endSaveBadly s fault
    rw [editor] at tidy ⊢
    rw [backed,taken]
    exact before.clean tidy
  | ok _ =>
    obtain ⟨editor,taken⟩ := endSaveWell flight
    rw [editor] at tidy ⊢
    rw [completedSnapshot,backed,taken]
    -- An editor that has moved on since stays dirty, unless it was clean and had not moved on.
    by_cases moved : s.editor.revision = f.revision
    · exact before.same f flight moved.symm
    · have clean : s.editor.dirty = false := (if_neg moved).symm.trans tidy
      exact absurd (before.current clean f flight).symm moved

theorem resumeBacked {first s} (before : Backed first s) (outcome) : Backed first (s.resume outcome) := by
  unfold resume
  split
  · exact before
  · rename_i f flight
    have ended := endSaveBacked before flight outcome
    dsimp only
    rcases Saver.finishPhase s.saver (outcome.mapError SaveFault.message) with ⟨_,phase,more⟩ | ⟨_,_,done⟩
    · rw [(endSaveSaver s outcome).2,more,if_pos rfl]
      exact begunBacked (beginSaveBegun ((endSaveSaver s outcome).1 ▸ phase)) ended.clean
    · rw [(endSaveSaver s outcome).2,done,if_neg (by simp)]
      exact ended

theorem applyTypedBacked {first s} (before : Backed first s) : Backed first s.applyTyped :=
  editedBacked before (applyTypedKept s) (applyTypedEdited s).editor

theorem moveBacked {first s} (before : Backed first s) (m : Move) : Backed first (s.move m) := by
  -- Whatever has no part in edits and saves leaves all four facts as they are.
  have other (t : Session) (editor : t.editor = s.editor) (flight : t.flight = s.flight)
      (journal : t.journal = s.journal) : Backed first t := by
    refine ⟨?_,?_,?_,?_⟩
    · simpa only [editor,flight] using before.past
    · simpa only [editor,flight] using before.same
    · simpa only [editor,flight] using before.current
    · simpa only [editor,backed,lastTaken,journal] using before.clean
  cases m with
  | dispatch c => exact editedBacked before (dispatchKept s c) (dispatchEdited s c).editor
  | setText text =>
    simp only [move,setText]
    split <;> exact other _ rfl rfl rfl
  | saveNow =>
    simp only [move,saveNow]
    split
    · have typed := applyTypedBacked before
      exact flushBacked (s := { s.applyTyped with autosave := s.applyTyped.autosave.cancel })
        ⟨typed.past,typed.same,typed.current,typed.clean⟩ true
    · exact flushBacked (other { s with autosave := s.autosave.cancel } rfl rfl rfl) true
  | close => exact other _ rfl rfl rfl
  | setPersistence p => exact other _ rfl rfl rfl
  | resume outcome => exact resumeBacked before outcome
  | ringTyping =>
    simp only [move,ringTyping]
    split
    · exact applyTypedBacked before
    · exact before
  | ringAutosave =>
    simp only [move,ringAutosave]
    split
    · exact other _ rfl rfl rfl
    · exact before
  | serve =>
    simp only [move,serve]
    split
    · exact before
    · rename_i due _
      exact flushBacked (other { s with due } rfl rfl rfl) false
  | pass duration => exact other _ rfl rfl rfl

theorem playBacked {first s} (before : Backed first s) (moves : List Move) : Backed first (s.play moves) := by
  induction moves generalizing s with
  | nil => exact before
  | cons m rest ih => exact ih (moveBacked before m)

def WasTaken (first : Checked Snapshot) (s : Session) : Prop :=
  s.editor.dirty = false →
    s.editor.snapshot = (s.lastTaken.map .ok).getD first ∧
    ∀ f, s.flight = some f → s.editor.snapshot = .ok f.snapshot

theorem backedWasTaken {first s} (backed : Backed first s) : WasTaken first s :=
  fun clean => ⟨backed.clean clean,fun f aloft => backed.same f aloft (backed.current clean f aloft)⟩

/-- While nothing is unsaved, the form is the one that was taken last, or the first one if none was;
what is still on its way then is this form too. -/
theorem cleanFormWasTaken (e : Editor) (m : Mint) (p : Persistence) (autosaveDelay typingDelay : Rat) :
    let first := start e m p autosaveDelay typingDelay
    (∀ moves : List Move, WasTaken e.snapshot (first.play moves)) ∧
    ∀ acts : List Act, (∀ a ∈ acts, a.ordinary = true) → WasTaken e.snapshot (first.actAll acts) := by
  intro first
  have backed : Backed e.snapshot first := startBacked e m p autosaveDelay typingDelay
  refine ⟨fun moves => backedWasTaken (playBacked backed moves),fun acts ordinary => ?_⟩
  obtain ⟨moves,-,played⟩ := actAllPlays first ordinary
  rw [played]
  exact backedWasTaken (playBacked backed moves)

theorem secondTitleWasTaken :
    let e : Editor := .ofParts [] (.str "") .null .default
    let first := start e (.atSeconds 0) .accepting 2 1
    let moves : List Move := [.setPersistence .stalled,.dispatch (.setTitle (.str "a")),.saveNow,
      .dispatch (.setTitle (.str "b")),.resume (.ok ()),.setPersistence (.failing "full"),.saveNow,
      .setPersistence .accepting,.saveNow]
    let acts : List Act := [.setPersistence .stalled,.dispatch (.setTitle (.str "a")),.saveNow,
      .dispatch (.setTitle (.str "b")),.release,.setPersistence .accepting,.advance 2]
    (∀ s ∈ [first.play moves,first.actAll acts], s.editor.dirty = false ∧ s.lastTaken.map (·.title) = some "b") ∧
    (first.play moves).editor.snapshot = ((first.play moves).lastTaken.map .ok).getD e.snapshot ∧
    (first.actAll acts).editor.snapshot = ((first.actAll acts).lastTaken.map .ok).getD e.snapshot := by
  intro e first moves acts
  obtain ⟨played,acted⟩ := cleanFormWasTaken e (.atSeconds 0) .accepting 2 1
  exact ⟨by decide +kernel,(played moves (by decide +kernel)).1,(acted acts (by decide) (by decide +kernel)).1⟩

end FormBuilder.Session
