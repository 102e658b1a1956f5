import FormBuilder.Proofs.Editor.Content
import FormBuilder.Proofs.Saver.History
import FormBuilder.Session.Run
/-! What beginning and ending a save do to a session, whoever asked for it. A save that begins either
stalls, goes through or fails at once; only one that goes through adds to what has been taken. -/
namespace FormBuilder.Session

def taken : List Incident → List Snapshot :=
  List.filterMap fun
    | .taken s => some s
    | _ => none

def lastTaken (s : Session) : Option Snapshot := (taken s.journal).getLast?

theorem takenNotices (journal : List Incident) (notices : List Notice) :
    taken (journal ++ notices.map .notice) = taken journal := by
  induction notices generalizing journal with
  | nil => simp only [List.map_nil,List.append_nil]
  | cons n rest ih =>
    rw [List.map_cons,← List.singleton_append,← List.append_assoc,ih]
    simp [taken]

theorem lastTakenNotify (s : Session) (notices : List Notice) :
    (s.notify notices).lastTaken = s.lastTaken :=
  congrArg List.getLast? (takenNotices s.journal notices)

theorem lastTakenNote (s : Session) (snapshot : Snapshot) :
    (s.note [.taken snapshot]).lastTaken = some snapshot := by
  simp [lastTaken,note,taken,List.filterMap_append]

theorem lastTakenHandedOver (s : Session) (snapshot : Snapshot) :
    (s.note [.handedOver snapshot]).lastTaken = s.lastTaken := by
  simp [lastTaken,note,taken,List.filterMap_append]

theorem endSaveWell {s : Session} {f : Flight} (flight : s.flight = some f) :
    (s.endSave (.ok ())).1.editor = s.editor.completed f.revision ∧
    (s.endSave (.ok ())).1.lastTaken = some f.snapshot := by
  simp only [endSave,flight]
  exact ⟨rfl,(lastTakenNotify _ _).trans (lastTakenNote _ _)⟩

theorem endSaveBadly (s : Session) (fault : SaveFault) :
    (s.endSave (.error fault)).1.editor = s.editor ∧
    (s.endSave (.error fault)).1.lastTaken = s.lastTaken ∧
    (s.endSave (.error fault)).1.saver.lastError ≠ none := by
  refine ⟨rfl,lastTakenNotify _ _,?_⟩
  simp only [endSave,notify,note,Saver.finish,Saver.noteEnd]
  split <;> exact Option.some_ne_none fault.message

theorem endSaveLands (s : Session) (outcome) : (s.endSave outcome).1.flight = none := rfl

theorem endSaveSaver (s : Session) (outcome : Except SaveFault Unit) :
    (s.endSave outcome).1.saver = (s.saver.finish (outcome.mapError SaveFault.message)).1 ∧
    (s.endSave outcome).2 = (s.saver.finish (outcome.mapError SaveFault.message)).2 := ⟨rfl,rfl⟩

structure SameText (s t : Session) : Prop where
  text : t.text = s.text
  typing : t.typing = s.typing

theorem SameText.trans {s t u : Session} (first : SameText s t) (later : SameText t u) : SameText s u :=
  ⟨later.text.trans first.text,later.typing.trans first.typing⟩

structure Aside (s t : Session) : Prop extends SameText s t where
  autosave : t.autosave = s.autosave
  due : t.due = s.due

theorem Aside.trans {s t u : Session} (first : Aside s t) (later : Aside t u) : Aside s u :=
  ⟨first.toSameText.trans later.toSameText,later.autosave.trans first.autosave,later.due.trans first.due⟩

theorem endSaveAside (s : Session) (outcome) : Aside s (s.endSave outcome).1 := by
  simp only [endSave,notify,note]
  split <;> exact ⟨⟨rfl,rfl⟩,rfl,rfl⟩

theorem launchAside (s : Session) (snapshot) : Aside s (s.launch snapshot) := ⟨⟨rfl,rfl⟩,rfl,rfl⟩

theorem handoverSound {e : Editor} {p snapshot} (ok : e.handover p = .ok snapshot) :
    e.snapshot = .ok snapshot := by
  unfold Editor.handover at ok
  split at ok <;> try contradiction
  split at ok <;> try contradiction
  rename_i sound
  cases ok
  exact sound

-- What beginning a save of the editor `e` may come to, `last` being what was taken before.
inductive Begun (e : Editor) (last : Option Snapshot) (t : Session) : Prop where
  | stalled (snapshot : Snapshot) (sound : e.snapshot = .ok snapshot) (editor : t.editor = e)
      (flight : t.flight = some ⟨e.revision,snapshot⟩) (phase : t.saver.phase = .running false)
      (taken : t.lastTaken = last)
  | passed (snapshot : Snapshot) (sound : e.snapshot = .ok snapshot)
      (editor : t.editor = e.completed e.revision) (flight : t.flight = none)
      (phase : t.saver.phase = .idle) (taken : t.lastTaken = some snapshot)
  | failed (editor : t.editor = e) (flight : t.flight = none) (phase : t.saver.phase = .idle)
      (taken : t.lastTaken = last) (error : t.saver.lastError ≠ none)

theorem launchKeepsTaken (s : Session) (snapshot) : (s.launch snapshot).lastTaken = s.lastTaken :=
  (lastTakenHandedOver _ _).trans (lastTakenNotify s _)

theorem beginSaveBegun {s : Session} (phase : s.saver.phase = .running false) :
    Begun s.editor s.lastTaken s.beginSave := by
  have lands (t : Session) (same : t.saver.phase = s.saver.phase) (outcome) :
      (t.endSave outcome).1.saver.phase = .idle := by
    rw [(endSaveSaver t outcome).1]
    rcases Saver.finishPhase t.saver (outcome.mapError SaveFault.message) with h | h
    · rw [same,phase] at h
      exact absurd h.1 (by simp)
    · exact h.2.1
  unfold beginSave
  split
  · rename_i fault _
    obtain ⟨editor,taken,error⟩ := endSaveBadly s fault
    exact .failed editor rfl (lands s rfl _) taken error
  · rename_i snapshot ok
    have sound := handoverSound ok
    have kept := launchKeepsTaken s snapshot
    dsimp only
    split
    · exact .stalled snapshot sound rfl rfl phase kept
    · rename_i reason _
      obtain ⟨editor,taken,error⟩ := endSaveBadly (s.launch snapshot) (.refused reason)
      exact .failed editor rfl (lands _ rfl _) (taken.trans kept) error
    · obtain ⟨editor,taken⟩ := endSaveWell (s := s.launch snapshot) rfl
      exact .passed snapshot sound editor rfl (lands _ rfl _) taken

theorem beginSaveAside (s : Session) : Aside s s.beginSave := by
  unfold beginSave
  split
  · exact endSaveAside s _
  · dsimp only
    split
    · exact launchAside s _
    · exact (launchAside s _).trans (endSaveAside _ _)
    · exact (launchAside s _).trans (endSaveAside _ _)

theorem flushAside (s : Session) (awaited) : Aside s (s.flush awaited) := by
  have asked (saver awaited) : Aside s { s with saver, awaited } := ⟨⟨rfl,rfl⟩,rfl,rfl⟩
  simp only [flush]
  cases phase : s.saver.phase with
  | idle =>
    rw [Saver.requestIdle phase]
    exact (asked _ _).trans (beginSaveAside _)
  | running trailing =>
    rw [Saver.requestRunning phase]
    exact asked _ s.awaited

inductive Flushed (s t : Session) : Prop where
  | begun (idle : s.saver.phase = .idle) (begun : Begun s.editor s.lastTaken t)
  | flagged (running : s.saver.phase ≠ .idle) (phase : t.saver.phase = .running true)
      (editor : t.editor = s.editor) (flight : t.flight = s.flight) (taken : t.lastTaken = s.lastTaken)

theorem flushFlushed (s : Session) (awaited) : Flushed s (s.flush awaited) := by
  simp only [flush]
  cases phase : s.saver.phase with
  | idle =>
    rw [Saver.requestIdle phase]
    exact .begun phase (beginSaveBegun (s := { s with saver := _, awaited }) rfl)
  | running trailing =>
    rw [Saver.requestRunning phase]
    exact .flagged (by simp [phase]) rfl rfl rfl rfl

theorem resumeAside (s : Session) (outcome) : Aside s (s.resume outcome) := by
  unfold resume
  split
  · exact ⟨⟨rfl,rfl⟩,rfl,rfl⟩
  · dsimp only
    split
    · exact (endSaveAside s outcome).trans (beginSaveAside _)
    · exact endSaveAside s outcome

end FormBuilder.Session
