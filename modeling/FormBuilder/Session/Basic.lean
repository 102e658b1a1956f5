import FormBuilder.Debounce
import FormBuilder.Editor.Instruction
import FormBuilder.Saver
/-! An editing session: every command goes through `dispatch`, which puts off the automatic save;
typed text is applied once typing pauses; and saves never overlap. -/
namespace FormBuilder

structure Flight where
  revision : Nat
  snapshot : Snapshot
  deriving Repr

inductive Incident where
  | notice (n : Notice)
  | handedOver (s : Snapshot)
  | taken (s : Snapshot)
  deriving Repr

structure Session where
  editor : Editor
  mint : Mint
  persistence : Persistence
  text : String
  typing : Debounce
  autosave : Debounce
  saver : Saver
  flight : Option Flight
  awaited : Bool
  due : Nat
  now : Rat
  turn : Nat
  journal : List Incident
  deriving Repr

namespace Session

def start (editor : Editor) (mint : Mint) (persistence : Persistence) (autosaveDelay typingDelay : Rat) : Session :=
  ⟨editor,mint,persistence,"",.idle typingDelay,.idle autosaveDelay,.fresh,none,false,0,0,0,[]⟩

def note (s : Session) (incidents : List Incident) : Session := { s with journal := s.journal ++ incidents }

def notify (s : Session) (notices : List Notice) : Session := s.note (notices.map .notice)

def inFlight (s : Session) : Bool := s.saver.inFlight

def waiting (s : Session) : Nat := if s.inFlight && s.awaited then 1 else 0

/-! ### Saves -/

def endSave (s : Session) (outcome : Except SaveFault Unit) : Session × Bool :=
  let ending := outcome.mapError SaveFault.message
  let (saver,again) := s.saver.finish ending
  let s := match outcome,s.flight with
    | .ok _,some flight => { s with editor := s.editor.completed flight.revision }.note [.taken flight.snapshot]
    | _,_ => s
  ({ s with saver, flight := none, awaited := s.awaited && again }.notify (Saver.endNotices ending),again)

def launch (s : Session) (snapshot : Snapshot) : Session :=
  { s.notify s.editor.collisionNotices with flight := some ⟨s.editor.revision,snapshot⟩ }.note [.handedOver snapshot]

/-- Begins a save. Unless it stalls it has ended when this returns, and since nothing can be asked
for in between, no other one follows it. -/
def beginSave (s : Session) : Session :=
  match s.editor.handover s.persistence with
  | .error fault => (s.endSave (.error fault)).1
  | .ok snapshot =>
    let s := s.launch snapshot
    match s.persistence with
    | .stalled => s
    | .failing reason => (s.endSave (.error (.refused reason))).1
    | _ => (s.endSave (.ok ())).1

def flush (s : Session) (awaited : Bool) : Session :=
  let (saver,begins) := s.saver.request
  if begins then { s with saver, awaited }.beginSave else { s with saver }

def resume (s : Session) (outcome : Except SaveFault Unit) : Session :=
  match s.flight with
  | none => s
  | some _ =>
    let (s,again) := s.endSave outcome
    if again then s.beginSave else s

def serve (s : Session) : Session :=
  match s.due with
  | 0 => s
  | due + 1 => { s with due }.flush false

def ringAutosave (s : Session) : Session :=
  if s.autosave.isDue s.now then { s with autosave := s.autosave.cancel, due := s.due + 1 } else s

/-! ### Edits -/

def edit (s : Session) (e : Edit) : Session × Except Objection (Reply ⊕ Snapshot) :=
  let done := s.editor.runEdit s.mint e
  ({ s with editor := done.editor, mint := done.mint }.notify done.notices,done.reply)

def armAutosave (s : Session) : Session :=
  { s with autosave := s.autosave.arm s.now s.turn, turn := s.turn + 1 }

def dispatch (s : Session) (e : Edit) : Session × Except Objection (Reply ⊕ Snapshot) :=
  let (s,reply) := s.edit e
  match reply with
  | .ok _ => (if s.editor.dirty then s.armAutosave else s,reply)
  | .error _ => (s,reply)

/-! ### Typed text -/

def setText (s : Session) (text : String) : Session :=
  if Text.allBlank text then { s with text, typing := s.typing.cancel }
  else { s with text, typing := s.typing.arm s.now s.turn, turn := s.turn + 1 }

def applyTyped (s : Session) : Session := ({ s with typing := s.typing.cancel }.dispatch (.applyText (.str s.text))).1

def ringTyping (s : Session) : Session := if s.typing.isDue s.now then s.applyTyped else s

def saveNow (s : Session) : Session :=
  let s := if s.typing.pending then s.applyTyped else s
  { s with autosave := s.autosave.cancel }.flush true

def close (s : Session) : Session := { s with typing := s.typing.cancel, autosave := s.autosave.cancel }

end Session
end FormBuilder
