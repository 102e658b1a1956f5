import FormBuilder.Editor
/-! Handing the form being edited over to wherever forms are kept. -/
namespace FormBuilder

inductive Persistence where
  | missing
  | accepting
  | failing (reason : String)
  /-- The form is taken, but whether that worked shows only later. -/
  | stalled
  deriving DecidableEq, Repr

inductive SaveFault where
  | noPersistence
  | invalid (faults : List Fault)
  | refused (reason : String)
  deriving Repr

namespace SaveFault

def message : SaveFault → String
  | noPersistence => "Editor has no persistence configured"
  | invalid faults =>
    toString faults.length ++ (if faults.length = 1 then " validation error" else " validation errors") ++
      " for FormSnapshot"
  | refused reason => reason

end SaveFault

namespace Editor

def handover (e : Editor) (p : Persistence) : Except SaveFault Snapshot :=
  if p = .missing then .error .noPersistence
  else
    match e.snapshot with
    | .error faults => .error (.invalid faults)
    | .ok snapshot => .ok snapshot

def save (e : Editor) (p : Persistence) : Editor × Except SaveFault Snapshot × List Notice :=
  match e.handover p,p with
  | .error fault,_ => (e,.error fault,[])
  | .ok _,.failing reason => (e,.error (.refused reason),e.collisionNotices)
  | .ok snapshot,_ => (e.completed e.revision,.ok snapshot,e.collisionNotices)

end Editor
end FormBuilder
