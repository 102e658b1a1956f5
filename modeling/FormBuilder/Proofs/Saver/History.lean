import FormBuilder.Saver
/-! What the log of saves tells, and the laws of it: never is more than one save underway, and an end is
followed by a beginning at once exactly if somebody asked for a save since the one that ended began. -/
namespace FormBuilder.Saver

theorem requestIdle {s : Saver} (idle : s.phase = .idle) :
    s.request = ({ s with phase := .running false, log := .begun :: .asked :: s.log },true) := by
  simp only [request,idle]

theorem requestRunning {s : Saver} {trailing} (running : s.phase = .running trailing) :
    s.request = ({ s with phase := .running true, log := .asked :: s.log },false) := by
  simp only [request,running]

theorem finishPhase (s : Saver) (outcome) :
    (s.phase = .running true ∧ (s.finish outcome).1.phase = .running false ∧ (s.finish outcome).2 = true) ∨
    (s.phase ≠ .running true ∧ (s.finish outcome).1.phase = .idle ∧ (s.finish outcome).2 = false) := by
  unfold finish
  split
  · rename_i phase
    exact .inl ⟨phase,rfl,rfl⟩
  · rename_i phase
    exact .inr ⟨phase,rfl,rfl⟩

-- Logs are read backwards: the tail of a log is the log as it was earlier.
def isEnd : SaveEvent → Bool
  | .ended _ => true
  | _ => false

def begun (log : List SaveEvent) : Nat := log.count .begun

def ends (log : List SaveEvent) : Nat := log.countP isEnd

@[simp]
theorem begunCons (e log) : begun (e :: log) = begun log + if e = .begun then 1 else 0 := by
  simp [begun,List.count_cons]

@[simp]
theorem endsCons (e log) : ends (e :: log) = ends log + if isEnd e then 1 else 0 := List.countP_cons

def arrived : List SaveEvent → Bool
  | [] => false
  | .begun :: _ => false
  | .asked :: _ => true
  | .ended _ :: past => arrived past

inductive History : List SaveEvent → SavePhase → Prop where
  | fresh : History [] .idle
  | first {log} (before : History log .idle) : History (.begun :: .asked :: log) (.running false)
  | flagged {log trailing} (before : History log (.running trailing)) :
      History (.asked :: log) (.running true)
  | followed {log} (well : Bool) (before : History log (.running true)) :
      History (.begun :: .ended well :: log) (.running false)
  | landed {log} (well : Bool) (before : History log (.running false)) : History (.ended well :: log) .idle

-- A log at any moment, also between the two events of one step.
inductive Moment : List SaveEvent → Prop where
  | settled {log phase} (history : History log phase) : Moment log
  | asking {log} (before : History log .idle) : Moment (.asked :: log)
  | ending {log} (well : Bool) (before : History log (.running true)) : Moment (.ended well :: log)

end FormBuilder.Saver
