import FormBuilder.Debounce
import FormBuilder.Saver
import FormBuilder.Saving
/-! A debounced job in time: a plain count, a task that may take its while, or a save. -/
namespace FormBuilder

inductive JobKind where
  | count
  | task
  | save
  deriving DecidableEq, Repr

structure Job where
  kind : JobKind
  timer : Debounce
  saver : Saver
  persistence : Persistence
  now : Rat
  turn : Nat
  calls : Nat
  /-- Saves that the timer asks for and whose turn has not come. -/
  due : Nat
  held : Nat
  byTimer : Bool
  waits : Nat
  notices : List Notice
  deriving Repr

namespace Job

def start (kind : JobKind) (delay : Rat) : Job :=
  ⟨kind,.idle delay,.fresh,.accepting,0,0,0,0,0,false,0,[]⟩

def inFlight (j : Job) : Bool := j.saver.inFlight

def waiting (j : Job) : Nat := j.waits + (if j.inFlight && !j.byTimer then 1 else 0)

def endSave (j : Job) (outcome : Except String Unit) : Job × Bool :=
  let (saver,again) := j.saver.finish outcome
  ({ j with saver, waits := if again then j.waits else 0, notices := j.notices ++ Saver.endNotices outcome },again)

def beginSave (j : Job) : Job :=
  let j := { j with calls := j.calls + 1 }
  match j.persistence with
  | .stalled => j
  | .failing reason => (j.endSave (.error reason)).1
  | _ => (j.endSave (.ok ())).1

def flush (j : Job) (byTimer : Bool) : Job :=
  let (saver,begins) := j.saver.request
  if begins then { j with saver, byTimer }.beginSave else { j with saver }

/-! ### What can happen at one moment -/

def run (j : Job) : Job :=
  match j.kind with
  | .count => { j with calls := j.calls + 1 }
  | .task => { j with calls := j.calls + 1, held := if j.persistence = .stalled then j.held + 1 else j.held }
  | .save => { j with due := j.due + 1 }

def rearm (j : Job) : Job := { j with timer := j.timer.arm j.now j.turn, turn := j.turn + 1 }

def cancel (j : Job) : Job := { j with timer := j.timer.cancel }

def ring (j : Job) : Job := if j.timer.isDue j.now then j.cancel.run else j

def serve (j : Job) : Job :=
  match j.due with
  | 0 => j
  | due + 1 => { j with due }.flush true

def flushNow (j : Job) : Job := j.cancel.flush false

def resume (j : Job) (outcome : Except String Unit) : Job :=
  if j.inFlight then
    let (j,again) := j.endSave outcome
    if again then j.beginSave else j
  else j

inductive Move where
  | rearm
  | cancel
  | flushNow
  | setPersistence (p : Persistence)
  | resume (outcome : Except String Unit)
  | ring
  | serve
  | pass (duration : Rat)

def move (j : Job) : Move → Job
  | .rearm => j.rearm
  | .cancel => j.cancel
  | .flushNow => j.flushNow
  | .setPersistence p => { j with persistence := p }
  | .resume outcome => j.resume outcome
  | .ring => j.ring
  | .serve => j.serve
  | .pass duration => { j with now := j.now + duration }

def play (j : Job) (moves : List Move) : Job := moves.foldl move j

/-! ### Whatever is due happens at once -/

def goOff (j : Job) : Job := j.ring.serve

def arm (j : Job) : Job := j.rearm.goOff

def fire (j : Job) : Job := j.cancel.run.serve

def wait (j : Job) : Job :=
  if 0 < j.held || (j.inFlight && j.byTimer) then { j with waits := j.waits + 1 } else j

def release (j : Job) : Job :=
  match j.kind with
  | .save => j.resume (.ok ())
  | _ => { j with held := 0, waits := 0 }

def advance (j : Job) (duration : Rat) : Job :=
  let limit := j.now + duration
  let j := match j.timer.dueBy? limit with
    | none => j
    | some moment => { j with now := moment }.goOff
  { j with now := limit }.goOff

end Job
end FormBuilder
