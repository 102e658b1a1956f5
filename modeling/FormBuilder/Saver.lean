import FormBuilder.Notice
/-! Saves that never overlap. A save asked for while one is running is not begun beside it: however
many are asked for, one more begins as soon as the running one has ended. -/
namespace FormBuilder

inductive SaveEvent where
  | asked
  | begun
  | ended (well : Bool)
  deriving DecidableEq, Repr

inductive SavePhase where
  | idle
  | running (trailing : Bool)
  deriving DecidableEq, Repr

structure Saver where
  phase : SavePhase
  saves : Nat
  lastError : Option String
  /-- Everything that has happened, latest first. -/
  log : List SaveEvent
  deriving DecidableEq, Repr

namespace Saver

def fresh : Saver := ⟨.idle,0,none,[]⟩

def inFlight (s : Saver) : Bool := s.phase != .idle

def request (s : Saver) : Saver × Bool :=
  match s.phase with
  | .idle => ({ s with phase := .running false, log := .begun :: .asked :: s.log },true)
  | .running _ => ({ s with phase := .running true, log := .asked :: s.log },false)

def noteEnd (s : Saver) : Except String Unit → Saver
  | .ok _ => { s with saves := s.saves + 1, lastError := none, log := .ended true :: s.log }
  | .error reason => { s with lastError := some reason, log := .ended false :: s.log }

def finish (s : Saver) (outcome : Except String Unit) : Saver × Bool :=
  let ended := s.noteEnd outcome
  match s.phase with
  | .running true => ({ ended with phase := .running false, log := .begun :: ended.log },true)
  | _ => ({ ended with phase := .idle },false)

def failure (reason : String) : Notice := ⟨.error,"Auto-save failed: " ++ reason⟩

def endNotices : Except String Unit → List Notice
  | .ok _ => []
  | .error reason => [failure reason]

end Saver
end FormBuilder
