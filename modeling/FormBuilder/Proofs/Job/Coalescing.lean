import FormBuilder.Job
import FormBuilder.Proofs.Saver.History
/-! Saves of a job never overlap, and however many are asked for while one is running, one more follows it.
The numbers that a run of moves leads to are read off the log of the saves. -/
namespace FormBuilder
open Saver (History)

namespace Job

def asks (j : Job) : Move → Nat
  | .flushNow => 1
  | .serve => if j.due = 0 then 0 else 1
  | _ => 0

def requests (j : Job) : List Move → Nat
  | [] => 0
  | m :: rest => j.asks m + (j.move m).requests rest

def atOnce : Persistence → List SaveEvent
  | .stalled => []
  | .failing _ => [.ended false]
  | _ => [.ended true]

def asking (j : Job) : List SaveEvent := if j.inFlight then [.asked] else atOnce j.persistence ++ [.asked]

end Job
end FormBuilder
