import FormBuilder.Session.Basic
/-! Sessions in time. A move is the least that can happen to a session; moves come in any order. An
act is a move from outside after which everything that is due happens at once, and the clock moves only
when told to. -/
namespace FormBuilder

inductive Move where
  | dispatch (e : Edit)
  | setText (text : String)
  | saveNow
  | close
  | setPersistence (p : Persistence)
  | resume (outcome : Except SaveFault Unit)
  | ringTyping
  | ringAutosave
  | serve
  | pass (duration : Rat)

inductive Act where
  | dispatch (e : Edit)
  | direct (e : Edit)
  | amend (change : Editor → Editor)
  | setText (text : String)
  | saveNow
  | close
  | setPersistence (p : Persistence)
  | release
  | advance (duration : Rat)

namespace Session

def move (s : Session) : Move → Session
  | .dispatch e => (s.dispatch e).1
  | .setText text => s.setText text
  | .saveNow => s.saveNow
  | .close => s.close
  | .setPersistence p => { s with persistence := p }
  | .resume outcome => s.resume outcome
  | .ringTyping => s.ringTyping
  | .ringAutosave => s.ringAutosave
  | .serve => s.serve
  | .pass duration => { s with now := s.now + duration }

def play (s : Session) (moves : List Move) : Session := moves.foldl move s

def typingFirst (s : Session) : Bool := s.typing.isDue s.now && s.typing.before s.autosave

def goOff (s : Session) : Session :=
  (if s.typingFirst then s else s.ringAutosave).ringTyping.serve

/-- Everything that is due at this moment. Applied text may make a save due at once, and nothing
comes of a save, so two rounds are enough. -/
def settle (s : Session) : Session := s.goOff.goOff

def nextDue? (s : Session) (limit : Rat) : Option Rat :=
  match s.typing.dueBy? limit,s.autosave.dueBy? limit with
  | some a,some b => some (if a ≤ b then a else b)
  | some a,none => some a
  | none,b => b

def stop (limit : Rat) (s : Session) : Session :=
  match s.nextDue? limit with
  | none => s
  | some moment => { s with now := moment }.settle

/-- Lets time pass. Three stops are enough: a save, the typed text, and the save that this asks for. -/
def advance (s : Session) (duration : Rat) : Session :=
  let limit := s.now + duration
  { stop limit (stop limit (stop limit s)) with now := limit }.settle

def act (s : Session) : Act → Session × Except Objection (Reply ⊕ Snapshot)
  | .dispatch e => let (s,reply) := s.dispatch e; (s.settle,reply)
  | .direct e => let (s,reply) := s.edit e; (s.settle,reply)
  | .amend change => ({ s with editor := change s.editor }.settle,.ok (.inl .nothing))
  | .setText text => ((s.setText text).settle,.ok (.inl .nothing))
  | .saveNow => (s.saveNow.settle,.ok (.inl .nothing))
  | .close => (s.close.settle,.ok (.inl .nothing))
  | .setPersistence p => ({ s with persistence := p }.settle,.ok (.inl .nothing))
  | .release => ((s.resume (.ok ())).settle,.ok (.inl .nothing))
  | .advance duration => (s.advance duration,.ok (.inl .nothing))

end Session
end FormBuilder
