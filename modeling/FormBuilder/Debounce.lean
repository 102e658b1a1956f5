/-! A timer that waits for quiet: arming it again puts it off, and it goes off once its delay has
passed since it was last armed. -/
namespace FormBuilder

/-- A moment to go off at. Of two alarms for one moment the one with the smaller turn is first. -/
structure Alarm where
  due : Rat
  turn : Nat
  deriving DecidableEq, Repr

def Alarm.before (a b : Alarm) : Bool := decide (a.due < b.due) || (a.due == b.due && a.turn < b.turn)

structure Debounce where
  delay : Rat
  alarm : Option Alarm
  deriving DecidableEq, Repr

namespace Debounce

def idle (delay : Rat) : Debounce := ⟨delay,none⟩

def arm (d : Debounce) (now : Rat) (turn : Nat) : Debounce := { d with alarm := some ⟨now + d.delay,turn⟩ }

def cancel (d : Debounce) : Debounce := { d with alarm := none }

def pending (d : Debounce) : Bool := d.alarm.isSome

def isDue (d : Debounce) (now : Rat) : Bool :=
  match d.alarm with
  | none => false
  | some a => a.due ≤ now

def before (d other : Debounce) : Bool :=
  match d.alarm,other.alarm with
  | some a,some b => a.before b
  | some _,none => true
  | none,_ => false

def dueBy? (d : Debounce) (limit : Rat) : Option Rat := (d.alarm.map Alarm.due).filter (· ≤ limit)

end Debounce
end FormBuilder
