/-! Tables over code points, written as compact hexadecimal text: sets of characters, letter
shifts and short replacement texts. -/
namespace FormBuilder.Text

def hexDigit (c : Char) : Nat :=
  if c.toNat ≤ 57 then c.toNat - 48 else c.toNat - 87

def hexStep (state : Array Nat × Nat × Bool) (c : Char) : Array Nat × Nat × Bool :=
  if c = ' ' ∨ c = '\n' then (if state.2.2 then state.1.push state.2.1 else state.1,0,false)
  else (state.1,state.2.1 * 16 + hexDigit c,true)

def hexWords (text : String) : Array Nat :=
  let final := text.foldl hexStep (#[],0,false)
  if final.2.2 then final.1.push final.2.1 else final.1

def lastAtMost (keys : Nat → Nat) (n : Nat) : (fuel low high : Nat) → Nat
  | 0,low,_ => low
  | fuel + 1,low,high =>
    if high ≤ low + 1 then low
    else
      let middle := (low + high) / 2
      if keys middle ≤ n then lastAtMost keys n fuel middle high else lastAtMost keys n fuel low middle

structure Ranges where
  intervals : Array (Nat × Nat)

namespace Ranges

def readWord (state : Array (Nat × Nat) × Nat × Option Nat) (n : Nat) : Array (Nat × Nat) × Nat × Option Nat :=
  match state.2.2 with
  | none => (state.1,state.2.1,some (state.2.1 + n))
  | some start => (state.1.push (start,start + n),start + n,none)

/-- Reads alternating distances: from the end of an interval to the next start, then to its end. -/
def ofText (text : String) : Ranges := ⟨((hexWords text).foldl readWord (#[],0,none)).1⟩

def contains (r : Ranges) (n : Nat) : Bool :=
  let i := lastAtMost (fun i => (r.intervals.getD i (0,0)).1) n 32 0 r.intervals.size
  match r.intervals[i]? with
  | some (low,high) => decide (low ≤ n) && decide (n ≤ high)
  | none => false

end Ranges

structure Shift where
  start : Nat
  count : Nat
  stride : Nat
  delta : Nat

structure Shifts where
  runs : Array Shift

namespace Shifts

def readWord (state : Array Shift × Nat × List Nat) (n : Nat) : Array Shift × Nat × List Nat :=
  match state.2.2 with
  | [stride,count,start] => (state.1.push ⟨start,count,stride,n⟩,start,[])
  | [] => (state.1,state.2.1,[state.2.1 + n])
  | partly => (state.1,state.2.1,n :: partly)

def ofText (text : String) : Shifts := ⟨((hexWords text).foldl readWord (#[],0,[])).1⟩

def apply (s : Shifts) (c : Char) : Char :=
  let n := c.toNat
  let i := lastAtMost (fun i => (s.runs.getD i ⟨0,0,1,0⟩).start) n 32 0 s.runs.size
  match s.runs[i]? with
  | some run =>
    if run.start ≤ n ∧ n < run.start + run.count * run.stride ∧ (n - run.start) % run.stride = 0 then
      Char.ofNat ((n + run.delta) % 0x110000)
    else c
  | none => c

end Shifts

structure Pieces where
  entries : Array (Nat × List Char)

namespace Pieces

def characters (n : Nat) : (fuel : Nat) → List Char
  | 0 => []
  | fuel + 1 => if n = 0 then [] else characters (n / 256) fuel ++ [Char.ofNat (n % 256)]

def ofText (text : String) : Pieces :=
  let step (state : Array (Nat × List Char) × Nat × Option Nat) (n : Nat) :=
    match state.2.2 with
    | none => (state.1,state.2.1 + n,some (state.2.1 + n))
    | some start => (state.1.push (start,characters n 32),state.2.1,none)
  ⟨((hexWords text).foldl step (#[],0,none)).1⟩

def find? (p : Pieces) (c : Char) : Option (List Char) :=
  let i := lastAtMost (fun i => (p.entries.getD i (0,[])).1) c.toNat 32 0 p.entries.size
  match p.entries[i]? with
  | some (key,text) => if key = c.toNat then some text else none
  | none => none

end Pieces
end FormBuilder.Text
