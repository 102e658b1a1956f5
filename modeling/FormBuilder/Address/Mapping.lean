import FormBuilder.Address.MappingData
import FormBuilder.Text.Normal
/-! Host names as typed are mapped before anything else: capitals become small, full-width letters
narrow, other full stops plain dots; some characters drop out, and some are refused. -/
namespace FormBuilder.Address

inductive Mapped where
  | kept
  | dropped
  | refused
  | replaced (other : List Char)

def mappingRuns : Array (Nat × Mapped) :=
  let step (state : Array (Nat × Mapped) × Nat × Option (Nat × List Char) × Bool) (n : Nat) :=
    let (runs,start,pending,fresh) := state
    match pending with
    | some (left,text) =>
      let text := text ++ [Char.ofNat n]
      if left ≤ 1 then (runs.push (start,.replaced text),start,none,true) else (runs,start,some (left - 1,text),false)
    | none =>
      if fresh then (runs,start + n,none,false)
      else if n = 0 then (runs.push (start,.kept),start,none,true)
      else if n = 1 then (runs.push (start,.dropped),start,none,true)
      else if n = 2 then (runs.push (start,.refused),start,none,true)
      else if n = 3 then (runs.push (start,.replaced []),start,none,true)
      else (runs,start,some (n - 3,[]),false)
  (mappingWords.foldl step (#[],0,none,true)).1

def mappingOf (c : Char) : Mapped :=
  let i := Text.lastAtMost (fun i => (mappingRuns.getD i (0,.refused)).1) c.toNat 32 0 mappingRuns.size
  (mappingRuns.getD i (0,.refused)).2

def isKept (c : Char) : Bool :=
  match mappingOf c with
  | .kept => true
  | _ => false

def mapName : List Char → Option (List Char)
  | [] => some []
  | c :: rest =>
    match mappingOf c with
    | .kept => (mapName rest).map (c :: ·)
    | .dropped => mapName rest
    | .refused => none
    | .replaced text => (mapName rest).map (text ++ ·)

def remap (cs : List Char) : Option (List Char) := (mapName cs).map Text.normalChars

def splitDots : List Char → List (List Char)
  | [] => [[]]
  | c :: rest =>
    match splitDots rest with
    | [] => [[]]
    | first :: more => if c = '.' then [] :: first :: more else (c :: first) :: more

end FormBuilder.Address
