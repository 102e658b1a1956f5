import FormBuilder.Text.NormalData
/-! The composed normal form of a text: characters are taken apart, marks sorted by class, and what
composes is put together again. -/
namespace FormBuilder.Text

structure Decomposition where
  whole : Nat
  first : Nat
  second : Nat
  composes : Bool

def decompositions : Array Decomposition :=
  let step (state : Array Decomposition × Nat × List Nat) (n : Nat) :=
    match state.2.2 with
    | [first,whole] => (state.1.push ⟨whole,first,n / 2,n % 2 = 1⟩,whole,[])
    | [] => (state.1,state.2.1,[state.2.1 + n])
    | partly => (state.1,state.2.1,n :: partly)
  (decompositionWords.foldl step (#[],0,[])).1

def classRuns : Array (Nat × Nat × Nat) :=
  let step (state : Array (Nat × Nat × Nat) × Nat × List Nat) (n : Nat) :=
    match state.2.2 with
    | [last,first] => (state.1.push (first,last,n),last,[])
    | [first] => (state.1,state.2.1,[first + n,first])
    | _ => (state.1,state.2.1,[state.2.1 + n])
  (classWords.foldl step (#[],0,[])).1

def combiningClass (c : Char) : Nat :=
  let n := c.toNat
  let i := lastAtMost (fun i => (classRuns.getD i (0,0,0)).1) n 32 0 classRuns.size
  match classRuns[i]? with
  | some (first,last,k) => if first ≤ n ∧ n ≤ last then k else 0
  | none => 0

def syllableLetters (n : Nat) : List Char :=
  let s := n - 0xac00
  let front := [Char.ofNat (0x1100 + s / 588),Char.ofNat (0x1161 + s % 588 / 28)]
  if s % 28 = 0 then front else front ++ [Char.ofNat (0x11a7 + s % 28)]

def decompose : (fuel : Nat) → Char → List Char
  | 0,c => [c]
  | fuel + 1,c =>
    let n := c.toNat
    if n < 0xc0 then [c]
    else if 0xac00 ≤ n ∧ n ≤ 0xd7a3 then syllableLetters n
    else
      let i := lastAtMost (fun i => (decompositions.getD i ⟨0,0,0,false⟩).whole) n 32 0 decompositions.size
      match decompositions[i]? with
      | some d =>
        if d.whole = n then
          decompose fuel (Char.ofNat d.first) ++ (if d.second = 0 then [] else decompose fuel (Char.ofNat d.second))
        else [c]
      | none => [c]

def placeMark (c : Char) (k : Nat) : List Char → List Char
  | [] => [c]
  | d :: rest => if k ≠ 0 ∧ k < combiningClass d then d :: placeMark c k rest else c :: d :: rest

def decomposed (cs : List Char) : List Char :=
  ((cs.flatMap (decompose 8)).foldl (fun out c => placeMark c (combiningClass c) out) []).reverse

def composingPairs : Array Decomposition := decompositions.filter (·.composes)

def composePair (a b : Char) : Option Char :=
  let x := a.toNat
  let y := b.toNat
  if 0x1100 ≤ x ∧ x ≤ 0x1112 ∧ 0x1161 ≤ y ∧ y ≤ 0x1175 then
    some (Char.ofNat (0xac00 + ((x - 0x1100) * 21 + (y - 0x1161)) * 28))
  else if 0xac00 ≤ x ∧ x ≤ 0xd7a3 ∧ (x - 0xac00) % 28 = 0 ∧ 0x11a8 ≤ y ∧ y ≤ 0x11c2 then
    some (Char.ofNat (x + (y - 0x11a7)))
  else (composingPairs.find? (fun d => d.first == x && d.second == y)).map (fun d => Char.ofNat d.whole)

def compose (base : Char) (marks : List Char) (nearest : Nat) : List Char → List Char
  | [] => base :: marks.reverse
  | c :: rest =>
    let k := combiningClass c
    let joined := if marks.isEmpty || nearest < k then composePair base c else none
    match joined with
    | some p => compose p marks nearest rest
    | none =>
      if k = 0 then base :: marks.reverse ++ compose c [] 0 rest
      else compose base (c :: marks) k rest

def normalChars (cs : List Char) : List Char :=
  if cs.all (fun c => c.toNat < 0x300) then cs
  else
    let cs := decomposed cs
    let leading := cs.takeWhile (fun c => combiningClass c ≠ 0)
    match cs.drop leading.length with
    | [] => leading
    | base :: rest => leading ++ compose base [] 0 rest

end FormBuilder.Text
