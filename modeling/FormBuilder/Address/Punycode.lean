/-! Host labels in ASCII: the plain letters first, then each other character as a jump in a walk
over positions and code points. -/
namespace FormBuilder.Address

def adaptLoop : (fuel delta k : Nat) → Nat
  | 0,delta,k => k + 36 * delta / (delta + 38)
  | fuel + 1,delta,k =>
    if 455 < delta then adaptLoop fuel (delta / 35) (k + 36) else k + 36 * delta / (delta + 38)

def adapt (delta points : Nat) (first : Bool) : Nat :=
  let delta := if first then delta / 700 else delta / 2
  adaptLoop 32 (delta + delta / points) 0

def threshold (k bias : Nat) : Nat := if k ≤ bias then 1 else if bias + 26 ≤ k then 26 else k - bias

def digitOf (c : Char) : Option Nat :=
  if 'a' ≤ c ∧ c ≤ 'z' then some (c.toNat - 97)
  else if 'A' ≤ c ∧ c ≤ 'Z' then some (c.toNat - 65)
  else if '0' ≤ c ∧ c ≤ '9' then some (c.toNat - 22)
  else none

def ofDigit (n : Nat) : Char := if n < 26 then Char.ofNat (n + 97) else Char.ofNat (n + 22)

def readJump (bias : Nat) : (weight k jump : Nat) → List Char → Option (Nat × List Char)
  | _,_,_,[] => none
  | weight,k,jump,c :: rest => do
    let digit ← digitOf c
    let jump := jump + digit * weight
    let t := threshold k bias
    if digit < t then some (jump,rest) else readJump bias (weight * (36 - t)) (k + 36) jump rest

def walk : (fuel code position bias : Nat) → (out : List Char) → List Char → Option (List Char)
  | _,_,_,_,out,[] => some out
  | 0,_,_,_,_,_ => none
  | fuel + 1,code,position,bias,out,digits => do
    let (jump,rest) ← readJump bias 1 36 0 digits
    let size := out.length + 1
    let reached := position + jump
    let code := code + reached / size
    let place := reached % size
    if 0x10ffff < code ∨ (0xd800 ≤ code ∧ code < 0xe000) then none
    else
      walk fuel code (place + 1) (adapt jump size (out.length == (out.filter (fun c => c.toNat < 128)).length))
        (out.take place ++ Char.ofNat code :: out.drop place) rest

def punycodeDecode (cs : List Char) : Option (List Char) :=
  let tail := (cs.reverse.takeWhile (· != '-')).reverse
  let plain := (cs.take (cs.length - tail.length)).dropLast
  if !plain.all (fun c => c.toNat < 128) then none else walk (cs.length + 1) 128 0 72 plain tail

def writeJump (bias : Nat) : (fuel k q : Nat) → List Char
  | 0,_,q => [ofDigit q]
  | fuel + 1,k,q =>
    let t := threshold k bias
    if q < t then [ofDigit q] else ofDigit (t + (q - t) % (36 - t)) :: writeJump bias fuel (k + 36) ((q - t) / (36 - t))

def writePass (code : Nat) : (cs : List Char) → (delta handled bias : Nat) → (first : Bool) →
    List Char × Nat × Nat × Nat × Bool
  | [],delta,handled,bias,first => ([],delta,handled,bias,first)
  | c :: rest,delta,handled,bias,first =>
    if c.toNat < code then writePass code rest (delta + 1) handled bias first
    else if c.toNat = code then
      let (tail,state) := writePass code rest 0 (handled + 1) (adapt delta (handled + 1) first) false
      (writeJump bias 64 36 delta ++ tail,state)
    else writePass code rest delta handled bias first

def writePasses (label : List Char) : (fuel code delta handled bias : Nat) → (first : Bool) → List Char
  | 0,_,_,_,_,_ => []
  | fuel + 1,code,delta,handled,bias,first =>
    match ((label.map Char.toNat).filter (fun n => code ≤ n)).min? with
    | none => []
    | some next =>
      let (written,delta,handled,bias,first) :=
        writePass next label (delta + (next - code) * (handled + 1)) handled bias first
      written ++ writePasses label fuel (next + 1) (delta + 1) handled bias first

def punycodeEncode (label : List Char) : List Char :=
  let plain := label.filter (fun c => c.toNat < 128)
  plain ++ (if plain.isEmpty then [] else ['-']) ++ writePasses label (label.length + 1) 128 0 plain.length 72 true

end FormBuilder.Address
