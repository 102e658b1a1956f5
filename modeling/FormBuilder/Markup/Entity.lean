import FormBuilder.Json
import FormBuilder.Markup.EntityData
/-! Character references: an ampersand with a name or a number, standing for other characters. -/
namespace FormBuilder.Markup
open FormBuilder.Text (isDigitAscii)

def splitBlanks : List Char → List (List Char)
  | [] => [[]]
  | c :: rest =>
    match splitBlanks rest with
    | [] => [[]]
    | first :: more => if c = ' ' ∨ c = '\n' then [] :: first :: more else (c :: first) :: more

def hexNumber (cs : List Char) : Nat := cs.foldl (fun n c => n * 16 + (Json.hexValue? c).getD 0) 0

def codePoints (cs : List Char) : List Char :=
  let first := cs.takeWhile (· != '+')
  match cs.drop first.length with
  | [] => [Char.ofNat (hexNumber first)]
  | _ :: second => [Char.ofNat (hexNumber first),Char.ofNat (hexNumber second)]

def entities : Array (String × List Char) :=
  let step (state : Array (String × List Char) × Option String) (word : List Char) :=
    match state.2 with
    | none => (state.1,some (String.ofList word))
    | some name => (state.1.push (name,codePoints word),none)
  (((splitBlanks entityText.toList).filter (!·.isEmpty)).foldl step (#[],none)).1

def lastName (name : String) : (fuel low high : Nat) → Nat
  | 0,low,_ => low
  | fuel + 1,low,high =>
    if high ≤ low + 1 then low
    else
      let middle := (low + high) / 2
      if name < (entities.getD middle ("",[])).1 then lastName name fuel low middle else lastName name fuel middle high

def entity? (name : List Char) : Option (List Char) :=
  let name := String.ofList name
  let found := entities.getD (lastName name 32 0 entities.size) ("",[])
  if found.1 = name then some found.2 else none

def longestName : Nat := 32

def longestEntity (cs : List Char) : (size : Nat) → Option (List Char × List Char)
  | 0 => none
  | size + 1 =>
    match (if size + 1 ≤ cs.length then entity? (cs.take (size + 1)) else none) with
    | some found => some (found,cs.drop (size + 1))
    | none => longestEntity cs size

def controlLetters : List Nat :=
  [0x20ac,0x81,0x201a,0x192,0x201e,0x2026,0x2020,0x2021,0x2c6,0x2030,0x160,0x2039,0x152,0x8d,
    0x17d,0x8f,0x90,0x2018,0x2019,0x201c,0x201d,0x2022,0x2013,0x2014,0x2dc,0x2122,0x161,0x203a,
    0x153,0x9d,0x17e,0x178]

def ofNumber (n : Nat) : Char :=
  if n = 0 ∨ 0x10ffff < n ∨ (0xd800 ≤ n ∧ n < 0xe000) then Char.ofNat 0xfffd
  else if 128 ≤ n ∧ n < 160 then Char.ofNat (controlLetters.getD (n - 128) n)
  else Char.ofNat n

def isHexDigit (c : Char) : Bool := (Json.hexValue? c).isSome

def numbered (radix : Nat) (digits rest : List Char) : List Char × List Char :=
  let n := digits.foldl (fun n c => Nat.min (n * radix + (Json.hexValue? c).getD 0) 0x110000) 0
  match rest with
  | ';' :: after => ([ofNumber n],after)
  | _ => ([ofNumber n],rest)

def reference? (cs : List Char) : Option (List Char × List Char) :=
  match cs with
  | '#' :: x :: rest =>
    if x = 'x' ∨ x = 'X' then
      let digits := rest.takeWhile isHexDigit
      if digits.isEmpty then none else some (numbered 16 digits (rest.drop digits.length))
    else
      let digits := (x :: rest).takeWhile isDigitAscii
      if digits.isEmpty then none else some (numbered 10 digits ((x :: rest).drop digits.length))
  | _ => longestEntity cs longestName

end FormBuilder.Markup
