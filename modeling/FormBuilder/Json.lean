import FormBuilder.Decimal.Numeral
import FormBuilder.Value
/-! Values as JSON text. Reading stops at the first character that cannot be right and says where;
`NaN`, `Infinity` and `-Infinity` are accepted, and a repeated key keeps its last value. -/
namespace FormBuilder.Json
open FormBuilder.Text (isDigitAscii hexText)

abbrev Scan (α : Type) := Except Nat (α × List Char)

def isGap (c : Char) : Bool := c = ' ' || c = '\t' || c = '\n' || c = '\r'

def skip (cs : List Char) : List Char := cs.dropWhile isGap

def hexValue? (c : Char) : Option Nat :=
  if isDigitAscii c then some (c.toNat - 48)
  else if 'a' ≤ c ∧ c ≤ 'f' then some (c.toNat - 87)
  else if 'A' ≤ c ∧ c ≤ 'F' then some (c.toNat - 55)
  else none

def hexUnit? : List Char → Option (Nat × List Char)
  | a :: b :: c :: d :: next :: rest => do
    let a ← hexValue? a
    let b ← hexValue? b
    let c ← hexValue? c
    let d ← hexValue? d
    some (((a * 16 + b) * 16 + c) * 16 + d,next :: rest)
  | _ => none

def isHighUnit (n : Nat) : Bool := 0xd800 ≤ n && n < 0xdc00
def isLowUnit (n : Nat) : Bool := 0xdc00 ≤ n && n < 0xe000

def unitChar (n : Nat) : Char := if 0xd800 ≤ n ∧ n < 0xe000 then Char.ofNat 0xfffd else Char.ofNat n

def unicodeEscape (cs : List Char) : Scan Char :=
  match hexUnit? cs with
  | none => .error (cs.length + 1)
  | some (n,rest) =>
    if isHighUnit n then
      match rest with
      | '\\' :: 'u' :: more =>
        if more.length < 5 then .ok (unitChar n,rest)
        else
          match hexUnit? more with
          | none => .error (more.length + 1)
          | some (low,after) =>
            if isLowUnit low then .ok (Char.ofNat (0x10000 + (n - 0xd800) * 1024 + (low - 0xdc00)),after)
            else .ok (unitChar n,rest)
      | _ => .ok (unitChar n,rest)
    else .ok (unitChar n,rest)

def simpleEscape? : Char → Option Char
  | '"' => some '"'
  | '\\' => some '\\'
  | '/' => some '/'
  | 'b' => some '\x08'
  | 'f' => some '\x0c'
  | 'n' => some '\n'
  | 'r' => some '\r'
  | 't' => some '\t'
  | _ => none

def scanString (opening : Nat) : (fuel : Nat) → List Char → Scan (List Char)
  | 0,cs => .error cs.length
  | _ + 1,[] => .error opening
  | fuel + 1,c :: rest =>
    if c = '"' then .ok ([],rest)
    else if c = '\\' then
      match rest with
      | [] => .error opening
      | 'u' :: more =>
        match unicodeEscape more with
        | .error e => .error e
        | .ok (u,after) => (scanString opening fuel after).map (fun r => (u :: r.1,r.2))
      | e :: more =>
        match simpleEscape? e with
        | none => .error (rest.length + 1)
        | some u => (scanString opening fuel more).map (fun r => (u :: r.1,r.2))
    else if c.toNat < 32 then .error (rest.length + 1)
    else (scanString opening fuel rest).map (fun r => (c :: r.1,r.2))

def scanText (cs : List Char) : Scan String :=
  (scanString (cs.length + 1) (cs.length + 1) cs).map (fun r => (String.ofList r.1,r.2))

def wholeDigits : List Char → List Char
  | '0' :: _ => ['0']
  | cs => cs.takeWhile isDigitAscii

def fractionDigits : List Char → List Char
  | '.' :: rest => rest.takeWhile isDigitAscii
  | _ => []

def exponentPart : List Char → List Char
  | mark :: rest =>
    if mark = 'e' ∨ mark = 'E' then
      let sign := match rest with
        | '+' :: _ => ['+']
        | '-' :: _ => ['-']
        | _ => []
      let digits := (rest.drop sign.length).takeWhile isDigitAscii
      if digits.isEmpty then [] else mark :: sign ++ digits
    else []
  | [] => []

def scanNumber (cs : List Char) : Scan Value :=
  let sign := if cs.head? = some '-' then ['-'] else []
  let body := cs.drop sign.length
  let whole := wholeDigits body
  if whole.isEmpty then .error cs.length
  else
    let rest := body.drop whole.length
    let fraction := fractionDigits rest
    let point := if fraction.isEmpty then [] else '.' :: fraction
    let rest := rest.drop point.length
    let exponent := exponentPart rest
    match Numeral.read? (sign ++ whole ++ point ++ exponent) with
    | none => .error cs.length
    | some n => .ok (if n.plain then .int n.toInt else .float n.toDouble,rest.drop exponent.length)

def words : List (String × Value) :=
  [("null",.null),("true",.bool true),("false",.bool false),("NaN",.float .nan),
    ("Infinity",.float (.infinite false)),("-Infinity",.float (.infinite true))]

def scanWord (cs : List Char) : Option (Value × List Char) :=
  words.findSome? (fun w => if w.1.toList.isPrefixOf cs then some (w.2,cs.drop w.1.length) else none)

mutual
def scanValue : (fuel : Nat) → List Char → Scan Value
  | 0,cs => .error cs.length
  | fuel + 1,cs =>
    match cs with
    | '"' :: rest => (scanText rest).map (fun r => (.str r.1,r.2))
    | '[' :: rest =>
      match skip rest with
      | ']' :: after => .ok (.list [],after)
      | start => (scanItems fuel start).map (fun r => (.list r.1,r.2))
    | '{' :: rest =>
      match skip rest with
      | '}' :: after => .ok (.object [],after)
      | start => (scanMembers fuel start).map (fun r => (.object (Object.ofEntries r.1),r.2))
    | _ =>
      match scanWord cs with
      | some r => .ok r
      | none => scanNumber cs

def scanItems : (fuel : Nat) → List Char → Scan (List Value)
  | 0,cs => .error cs.length
  | fuel + 1,cs =>
    match scanValue fuel cs with
    | .error e => .error e
    | .ok (v,rest) =>
      match skip rest with
      | ']' :: after => .ok ([v],after)
      | ',' :: more => (scanItems fuel (skip more)).map (fun r => (v :: r.1,r.2))
      | other => .error other.length

def scanMembers : (fuel : Nat) → List Char → Scan (List (String × Value))
  | 0,cs => .error cs.length
  | fuel + 1,cs =>
    match cs with
    | '"' :: rest =>
      match scanText rest with
      | .error e => .error e
      | .ok (key,rest) =>
        match skip rest with
        | ':' :: rest =>
          match scanValue fuel (skip rest) with
          | .error e => .error e
          | .ok (v,rest) =>
            match skip rest with
            | '}' :: after => .ok ([(key,v)],after)
            | ',' :: more => (scanMembers fuel (skip more)).map (fun r => ((key,v) :: r.1,r.2))
            | other => .error other.length
        | other => .error other.length
    | other => .error other.length
end

def read (text : String) : Except Nat Value :=
  let cs := text.toList
  if cs.head?.any (fun c => c.toNat = 0xfeff) then .error 0
  else
    match scanValue (2 * cs.length + 2) (skip cs) with
    | .error left => .error (cs.length - left)
    | .ok (v,rest) => if (skip rest).isEmpty then .ok v else .error (cs.length - (skip rest).length)

/-! ### Writing -/

def escapeChar (c : Char) : List Char :=
  match c with
  | '"' => ['\\','"']
  | '\\' => ['\\','\\']
  | '\n' => ['\\','n']
  | '\r' => ['\\','r']
  | '\t' => ['\\','t']
  | '\x08' => ['\\','b']
  | '\x0c' => ['\\','f']
  | c => if c.toNat < 32 then '\\' :: 'u' :: hexText 4 c.toNat else [c]

def quote (s : String) : String := String.ofList ('"' :: s.toList.flatMap escapeChar ++ ['"'])

def numberText : Double → String
  | .nan => "NaN"
  | .infinite negative => if negative then "-Infinity" else "Infinity"
  | x => Shortest.text x

inductive Layout where
  | oneLine
  | indented (depth : Nat)

namespace Layout

def inside : Layout → Layout
  | oneLine => oneLine
  | indented depth => indented (depth + 1)

def newline : Layout → String
  | oneLine => ""
  | indented depth => String.ofList ('\n' :: List.replicate (2 * depth) ' ')

def separator : Layout → String
  | oneLine => ", "
  | l => "," ++ l.newline

end Layout

mutual
def write (l : Layout) : Value → String
  | .null => "null"
  | .bool b => if b then "true" else "false"
  | .int n => toString n
  | .float x => numberText x
  | .str s => quote s
  | .list [] => "[]"
  | .list items => "[" ++ l.inside.newline ++ l.inside.separator.intercalate (writeItems l.inside items) ++ l.newline ++ "]"
  | .object [] => "\x7b\x7d"
  | .object entries =>
    "\x7b" ++ l.inside.newline ++ l.inside.separator.intercalate (writeMembers l.inside entries) ++ l.newline ++ "\x7d"

def writeItems (l : Layout) : List Value → List String
  | [] => []
  | v :: rest => write l v :: writeItems l rest

def writeMembers (l : Layout) : List (String × Value) → List String
  | [] => []
  | (k,v) :: rest => (quote k ++ ": " ++ write l v) :: writeMembers l rest
end

end FormBuilder.Json
