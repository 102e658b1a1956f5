import FormBuilder.Json
import FormBuilder.Time.Calendar
import FormBuilder.Toml.Document
/-! The words and values of a TOML document. Each scanner takes the text from where it starts and
gives back what it read with the text after it. -/
namespace FormBuilder.Toml
open FormBuilder.Text (isDigitAscii)
open FormBuilder.Json (hexValue?)

def isGap (c : Char) : Bool := c = ' ' || c = '\t'

def skipGaps (cs : List Char) : List Char := cs.dropWhile isGap

def isForbidden (c : Char) : Bool := (c.toNat < 32 && c != '\t') || c.toNat = 127

def skipComment : List Char → Option (List Char)
  | '#' :: rest =>
    let comment := rest.takeWhile (· != '\n')
    if comment.any isForbidden then none else some (rest.drop comment.length)
  | cs => some cs

def skipBetween : (fuel : Nat) → List Char → Option (List Char)
  | 0,cs => some cs
  | fuel + 1,cs =>
    let cs := cs.dropWhile (fun c => isGap c || c = '\n')
    match cs with
    | '#' :: _ => (skipComment cs).bind (skipBetween fuel)
    | _ => some cs

/-! ### Strings -/

def escapeOf? : Char → Option Char
  | 'b' => some '\x08'
  | 't' => some '\t'
  | 'n' => some '\n'
  | 'f' => some '\x0c'
  | 'r' => some '\r'
  | '"' => some '"'
  | '\\' => some '\\'
  | _ => none

def hexChar (count : Nat) (cs : List Char) : Option (Char × List Char) :=
  let digits := cs.take count
  match digits.mapM hexValue? with
  | none => none
  | some values =>
    let n := values.foldl (fun n d => n * 16 + d) 0
    if digits.length = count ∧ n.isValidChar then some (Char.ofNat n,cs.drop count) else none

def escaped (multiline : Bool) : List Char → Option (List Char × List Char)
  | 'u' :: rest => (hexChar 4 rest).map (fun r => ([r.1],r.2))
  | 'U' :: rest => (hexChar 8 rest).map (fun r => ([r.1],r.2))
  | [] => none
  | c :: rest =>
    if multiline && (isGap c || c = '\n') then
      match skipGaps (c :: rest) with
      | '\n' :: more => some ([],more.dropWhile (fun c => isGap c || c = '\n'))
      | [] => some ([],[])
      | _ => none
    else (escapeOf? c).map (fun e => ([e],rest))

def basicText (multiline : Bool) : (fuel : Nat) → List Char → Option (List Char × List Char)
  | 0,_ => none
  | _ + 1,[] => none
  | fuel + 1,c :: rest =>
    if c = '"' then
      if !multiline then some ([],rest)
      else
        match rest with
        | '"' :: '"' :: after => some ([],after)
        | _ => (basicText multiline fuel rest).map (fun r => (c :: r.1,r.2))
    else if c = '\\' then do
      let (cs,rest) ← escaped multiline rest
      let (more,rest) ← basicText multiline fuel rest
      some (cs ++ more,rest)
    else if isForbidden c && !(multiline && c = '\n') then none
    else (basicText multiline fuel rest).map (fun r => (c :: r.1,r.2))

def literalText (multiline : Bool) : List Char → Option (List Char × List Char)
  | [] => none
  | c :: rest =>
    let more := (literalText multiline rest).map (fun r => (c :: r.1,r.2))
    if c = '\'' then
      if !multiline then some ([],rest)
      else
        match rest with
        | '\'' :: '\'' :: after => some ([],after)
        | _ => more
    else if isForbidden c && !(multiline && c = '\n') then none
    else more

def closing (quote : Char) (text : List Char) (rest : List Char) : List Char × List Char :=
  match rest with
  | a :: b :: more =>
    if a = quote then (if b = quote then (text ++ [quote,quote],more) else (text ++ [quote],b :: more)) else (text,rest)
  | [a] => if a = quote then (text ++ [quote],[]) else (text,rest)
  | [] => (text,[])

def dropFirstLineEnd : List Char → List Char
  | '\n' :: rest => rest
  | cs => cs

def lineText : List Char → Option (List Char × List Char)
  | '"' :: rest => basicText false (rest.length + 1) rest
  | '\'' :: rest => literalText false rest
  | _ => none

def text : List Char → Option (List Char × List Char)
  | '"' :: '"' :: '"' :: rest =>
    let rest := dropFirstLineEnd rest
    (basicText true (rest.length + 1) rest).map (fun r => closing '"' r.1 r.2)
  | '\'' :: '\'' :: '\'' :: rest => (literalText true (dropFirstLineEnd rest)).map (fun r => closing '\'' r.1 r.2)
  | cs => lineText cs

/-! ### Keys -/

def isBare (c : Char) : Bool := c.isAlphanum || c = '-' || c = '_'

def keyPart (cs : List Char) : Option (String × List Char) :=
  let bare := cs.takeWhile isBare
  if bare.isEmpty then (lineText cs).map (fun r => (String.ofList r.1,r.2))
  else some (String.ofList bare,cs.drop bare.length)

def key : (fuel : Nat) → List Char → Option (List String × List Char)
  | 0,_ => none
  | fuel + 1,cs => do
    let (part,rest) ← keyPart cs
    match skipGaps rest with
    | '.' :: more =>
      let (parts,rest) ← key fuel (skipGaps more)
      some (part :: parts,rest)
    | rest => some ([part],rest)

/-! ### Numbers and dates -/

def digitRun (isDigit : Char → Bool) : List Char → List Char × List Char
  | [] => ([],[])
  | [c] => if isDigit c then ([c],[]) else ([],[c])
  | c :: d :: rest =>
    if !isDigit c then ([],c :: d :: rest)
    else if d = '_' then
      if rest.head?.any isDigit then
        let (digits,after) := digitRun isDigit rest
        (c :: digits,after)
      else ([c],d :: rest)
    else
      let (digits,after) := digitRun isDigit (d :: rest)
      (c :: digits,after)

def basedNumber (base : Nat) (isDigit : Char → Bool) (cs : List Char) : Option (Value × List Char) :=
  match digitRun isDigit cs with
  | ([],_) => none
  | (digits,rest) => some (.int (digits.foldl (fun (n : Nat) c => n * base + (hexValue? c).getD 0) 0 : Nat),rest)

def fraction : List Char → List Char × List Char
  | '.' :: rest =>
    match digitRun isDigitAscii rest with
    | ([],_) => ([],'.' :: rest)
    | (digits,after) => ('.' :: digits,after)
  | cs => ([],cs)

def exponent (cs : List Char) : List Char × List Char :=
  match cs with
  | mark :: rest =>
    if mark = 'e' ∨ mark = 'E' then
      let sign := rest.take (if rest.head? = some '+' ∨ rest.head? = some '-' then 1 else 0)
      match digitRun isDigitAscii (rest.drop sign.length) with
      | ([],_) => ([],cs)
      | (digits,after) => (mark :: sign ++ digits,after)
    else ([],cs)
  | [] => ([],[])

def decimalNumber (cs : List Char) : Option (Value × List Char) :=
  let sign := cs.take (if cs.head? = some '+' ∨ cs.head? = some '-' then 1 else 0)
  let body := cs.drop sign.length
  let (whole,rest) := if body.head? = some '0' then (['0'],body.drop 1) else digitRun isDigitAscii body
  if whole.isEmpty then none
  else
    let (fraction,rest) := fraction rest
    let (exponent,rest) := exponent rest
    (Numeral.read? (sign ++ whole ++ fraction ++ exponent)).map fun n =>
      (if fraction.isEmpty && exponent.isEmpty then .int n.toInt else .float n.toDouble,rest)

def number : List Char → Option (Value × List Char)
  | '0' :: 'x' :: rest => (basedNumber 16 (fun c => (hexValue? c).isSome) rest).orElse (fun _ => some (.int 0,'x' :: rest))
  | '0' :: 'o' :: rest => (basedNumber 8 (fun c => '0' ≤ c ∧ c ≤ '7') rest).orElse (fun _ => some (.int 0,'o' :: rest))
  | '0' :: 'b' :: rest => (basedNumber 2 (fun c => c = '0' ∨ c = '1') rest).orElse (fun _ => some (.int 0,'b' :: rest))
  | cs => decimalNumber cs

def twoDigits (least most : Nat) : List Char → Option (Nat × List Char)
  | a :: b :: rest =>
    if isDigitAscii a && isDigitAscii b then
      let n := (a.toNat - 48) * 10 + (b.toNat - 48)
      if least ≤ n ∧ n ≤ most then some (n,rest) else none
    else none
  | _ => none

def expect (c : Char) : List Char → Option (List Char)
  | [] => none
  | d :: rest => if c = d then some rest else none

def skipTime (cs : List Char) : Option (List Char) := do
  let (_,cs) ← twoDigits 0 23 cs
  let (_,cs) ← twoDigits 0 59 (← expect ':' cs)
  let (_,cs) ← twoDigits 0 59 (← expect ':' cs)
  match cs with
  | '.' :: rest =>
    let digits := rest.takeWhile isDigitAscii
    some (if digits.isEmpty then cs else rest.drop digits.length)
  | _ => some cs

def skipOffset (cs : List Char) : List Char :=
  match cs with
  | [] => []
  | c :: rest =>
    if c = 'Z' ∨ c = 'z' then rest
    else if c = '+' ∨ c = '-' then
      let skipped : Option (List Char) := do
        let (_,rest) ← twoDigits 0 23 rest
        let (_,rest) ← twoDigits 0 59 (← expect ':' rest)
        some rest
      skipped.getD cs
    else cs

def skipDate (cs : List Char) : Option (Bool × List Char) := do
  let year := cs.take 4
  if year.length < 4 || !year.all isDigitAscii then none
  let (month,cs) ← twoDigits 1 12 (← expect '-' (cs.drop 4))
  let (day,cs) ← twoDigits 1 31 (← expect '-' cs)
  let isDay := (⟨Numeral.natOf year,month,day⟩ : Date).valid
  match cs with
  | c :: rest =>
    if c = 'T' ∨ c = 't' ∨ c = ' ' then
      match skipTime rest with
      | some after => some (isDay,skipOffset after)
      | none => some (isDay,cs)
    else some (isDay,cs)
  | [] => some (isDay,[])

def moment (cs : List Char) : Option (Option (Value × List Char)) :=
  match skipDate cs,skipTime cs with
  | some (isDay,rest),_ => some (if isDay then some (.list [],rest) else none)
  | none,some rest => some (some (.list [],rest))
  | none,none => none

def words : List (String × Value) :=
  [("true",.bool true),("false",.bool false),("inf",.float (.infinite false)),("nan",.float .nan),
    ("+inf",.float (.infinite false)),("-inf",.float (.infinite true)),("+nan",.float .nan),("-nan",.float .nan)]

def word (cs : List Char) : Option (Value × List Char) :=
  words.findSome? (fun w => if w.1.toList.isPrefixOf cs then some (w.2,cs.drop w.1.length) else none)

def plainValue (cs : List Char) : Option (Value × List Char) :=
  match moment cs with
  | some r => r
  | none => (number cs).orElse (fun _ => word cs)

/-! ### Values -/

mutual
def value : (fuel : Nat) → List Char → Option (Value × List Char)
  | 0,_ => none
  | fuel + 1,cs =>
    match cs with
    | '"' :: _ | '\'' :: _ => (text cs).map (fun r => (.str (String.ofList r.1),r.2))
    | '[' :: rest => (items fuel rest).map (fun r => (.list r.1,r.2))
    | '{' :: rest =>
      match skipGaps rest with
      | '}' :: after => some (.object [],after)
      | start => (members fuel [] start).map (fun r => (.object (entriesToValue r.1),r.2))
    | _ => plainValue cs

def items : (fuel : Nat) → List Char → Option (List Value × List Char)
  | 0,_ => none
  | fuel + 1,cs => do
    match ← skipBetween cs.length cs with
    | ']' :: after => some ([],after)
    | start =>
      let (v,rest) ← value fuel start
      match ← skipBetween rest.length rest with
      | ']' :: after => some ([v],after)
      | ',' :: more =>
        let (rest,after) ← items fuel more
        some (v :: rest,after)
      | _ => none

def members : (fuel : Nat) → Entries → List Char → Option (Entries × List Char)
  | 0,_,_ => none
  | fuel + 1,entries,cs => do
    let (path,rest) ← key (cs.length + 1) cs
    let (v,rest) ← value fuel (skipGaps (← expect '=' rest))
    let entries ← assign 0 (.value v) path entries
    match skipGaps rest with
    | '}' :: after => some (entries,after)
    | ',' :: more => members fuel entries (skipGaps more)
    | _ => none
end

end FormBuilder.Toml
