import FormBuilder.Address.Label
import FormBuilder.Json
/-! Hosts of web addresses: names, numbers with dots, and groups of hexadecimal digits in brackets. -/
namespace FormBuilder.Address
open FormBuilder.Text (isDigitAscii isMark)

def isForbiddenInName (c : Char) : Bool :=
  c.toNat ≤ 32 || c.toNat = 127 || "#/:<>?@[\\]^|%".toList.contains c

def isForbiddenInOpaque (c : Char) : Bool := "\x00\t\n\r #/:<>?@[\\]^|".toList.contains c

/-! ### Numbers -/

def radixOf : List Char → Nat × List Char
  | '0' :: x :: rest => if x = 'x' ∨ x = 'X' then (16,rest) else (8,x :: rest)
  | cs => (10,cs)

def digitIn (radix : Nat) (c : Char) : Option Nat := (Json.hexValue? c).filter (· < radix)

def readNumber (cs : List Char) : Option Nat :=
  if cs.isEmpty then none
  else
    let (radix,digits) := radixOf cs
    digits.foldl (fun n c => do some ((← n) * radix + (← digitIn radix c))) (some 0)

def numberParts (cs : List Char) : List (List Char) :=
  let parts := splitDots cs
  if parts.getLast? = some [] then parts.dropLast else parts

def endsInNumber (cs : List Char) : Bool :=
  match (numberParts cs).getLast? with
  | none => false
  | some last =>
    (numberParts cs != [[]]) && ((!last.isEmpty && last.all isDigitAscii) || (readNumber last).isSome)

def isNumberHost (cs : List Char) : Bool :=
  match (numberParts cs).mapM readNumber with
  | none => false
  | some numbers =>
    match numbers.reverse with
    | [] => false
    | last :: front => numbers.length ≤ 4 && front.all (· ≤ 255) && last < Nat.pow 256 (5 - numbers.length)

/-! ### Groups in brackets -/

def isHexDigit (c : Char) : Bool := (Json.hexValue? c).isSome

def splitColons : List Char → List (List Char)
  | [] => [[]]
  | c :: rest =>
    match splitColons rest with
    | [] => [[]]
    | first :: more => if c = ':' then [] :: first :: more else (c :: first) :: more

def isGroup (cs : List Char) : Bool := !cs.isEmpty && cs.length ≤ 4 && cs.all isHexDigit

def isDottedQuad (cs : List Char) : Bool :=
  let parts := splitDots cs
  parts.length = 4 && parts.all fun p =>
    !p.isEmpty && p.all isDigitAscii && p.length ≤ 3 && Numeral.natOf p ≤ 255 && (p.length = 1 || p.head? != some '0')

def groupCount (atEnd : Bool) : List (List Char) → Option Nat
  | [] => some 0
  | [g] => if isGroup g then some 1 else if atEnd && isDottedQuad g then some 2 else none
  | g :: rest => if isGroup g then (groupCount atEnd rest).map (· + 1) else none

def groupsOf (cs : List Char) : List (List Char) := if cs.isEmpty then [] else splitColons cs

def splitGap : List Char → Option (List Char × List Char)
  | [] => none
  | ':' :: ':' :: rest => some ([],rest)
  | c :: rest => (splitGap rest).map (fun p => (c :: p.1,p.2))

def isGroupHost (cs : List Char) : Bool :=
  match splitGap cs with
  | none => groupCount true (groupsOf cs) = some 8
  | some (before,after) =>
    match groupCount false (groupsOf before),groupCount true (groupsOf after) with
    | some a,some b => a + b ≤ 7
    | _,_ => false

/-! ### Names -/

def percentDecode : List Char → List UInt8
  | '%' :: a :: b :: rest =>
    match Json.hexValue? a,Json.hexValue? b with
    | some x,some y => UInt8.ofNat (x * 16 + y) :: percentDecode rest
    | _,_ => 37 :: percentDecode (a :: b :: rest)
  | c :: rest => (String.singleton c).toUTF8.toList ++ percentDecode rest
  | [] => []
termination_by cs => cs.length

def joinersFit (before : List Char) : List Char → Bool
  | [] => true
  | c :: after =>
    (if c.toNat = 0x200c ∨ c.toNat = 0x200d then joinerFits before after c else true) && joinersFit (c :: before) after

def openLabel (cs : List Char) : Option (List Char) :=
  if encodedMark.isPrefixOf cs then
    match punycodeDecode (cs.drop 4) with
    | none => none
    | some label =>
      if label.any (fun c => 0x80 ≤ c.toNat) && label.all isKept && Text.normalChars label == label then some label
      else none
  else some cs

def nameLabelFits (anyRightward : Bool) (cs : List Char) : Bool :=
  !cs.head?.any isMark && joinersFit [] cs &&
    (!anyRightward || cs.isEmpty || directionsAgree (cs.map direction))

def nameToAscii (cs : List Char) : Option (List Char) := do
  let labels ← (splitDots (← remap cs)).mapM openLabel
  let anyRightward := labels.any (fun l => (l.map direction).any isRightward)
  if !labels.all (nameLabelFits anyRightward) then none
  else
    let ascii := ['.'].intercalate
      (labels.map (fun l => if l.all (fun c => c.toNat < 128) then l else encodedMark ++ punycodeEncode l))
    if ascii.any isForbiddenInName then none else some ascii

def isBracketed (cs : List Char) : Bool := cs.head? = some '['

def isBracketedHost (cs : List Char) : Bool :=
  cs.getLast? = some ']' && isGroupHost (cs.drop 1).dropLast

def isHost (cs : List Char) : Bool :=
  if isBracketed cs then isBracketedHost cs
  else
    match String.fromUTF8? (ByteArray.mk (percentDecode cs).toArray) with
    | none => false
    | some name =>
      match nameToAscii name.toList with
      | none => false
      | some ascii => !ascii.isEmpty && (!endsInNumber ascii || isNumberHost ascii)

def isOpaqueHost (cs : List Char) : Bool :=
  if isBracketed cs then isBracketedHost cs else !cs.any isForbiddenInOpaque

end FormBuilder.Address
