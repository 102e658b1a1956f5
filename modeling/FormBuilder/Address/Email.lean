import FormBuilder.Address.Label
import FormBuilder.Text.Printable
import FormBuilder.Text.Spelling
/-! Bare email addresses: one local part of dotted words, one domain that hosts could have. Quoted
words, display names and addresses of machines are not bare. -/
namespace FormBuilder.Address
open FormBuilder.Text

def isAtomChar (c : Char) : Bool :=
  isLowerAscii c || isUpperAscii c || isDigitAscii c || "!#$%&'*+-/=?^_\x60\x7b|\x7d~".toList.contains c

def isWideAtomChar (c : Char) : Bool := isAtomChar c || 0x80 ≤ c.toNat

def isDotted (allowed : Char → Bool) (cs : List Char) : Bool :=
  (splitDots cs).all (fun word => !word.isEmpty && word.all allowed)

def isSafe (cs : List Char) : Bool :=
  cs.all (fun c => isPrintable c && c != ' ') && !cs.head?.any isMark

def localFits (cs : List Char) : Bool :=
  isDotted isAtomChar cs || (isDotted isWideAtomChar cs && isSafe cs)

def isHostChar (c : Char) : Bool := isLowerAscii c || isUpperAscii c || isDigitAscii c || c == '-' || 0x80 ≤ c.toNat

def hostLabelFits (cs : List Char) : Bool :=
  !cs.isEmpty && cs.head? != some '-' && cs.getLast? != some '-' &&
    ((cs.drop 2).take 2 != ['-','-'] || (cs.take 2).map lowerAsciiChar == ['x','n'])
where
  lowerAsciiChar (c : Char) : Char := if isUpperAscii c then Char.ofNat (c.toNat + 32) else c

def reservedNames : List (List Char) :=
  ["arpa","invalid","local","localhost","onion","test"].map String.toList

def joinDots (labels : List (List Char)) : List Char := ['.'].intercalate labels

def mailDomain (cs : List Char) : Option (List Char × List Char) := do
  if !cs.all (fun c => isHostChar c || c == '.') || !isSafe cs then none
  else
    let name ← remap cs
    let labels := splitDots name
    if !name.all (fun c => isHostChar c || c == '.') || !labels.all hostLabelFits then none
    else
      let plain := name.all (fun c => c.toNat < 128)
      let ascii ← if plain then some labels else labels.mapM toAscii
      let whole := joinDots ascii
      if 253 < whole.length || ascii.any (fun l => 63 < l.length) || ascii.length < 2 ||
          !whole.getLast?.any (fun c => isLowerAscii c || isUpperAscii c) ||
          reservedNames.any (fun r => ascii.getLast? = some r) then none
      else
        let shown ← ascii.mapM readAscii
        if isSafe (joinDots shown) then some (joinDots shown,whole) else none

def longestAddress : Nat := 254

def addressFits (cs : List Char) : Bool :=
  cs.length ≤ longestAddress && (String.ofList cs).utf8ByteSize ≤ longestAddress

def isEmail (text : String) : Bool :=
  let cs := text.toList
  let name := cs.takeWhile (· != '@')
  match cs.drop name.length with
  | [] => false
  | _ :: domain =>
    localFits name && localFits (normalChars name) &&
      match mailDomain domain with
      | none => false
      | some (shown,ascii) =>
        let mailbox := normalChars name
        addressFits cs && addressFits (mailbox ++ '@' :: shown) &&
          (!mailbox.all (fun c => c.toNat < 128) || addressFits (mailbox ++ '@' :: ascii))

end FormBuilder.Address
