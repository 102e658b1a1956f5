import FormBuilder.Decimal.Numeral
import FormBuilder.Fault
import FormBuilder.Value
/-! Lenient readers of single values. Numbers and truth values may come as text, texts and
collections only as themselves. -/
namespace FormBuilder.Scalar
open FormBuilder.Text (isBlank isDigitAscii isUpperAscii)
open Checked (fault)

def isPadding (c : Char) : Bool := isBlank c && !(28 ≤ c.toNat && c.toNat ≤ 31)

def unpad (cs : List Char) : List Char := ((cs.dropWhile isPadding).reverse.dropWhile isPadding).reverse

def lowerAsciiText (s : String) : String :=
  String.ofList (s.toList.map (fun c => if isUpperAscii c then Char.ofNat (c.toNat + 32) else c))

def text : Value → Checked String
  | .str s => .ok s
  | _ => fault .notText

def boolOfInt (n : Int) : Checked Bool :=
  if n = 0 then .ok false else if n = 1 then .ok true else fault .badBoolean

def boolOfText (s : String) : Checked Bool :=
  let word := lowerAsciiText s
  if ["0","off","f","false","n","no"].contains word then .ok false
  else if ["1","on","t","true","y","yes"].contains word then .ok true
  else fault .badBoolean

def bool : Value → Checked Bool
  | .bool b => .ok b
  | .int n => boolOfInt n
  | .float x =>
    match x.toInt? with
    | some n => boolOfInt n
    | none => fault .notBoolean
  | .str s => boolOfText s
  | _ => fault .notBoolean

def dropUnderscores (cs : List Char) : Option (List Char) :=
  let rec go : Bool → List Char → Option (List Char)
    | afterDigit,[] => if afterDigit then some [] else none
    | afterDigit,c :: rest =>
      if c = '_' then (if afterDigit then go false rest else none) else (go true rest).map (c :: ·)
  go false cs

def dropLeadingZeros : List Char → List Char
  | '0' :: rest =>
    match rest.dropWhile (fun c => c == '0' || c == '_') with
    | [] => if rest.getLast? = some '_' then ['_'] else ['0']
    | '.' :: more => (if (rest.takeWhile (· != '.')).getLast? = some '_' then '_' else '0') :: '.' :: more
    | other => other
  | cs => cs

def dropZeroFraction (cs : List Char) : List Char :=
  match cs.dropWhile (· != '.') with
  | '.' :: zeros => if !zeros.isEmpty && zeros.all (· == '0') then cs.takeWhile (· != '.') else cs
  | _ => cs

def longestInteger : Nat := 4300

def intOfText (s : String) : Checked Int :=
  let cs := unpad s.toList
  if longestInteger < (String.ofList cs).utf8ByteSize then fault .oversized else
  let (negative,body) := Numeral.takeSign cs
  match dropUnderscores (dropZeroFraction (dropLeadingZeros body)) with
  | some digits =>
    if !digits.isEmpty && digits.all isDigitAscii then
      .ok (if negative then -(Numeral.natOf digits : Int) else Numeral.natOf digits)
    else fault .badInteger
  | none => fault .badInteger

def int : Value → Checked Int
  | .bool b => .ok (if b then 1 else 0)
  | .int n => .ok n
  | .float x =>
    match x with
    | .finite y =>
      if !y.isInteger then fault .fractional
      else if y.toInt.natAbs < 9223372036854775808 then .ok y.toInt else fault .oversized
    | _ => fault .notFinite
  | .str s => intOfText s
  | _ => fault .notInteger

def atLeast (least : Int) (v : Value) : Checked Int :=
  match int v with
  | .ok n => if n < least then fault (.belowMinimum least) else .ok n
  | .error e => .error e

def nat (v : Value) : Checked Nat := (atLeast 0 v).map Int.toNat

def doubleOfWord (cs : List Char) : Option Double :=
  let (negative,body) := Numeral.takeSign cs
  let word := lowerAsciiText (String.ofList body)
  if word = "inf" ∨ word = "infinity" then some (.infinite negative)
  else if word = "nan" then some .nan
  else (Numeral.read? cs).map Numeral.toDouble

def doubleOfText (s : String) : Checked Double :=
  match doubleOfWord (unpad s.toList) with
  | some x => .ok x
  | none =>
    match dropUnderscores s.toList |>.bind doubleOfWord with
    | some x => .ok x
    | none => fault .badNumber

def double : Value → Checked Double
  | .bool b => .ok (.ofInt (if b then 1 else 0))
  | .int n => if (Double.ofInt n).isFinite then .ok (.ofInt n) else fault .notNumber
  | .float x => .ok x
  | .str s => doubleOfText s
  | _ => fault .notNumber

def optional (read : Value → Checked α) : Value → Checked (Option α)
  | .null => .ok none
  | v => (read v).map some

def texts : Value → Checked (List String)
  | .list items => Checked.each text 0 items
  | _ => fault .notList

end FormBuilder.Scalar
