import FormBuilder.Address.Email
import FormBuilder.Address.Url
import FormBuilder.Visibility
/-! What each kind of field accepts as an answer, and what it makes of it. -/
namespace FormBuilder

inductive Refusal where
  | required (label : String)
  | notText | badEmail | badUrl | badDate | badPhone | badNumber
  | belowLeast (least : Double) | aboveMost (most : Double)
  | partRating | ratingTooLow | ratingTooHigh (top : Nat)
  | notOptions | notRows
  deriving DecidableEq, Repr

def Refusal.message : Refusal → String
  | required label => label ++ " is required"
  | notText => "Expected a string"
  | badEmail => "Invalid email address"
  | badUrl => "Invalid URL format"
  | badDate => "Invalid date format"
  | badPhone => "Invalid phone number"
  | badNumber => "Please enter a valid number"
  | belowLeast least => "Value must be at least " ++ least.display
  | aboveMost most => "Value must be at most " ++ most.display
  | partRating => "Rating must be a whole number"
  | ratingTooLow => "Rating must be at least 1"
  | ratingTooHigh top => "Rating must be at most " ++ toString top
  | notOptions => "Expected a list of options"
  | notRows => "Expected one answer per row"

abbrev Verdict := Except Refusal Value

inductive Number where
  | int (n : Int)
  | float (x : Double)
  deriving DecidableEq, Repr

namespace Number

def toValue : Number → Value
  | int n => .int n
  | float x => .float x

def isFinite : Number → Bool
  | int n => (Double.ofInt n).isFinite
  | float x => x.isFinite

def below (bound : Double) : Number → Bool
  | int n => Double.intLt n bound
  | float x => Double.lt x bound

def above (bound : Double) : Number → Bool
  | int n => Double.ltInt bound n
  | float x => Double.lt bound x

def toInt? : Number → Option Int
  | int n => some n
  | float x => x.toInt?

def longestInteger : Nat := 4300

def ofNumeral (n : Numeral) : Number :=
  if n.plain ∧ n.whole.length ≤ longestInteger ∧ (int n.toInt).isFinite then .int n.toInt else .float n.toDouble

def read? : Value → Option Number
  | .int n => some (int n) |>.filter isFinite
  | .float x => some (float x) |>.filter isFinite
  | .str s => ((Numeral.read? (Text.trimChars s.toList)).map ofNumeral).filter isFinite
  | _ => none

end Number

namespace Rule
open FormBuilder.Text (isDigitAscii)

def text (accepts : String → Bool) (refusal : Refusal) : Value → Verdict
  | .str s => if accepts s then .ok (.str s) else .error refusal
  | _ => .error .notText

def isDate (s : String) : Bool :=
  match s.toList with
  | [a,b,c,d,'-',e,f,'-',g,h] => [a,b,c,d,e,f,g,h].all isDigitAscii
  | _ => false

def isPhoneChar (c : Char) : Bool :=
  isDigitAscii c || " \t\n\r\x0b\x0c+-()".toList.contains c

def isPhone (s : String) : Bool := !s.isEmpty && s.toList.all isPhoneChar

def number (least most : Option Double) (v : Value) : Verdict :=
  match Number.read? v with
  | none => .error .badNumber
  | some n =>
    if least.any (n.below ·) then .error (.belowLeast (least.getD .zero))
    else if most.any (n.above ·) then .error (.aboveMost (most.getD .zero))
    else .ok n.toValue

def rating (scale : Scale) (v : Value) : Verdict :=
  match ((Number.read? v).getD (.int 0)).toInt? with
  | none => .error .partRating
  | some n =>
    if n < 1 then .error .ratingTooLow
    else if (scale.top : Int) < n then .error (.ratingTooHigh scale.top)
    else .ok (.int n)

def isText : Value → Bool
  | .str _ => true
  | _ => false

def options : Value → Verdict
  | .list items => if items.all isText then .ok (.list items) else .error .notOptions
  | _ => .error .notOptions

def rows : Value → Verdict
  | .object entries => if entries.all (fun e => isText e.2) then .ok (.object entries) else .error .notRows
  | _ => .error .notRows

def isMissing : Value → Bool
  | .null => true
  | .str s => s.isEmpty
  | .list items => items.isEmpty
  | .object entries => entries.isEmpty
  | _ => false

end Rule

namespace Kind

def check : Kind → Value → Verdict
  | email => Rule.text Address.isEmail .badEmail
  | url => Rule.text Address.isUrl .badUrl
  | date => Rule.text Rule.isDate .badDate
  | phone => Rule.text Rule.isPhone .badPhone
  | number least most => Rule.number least most
  | rating scale => Rule.rating scale
  | ranking _ | checkbox _ => Rule.options
  | matrix _ _ => Rule.rows
  | file _ _ | pageBreak | divider => .ok
  | text | longtext _ | radio _ | dropdown _ | pictureChoice _ _ | signature => Rule.text (fun _ => true) .notText

def emptyIsAbsent : Kind → Bool
  | email | number _ _ | phone | url | date | rating _ => true
  | _ => false

def isAbsent (k : Kind) : Value → Bool
  | .null => true
  | .str s => k.emptyIsAbsent && s.isEmpty
  | _ => false

end Kind

namespace Field

def verdict (f : Field) (v : Value) : Verdict :=
  match f.kind,v with
  | .file _ _,v => .ok v
  | .checkbox _,.null => if f.required then .error (.required f.label) else .ok .null
  | .checkbox _,v =>
    match Rule.options v with
    | .error e => .error e
    | .ok chosen => if f.required && Rule.isMissing chosen then .error (.required f.label) else .ok chosen
  | k,v =>
    if f.required then (if Rule.isMissing v then .error (.required f.label) else k.check v)
    else if k.isAbsent v then .ok .null else k.check v

end Field
end FormBuilder
