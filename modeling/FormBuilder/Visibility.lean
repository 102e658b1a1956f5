import FormBuilder.Decimal.Numeral
import FormBuilder.Field.Basic
/-! Which fields are shown for the current answers. A condition whose target is gone, or whose
comparison nobody knows, holds: hiding a field for ever would block a form for good. -/
namespace FormBuilder

def Double.display : Double → String
  | .nan => "NaN"
  | .infinite negative => if negative then "-Infinity" else "Infinity"
  | .finite x => if x.isInteger then toString x.toInt else Shortest.text (.finite x)

namespace Value

mutual
def display : Value → String
  | null => ""
  | bool b => if b then "true" else "false"
  | int n => toString n
  | float x => x.display
  | str s => s
  | list items => ",".intercalate (displayEach items)
  | object entries => inner (object entries)

def displayEach : List Value → List String
  | [] => []
  | v :: rest => display v :: displayEach rest
end

def numberOfText (s : String) : Double :=
  let cs := Text.trimChars s.toList
  if cs.isEmpty then .zero
  else if cs = "Infinity".toList ∨ cs = "+Infinity".toList then .infinite false
  else if cs = "-Infinity".toList then .infinite true
  else
    match Numeral.read? cs with
    | some n => n.toDouble
    | none => .nan

def number : Value → Double
  | null => .zero
  | bool b => if b then .one else .zero
  | int n => .ofInt n
  | float x => x
  | str s => numberOfText s
  | list [] => .zero
  | list [v] => number v
  | _ => .nan

def isBlank : Value → Bool
  | null => true
  | bool b => !b
  | int n => n == 0
  | float x => x.isZero || x.isNan
  | v => Text.allBlank v.display

end Value

namespace Answer

def display (answer : Option Value) : String := (answer.map Value.display).getD ""
def number (answer : Option Value) : Double := (answer.map Value.number).getD .nan
def isBlank (answer : Option Value) : Bool := (answer.map Value.isBlank).getD true

end Answer

def occursIn (needle : List Char) : List Char → Bool
  | [] => needle.isEmpty
  | c :: rest => needle.isPrefixOf (c :: rest) || occursIn needle rest

namespace Condition

def compare (operator : Operator) (actual : Option Value) (expected : Value) : Bool :=
  match operator with
  | .equals => Answer.display actual == expected.display
  | .notEquals => Answer.display actual != expected.display
  | .contains => occursIn expected.display.toList (Answer.display actual).toList
  | .notContains => !occursIn expected.display.toList (Answer.display actual).toList
  | .greaterThan => Double.lt expected.number (Answer.number actual)
  | .lessThan => Double.lt (Answer.number actual) expected.number
  | .isEmpty => Answer.isBlank actual
  | .isNotEmpty => !Answer.isBlank actual
  | .other _ => true

def holds (c : Condition) (answers : Object) (fields : List Field) : Bool :=
  match Field.find? fields c.target with
  | none => true
  | some target => compare c.operator (answers.value? target.valueKey) c.value

end Condition

namespace Field

def isVisible (f : Field) (answers : Object) (fields : List Field) : Bool :=
  match f.condition with
  | none => true
  | some c => c.holds answers fields

def visible (fields : List Field) (answers : Object) : List Field :=
  fields.filter (fun f => f.isVisible answers fields)

end Field
end FormBuilder
