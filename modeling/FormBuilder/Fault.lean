/-! What can be wrong with data that is read leniently, and where. A reader collects every fault it
meets instead of stopping at the first. -/
namespace FormBuilder

inductive Step where
  | name (s : String)
  | index (n : Nat)
  deriving DecidableEq, Repr

inductive Cause where
  | notText | notInteger | badInteger | oversized | fractional | notFinite | notBoolean | badBoolean
  | notNumber | badNumber | notList | notObject | notRecord | notAttributes
  | unknownTag | missingTag | missing | notMember (allowed : List String)
  | belowMinimum (least : Int) | aboveMaximum (most : Int) | notAbove (bound : Int)
  | tooShort (least : Nat) | tooLong (most : Nat)
  | notDateTime | badDateTime | badJson | notSection (name : String) | unexpected | refused (reason : String)
  deriving DecidableEq, Repr

def Cause.code : Cause → String
  | notText => "string_type"
  | notInteger => "int_type"
  | badInteger => "int_parsing"
  | oversized => "int_parsing_size"
  | fractional => "int_from_float"
  | notFinite => "finite_number"
  | notBoolean => "bool_type"
  | badBoolean => "bool_parsing"
  | notNumber => "float_type"
  | badNumber => "float_parsing"
  | notList => "list_type"
  | notObject => "dict_type"
  | notRecord => "model_type"
  | notAttributes => "model_attributes_type"
  | unknownTag => "union_tag_invalid"
  | missingTag => "union_tag_not_found"
  | missing => "missing"
  | notMember _ => "enum"
  | belowMinimum _ => "greater_than_equal"
  | aboveMaximum _ => "less_than_equal"
  | notAbove _ => "greater_than"
  | tooShort _ => "string_too_short"
  | tooLong _ => "string_too_long"
  | notDateTime => "datetime_type"
  | badDateTime => "datetime_from_date_parsing"
  | badJson => "json_invalid"
  | notSection _ => "model_type"
  | unexpected => "extra_forbidden"
  | refused _ => "value_error"

def alternatives : List String → String
  | [] => ""
  | [w] => "'" ++ w ++ "'"
  | [w,last] => "'" ++ w ++ "' or '" ++ last ++ "'"
  | w :: rest => "'" ++ w ++ "', " ++ alternatives rest

def characters (n : Nat) : String := toString n ++ (if n = 1 then " character" else " characters")

def Cause.message : Cause → String
  | notText => "Input should be a valid string"
  | notInteger => "Input should be a valid integer"
  | badInteger => "Input should be a valid integer, unable to parse string as an integer"
  | oversized => "Unable to parse input string as an integer, exceeded maximum size"
  | fractional => "Input should be a valid integer, got a number with a fractional part"
  | notFinite => "Input should be a finite number"
  | notBoolean => "Input should be a valid boolean"
  | badBoolean => "Input should be a valid boolean, unable to interpret input"
  | notNumber => "Input should be a valid number"
  | badNumber => "Input should be a valid number, unable to parse string as a number"
  | notList => "Input should be a valid list"
  | notObject => "Input should be a valid dictionary"
  | notRecord => "Input should be a valid dictionary with the attributes of a record"
  | notAttributes => "Input should be a valid dictionary or object to extract fields from"
  | unknownTag => "Input tag is not one of the expected tags"
  | missingTag => "Input has no tag"
  | missing => "Field required"
  | notMember allowed => "Input should be " ++ alternatives allowed
  | belowMinimum least => "Input should be greater than or equal to " ++ toString least
  | aboveMaximum most => "Input should be less than or equal to " ++ toString most
  | notAbove bound => "Input should be greater than " ++ toString bound
  | tooShort least => "String should have at least " ++ characters least
  | tooLong most => "String should have at most " ++ characters most
  | notDateTime => "Input should be a valid datetime"
  | badDateTime => "Input should be a valid datetime or date"
  | badJson => "JSON decode error"
  | notSection name => "Input should be a valid dictionary or instance of " ++ name
  | unexpected => "Extra inputs are not permitted"
  | refused reason => "Value error, " ++ reason

structure Fault where
  cause : Cause
  path : List Step
  deriving DecidableEq, Repr

def Step.text : Step → String
  | name s => s
  | index n => toString n

/-- Either a value or all the faults found on the way to it. -/
abbrev Checked (α : Type) := Except (List Fault) α

namespace Checked

def fault (c : Cause) : Checked α := .error [⟨c,[]⟩]

def under (step : Step) : Checked α → Checked α
  | .ok a => .ok a
  | .error faults => .error (faults.map (fun f => ⟨f.cause,step :: f.path⟩))

def both (f : α → β → γ) : Checked α → Checked β → Checked γ
  | .ok a,.ok b => .ok (f a b)
  | .ok _,.error e => .error e
  | .error e,.ok _ => .error e
  | .error e,.error e' => .error (e ++ e')

def part (f : Checked (α → β)) (a : Checked α) : Checked β := both (· ·) f a

def each (read : α → Checked β) : (start : Nat) → List α → Checked (List β)
  | _,[] => .ok []
  | start,a :: rest => both (· :: ·) (under (.index start) (read a)) (each read (start + 1) rest)

end Checked
end FormBuilder
