import FormBuilder.Scalar
/-! Conditions: show a field only while another field's answer compares as asked. -/
namespace FormBuilder

/-- An attribute's two spellings; the first is the one written out. -/
structure Key where
  camel : String
  snake : String
  deriving DecidableEq, Repr

namespace Object

def given? (o : Object) (names : List String) : Option (String × Value) :=
  names.findSome? (fun name => (o.value? name).map (fun v => (name,v)))

def readAt (o : Object) (names : List String) (default : α) (read : Value → Checked α) : Checked α :=
  match o.given? names with
  | none => .ok default
  | some (used,v) => Checked.under (.name used) (read v)

end Object

namespace Key

def names (k : Key) : List String := [k.camel,k.snake]

def required : Key := ⟨"required","required"⟩
def placeholder : Key := ⟨"placeholder","placeholder"⟩
def condition : Key := ⟨"condition","condition"⟩
def helpText : Key := ⟨"helpText","help_text"⟩
def options : Key := ⟨"options","options"⟩
def imageUrls : Key := ⟨"imageUrls","image_urls"⟩
def min : Key := ⟨"min","min"⟩
def max : Key := ⟨"max","max"⟩
def maxRating : Key := ⟨"maxRating","max_rating"⟩
def rows : Key := ⟨"rows","rows"⟩
def columns : Key := ⟨"columns","columns"⟩
def fileTypes : Key := ⟨"fileTypes","file_types"⟩
def maxFileSize : Key := ⟨"maxFileSize","max_file_size"⟩
def target : Key := ⟨"targetFieldId","target_field_id"⟩
def operator : Key := ⟨"operator","operator"⟩
def value : Key := ⟨"value","value"⟩
def id : Key := ⟨"id","id"⟩
def persistedId : Key := ⟨"persistedId","persisted_id"⟩
def label : Key := ⟨"label","label"⟩
def order : Key := ⟨"order","order"⟩
def config : Key := ⟨"config","config"⟩
def type : Key := ⟨"type","type"⟩

end Key

inductive Spelling where
  | wire
  | plain
  deriving DecidableEq, Repr

namespace Spelling

def spell : Spelling → Key → String
  | wire,k => k.camel
  | plain,k => k.snake

def entries (s : Spelling) (attributes : List (Key × Value)) : Object :=
  attributes.filterMap fun a =>
    match s,a.2 with
    | wire,.null => none
    | _,v => some (s.spell a.1,v)

end Spelling

/-- Comparisons; a name that is not known is kept, and always shows the field. -/
inductive Operator where
  | equals | notEquals | contains | notContains | greaterThan | lessThan | isEmpty | isNotEmpty
  | other (name : String)
  deriving DecidableEq, Repr

namespace Operator

def known : List Operator :=
  [equals,notEquals,contains,notContains,greaterThan,lessThan,isEmpty,isNotEmpty]

def name : Operator → String
  | equals => "equals"
  | notEquals => "not_equals"
  | contains => "contains"
  | notContains => "not_contains"
  | greaterThan => "greater_than"
  | lessThan => "less_than"
  | isEmpty => "is_empty"
  | isNotEmpty => "is_not_empty"
  | other s => s

def ofName (s : String) : Operator := (known.find? (fun o => o.name == s)).getD (other s)

def read : Value → Checked Operator
  | .str s => .ok (ofName s)
  | _ => .error [⟨.notMember (known.map name),[.name "str-enum[ConditionOperator]"]⟩,⟨.notText,[.name "str"]⟩]

end Operator

structure Condition where
  target : String
  operator : Operator
  value : Value
  deriving Repr

namespace Condition

def targetNames : List String := ["targetFieldId","target_field_id","fieldId"]

def ofObject (o : Object) : Checked Condition :=
  .part (.part ((o.readAt targetNames "" Scalar.text).map Condition.mk)
    (o.readAt Key.operator.names .equals Operator.read))
    (o.readAt Key.value.names .null .ok)

def read : Value → Checked Condition
  | .object o => ofObject o
  | _ => .fault .notRecord

def attributes (c : Condition) : List (Key × Value) :=
  [(.target,.str c.target),(.operator,.str c.operator.name),(.value,c.value)]

def write (s : Spelling) (c : Condition) : Value := .object (s.entries c.attributes)

end Condition
end FormBuilder
