import FormBuilder.Rule
/-! The validator of one list of fields. Dividers and page breaks have no part in it. Every other field
has a slot of its own, named after the field's place, which reads one entry of a payload: keys may be
empty or shared, and the names of slots never are. -/
namespace FormBuilder

structure Slot where
  name : String
  key : String
  rule : Value → Verdict

structure FieldError where
  field : String
  message : String
  deriving DecidableEq, Repr

structure Schema where
  slots : List Slot

namespace Schema

def slotName (place : Nat) : String := "field_" ++ toString place

def slotsFrom (place : Nat) : List Field → List Slot
  | [] => []
  | f :: rest =>
    if f.isLayout then slotsFrom (place + 1) rest
    else ⟨slotName place,f.valueKey,f.verdict⟩ :: slotsFrom (place + 1) rest

def compile (fields : List Field) : Schema := ⟨slotsFrom 0 fields⟩

def keys (s : Schema) : List String := s.slots.map (·.key)

def taken (payload : Object) (slots : List Slot) : Object :=
  slots.filterMap (fun slot => (payload.value? slot.key).map (fun v => (slot.name,v)))

def judge (given : Object) : List Slot → Except (List (String × Refusal)) Object
  | [] => .ok []
  | slot :: rest =>
    match slot.rule ((given.value? slot.name).getD .null),judge given rest with
    | .ok v,.ok others => .ok ((slot.name,v) :: others)
    | .ok _,.error refusals => .error refusals
    | .error e,.ok _ => .error [(slot.name,e)]
    | .error e,.error refusals => .error ((slot.name,e) :: refusals)

def keyOf (slots : List Slot) (name : String) : String :=
  ((slots.find? (fun slot => slot.name == name)).map (·.key)).getD name

def report (slots : List Slot) (refusals : List (String × Refusal)) : List FieldError :=
  refusals.map (fun r => ⟨keyOf slots r.1,r.2.message⟩)

def answers (judged : Object) (slots : List Slot) : Object :=
  slots.foldl (fun data slot =>
    match (judged.value? slot.name).getD .null with
    | .null => data
    | v => data.put slot.key v) []

def validate (s : Schema) : Value → Except (List FieldError) Object
  | .object payload =>
    match judge (taken payload s.slots) s.slots with
    | .error refusals => .error (report s.slots refusals)
    | .ok judged => .ok (answers judged s.slots)
  | _ => .error [⟨"","Submission must be an object"⟩]

end Schema

namespace FieldError

def summary (errors : List FieldError) : String :=
  "Validation failed (" ++ ", ".intercalate (errors.map (fun e => e.field ++ ": " ++ e.message)) ++ ")"

end FieldError

def validateSubmission (fields : List Field) (payload : Value) : Except (List FieldError) Object :=
  (Schema.compile fields).validate payload

end FormBuilder
