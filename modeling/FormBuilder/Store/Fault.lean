import FormBuilder.Fault
import FormBuilder.Value
/-! Why the store refuses to read or write. -/
namespace FormBuilder

inductive Constraint where
  | slugUnique
  | fieldIdUnique
  | formExists
  | columnGiven (name : String)
  deriving DecidableEq, Repr

def Constraint.message : Constraint → String
  | slugUnique => "UNIQUE constraint failed: forms.slug"
  | fieldIdUnique => "UNIQUE constraint failed: form_fields.form_id, form_fields.client_id"
  | formExists => "FOREIGN KEY constraint failed"
  | columnGiven name => "NOT NULL constraint failed: " ++ name

inductive WriteFault where
  | violates (c : Constraint)
  | locked
  | malformed
  | tooManyValues
  deriving DecidableEq, Repr

def WriteFault.message : WriteFault → String
  | violates c => c.message
  | locked => "database is locked"
  | malformed => "malformed JSON"
  | tooManyValues => "too many SQL variables"

inductive StoreFault where
  | invalid (faults : List Fault)
  | unreadableField (row : Int)
  | unwritableFields (form : Int) (why : WriteFault)
  | violates (c : Constraint)
  | malformed
  | unknownStatus (given : Value)
  | outOfRange
  deriving Repr

namespace StoreFault

def message : StoreFault → String
  | invalid faults => toString faults.length ++ " validation errors"
  | unreadableField row => "Stored field " ++ toString row ++ " is not a valid field definition"
  | unwritableFields form why => "Could not store fields for form " ++ toString form ++ ": " ++ why.message
  | violates c => c.message
  | malformed => "malformed JSON"
  | unknownStatus given => given.inner ++ " is not a valid FormStatus"
  | outOfRange => "Number too large for its column"

end StoreFault
end FormBuilder
