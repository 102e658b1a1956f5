import FormBuilder.Field.Changes
import FormBuilder.Sanitize
import FormBuilder.Schema
import FormBuilder.Store.Fault
/-! Why a request to the service is turned down, what is told to whom, and under which status. -/
namespace FormBuilder

inductive InputFault where
  | noTitle
  | badStatus
  | badSettings (faults : List Fault)
  | badFields (fault : Field.ListFault)
  deriving Repr

def InputFault.message : InputFault → String
  | noTitle => "Title is required"
  | badStatus => "Invalid status"
  | badSettings faults => "Invalid form settings: " ++ toString faults.length ++ " errors"
  | badFields fault => fault.message

inductive Missing where
  | owned (form : Int) (owner : String)
  | published (slug : String)
  | named (slug : String)
  deriving Repr

def Missing.message : Missing → String
  | owned form owner => "Form " ++ toString form ++ " not found for " ++ owner
  | published slug => "No published form with slug " ++ Text.quoted slug
  | named slug => "No form with slug " ++ Text.quoted slug

inductive ServiceFault where
  | input (fault : InputFault)
  | misuse (m : Misuse)
  | missing (what : Missing)
  | unpublishable (form : Int)
  | notPublished
  | noFields
  | rateLimited (client : String)
  | rejected (errors : List FieldError)
  | store (fault : StoreFault)
  deriving Repr

namespace ServiceFault

def message : ServiceFault → String
  | input fault => fault.message
  | misuse _ => "Malformed request"
  | missing what => what.message
  | unpublishable form => "Form " ++ toString form ++ " has no fields"
  | notPublished => "Form is not published"
  | noFields => "Form has no fields"
  | rateLimited client => "Too many submissions from " ++ client
  | rejected errors => FieldError.summary errors
  | store fault => fault.message

def shown : ServiceFault → String
  | input fault => fault.message
  | misuse _ => "Internal server error"
  | missing _ => "Form not found"
  | unpublishable _ => "Cannot publish form without fields"
  | notPublished => "Form is not published"
  | noFields => "Form has no fields"
  | rateLimited _ => "Rate limit exceeded. Please try again later."
  | rejected _ => "Validation failed"
  | store _ => "Internal server error"

def status : ServiceFault → Nat
  | input _ => 400
  | misuse _ => 500
  | missing _ => 404
  | unpublishable _ => 400
  | notPublished => 403
  | noFields => 400
  | rateLimited _ => 429
  | rejected _ => 400
  | store _ => 500

end ServiceFault
end FormBuilder
