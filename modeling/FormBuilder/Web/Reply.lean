import FormBuilder.Service.Fault
import FormBuilder.FieldType
/-! Replies: a status with a body, or a list of what is wrong with a request. -/
namespace FormBuilder

def FieldType.entry (t : FieldType) : Value :=
  .object [("type",.str t.name),("label",.str t.paletteLabel),("icon",.str t.icon),("category",.str t.category.name)]

def FieldError.toWire (e : FieldError) : Value := .object [("field",.str e.field),("message",.str e.message)]

namespace Web

inductive Reply where
  | content (status : Nat) (body : Value)
  | malformed (faults : List Fault)
  deriving Repr

namespace Reply

def status : Reply → Nat
  | content status _ => status
  | malformed _ => 422

def error (status : Nat) (reason : String) : Reply := .content status (.object [("error",.str reason)])

def detail (status : Nat) (reason : String) : Reply := .content status (.object [("detail",.str reason)])

def failure : Reply := error 500 "Internal server error"
def unauthorized : Reply := error 401 "Unauthorized"
def unknownPlace : Reply := detail 404 "Not Found"
def wrongMethod : Reply := detail 405 "Method Not Allowed"
def unknownZone (name : String) : Reply := error 400 ("Unknown timezone: " ++ name)

def ofFault : ServiceFault → Reply
  | .rejected errors =>
    let fault := ServiceFault.rejected errors
    .content fault.status (.object [("error",.str fault.shown),("details",.list (errors.map FieldError.toWire))])
  | fault => error fault.status fault.shown

def sent (status : Nat) (body : Value) : Reply := if body.finite then .content status body else failure

def of (status : Nat) (write : α → Value) : Except ServiceFault α → Reply
  | .ok a => sent status (write a)
  | .error fault => ofFault fault

end Reply
end Web
end FormBuilder
