import FormBuilder.Form
/-! Rows of the store: forms, the fields of forms, and submissions. A form's settings and a field's
own settings are kept as data, and are read again whenever the form is. -/
namespace FormBuilder

def Condition.dumped (c : Condition) : Condition := { c with value := c.value.dumped }

def Field.dumped (f : Field) : Field :=
  { f with common := { f.common with condition := f.common.condition.map Condition.dumped } }

def Settings.dumped (s : Settings) : Settings := { s with extra := Value.dumpedEntries s.extra }

def Field.storable (f : Field) : Bool := Value.finiteEntries (f.dumped.config .wire)

structure FormRow where
  id : Int
  owner : String
  title : String
  slug : String
  description : Option String
  status : Status
  settings : Object
  createdAt : Int
  updatedAt : Int
  deriving Repr

def FormRow.shownAs (r : FormRow) (settings : Settings) (fields : List Field) : Form :=
  ⟨⟨r.title,r.description,settings,fields⟩,some r.id,some r.owner,some r.slug,r.status,
    some (.ofEpoch r.createdAt),some (.ofEpoch r.updatedAt)⟩

def FormRow.toForm (r : FormRow) (fields : List Field) : Checked Form :=
  (Settings.ofObject r.settings).map (fun settings => r.shownAs settings fields)

structure FieldRow where
  id : Int
  form : Int
  clientId : String
  type : String
  label : String
  placeholder : Option String
  required : Bool
  /-- A number, unless somebody meddled with the row. -/
  order : Value
  config : Value
  deriving Repr

namespace FieldRow

def ofField (id form : Int) (f : Field) : FieldRow :=
  let config := ((f.dumped.config .wire).without Key.required.camel).without Key.placeholder.camel
  ⟨id,form,f.id,f.type.name,f.label,f.common.placeholder,f.required,.ofNat f.order,.object config⟩

/-- How many values of a row are handed over when it is put in. -/
def columns : Nat := 9

def settings (r : FieldRow) : Object :=
  let config : Object := match r.config with
    | .object o => o
    | _ => []
  let config := config.put "required" (.bool r.required)
  match r.placeholder with
  | none => config
  | some p => config.put "placeholder" (.str p)

def raw (r : FieldRow) : Value :=
  .object [("id",.str r.clientId),("persisted_id",.str (toString r.id)),("type",.str r.type),
    ("label",.str r.label),("order",r.order),("config",.object r.settings)]

def toField (r : FieldRow) : Checked Field := Field.read "" r.raw

def notAfter (a b : FieldRow) : Bool :=
  match a.order,b.order with
  | .int m,.int n => m < n || (m == n && a.id ≤ b.id)
  | .int _,_ => true
  | _,.int _ => false
  | .str s,.str t => s < t || (s == t && a.id ≤ b.id)
  | _,_ => true

end FieldRow

structure Submission where
  id : Int
  form : Int
  submittedAt : Int
  data : Object
  deriving Repr

namespace Submission

def toWire (s : Submission) : Value :=
  .object [("id",.int s.id),("formId",.int s.form),("submittedAt",.str (DateTime.ofEpoch s.submittedAt).isoText),
    ("data",.object s.data)]

def newerFirst (a b : Submission) : Bool :=
  b.submittedAt < a.submittedAt || (a.submittedAt == b.submittedAt && b.id ≤ a.id)

end Submission
end FormBuilder
