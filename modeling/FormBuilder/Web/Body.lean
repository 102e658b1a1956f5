import FormBuilder.Service.Basic
/-! What the bodies of requests must hold. Names that nobody asked for are passed over. -/
namespace FormBuilder.Web
open Checked (fault under)

def maxTitle : Nat := 200
def maxDescription : Nat := 500

def readBody (body : Option String) : Except Nat Value :=
  match (body.getD "").toList with
  | [] => .ok .null
  | c :: rest => Json.read (String.ofList (if c.toNat = 0xfeff then rest else c :: rest))

def asRecord (read : Object → Checked α) : Value → Checked α
  | .null => fault .missing
  | .object o => read o
  | _ => fault .notAttributes

def required (o : Object) (name : String) (read : Value → Checked α) : Checked α :=
  under (.name name) ((o.value? name).elim (fault .missing) read)

def given? (o : Object) (name : String) (read : Value → Checked α) : Checked (Option (Option α)) :=
  match o.value? name with
  | none => .ok none
  | some v => under (.name name) ((Scalar.optional read v).map some)

def boundedText (least most : Nat) : Value → Checked String
  | .str s =>
    if s.length < least then fault (.tooShort least) else if most < s.length then fault (.tooLong most) else .ok s
  | _ => fault .notText

def record : Value → Checked Object
  | .object o => .ok o
  | _ => fault .notObject

def records : Value → Checked (List Object)
  | .list items => Checked.each record 0 items
  | _ => fault .notList

structure NewForm where
  title : String
  description : Option String
  settings : Option Object
  fields : Option (List Object)
  deriving Repr

def readNewForm : Value → Checked NewForm :=
  asRecord fun o =>
    .part (.part (.part ((required o "title" (boundedText 1 maxTitle)).map NewForm.mk)
      ((given? o "description" (boundedText 0 maxDescription)).map Option.join))
      ((given? o "settings" record).map Option.join))
      ((given? o "fields" records).map Option.join)

def entry (name : String) (write : α → Value) : Option (Option α) → Object
  | none => []
  | some v => [(name,.ofOption write v)]

def rawFields (items : List Object) : FieldSource := .raw (.list (items.map .object))

def updateOf (title description : Option (Option String)) (status : Option (Option Status))
    (settings : Option (Option Object)) (fields : Option (Option (List Object))) : Update :=
  ⟨.object (entry "title" .str title ++ entry "description" .str description ++
      entry "status" (fun t => .str t.name) status ++ entry "settings" .object settings),
    fields.join.map rawFields⟩

def readUpdate : Value → Checked Update :=
  asRecord fun o =>
    .part (.part (.part (.part ((given? o "title" (boundedText 1 maxTitle)).map updateOf)
      (given? o "description" (boundedText 0 maxDescription)))
      (given? o "status" Status.read)) (given? o "settings" record)) (given? o "fields" records)

def readText (name : String) : Value → Checked String := asRecord fun o => required o name Scalar.text

end FormBuilder.Web
