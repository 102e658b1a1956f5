import FormBuilder.Field.Read
import FormBuilder.Field.Wire
/-! Changing a field: the change is laid over the field written out plainly, and the result is read
again, so a change of kind keeps exactly the settings that the new kind knows. -/
namespace FormBuilder

/-- A demand that no data of its shape can meet: something was to be gone through, or looked into by
name, that has no parts or no names. -/
inductive Misuse where
  | noParts
  | noNames
  deriving DecidableEq, Repr

namespace Field

def configChange (v : Value) : Except Misuse Object :=
  match v with
  | .object o => .ok (Object.renameKeys Text.underscored o)
  | v => if v.isVoid then .ok [] else .error .noNames

def overlay (base : Object × Object) (key : String) (v : Value) : Except Misuse (Object × Object) :=
  if key = "config" then (configChange v).map (fun change => (base.1,base.2.overlay change))
  else if isFlat key then .ok (base.1,base.2.put key v)
  else .ok (base.1.put key v,base.2)

def overlayAll (base : Object × Object) : Object → Except Misuse (Object × Object)
  | [] => .ok base
  | (key,v) :: rest =>
    match overlay base key v with
    | .ok next => overlayAll next rest
    | .error e => .error e

def changed (f : Field) (changes : Object) : Except Misuse Value :=
  (overlayAll (f.entries .plain,f.config .plain) (changes.renameKeys Text.underscored)).map
    (fun base => .object (base.1.put "config" (.object base.2)))

def apply (f : Field) (changes : Object) : Except Misuse (Checked Field) :=
  (changed f changes).map (read f.id)

def explicit (raw : Object) (f : Field) : Object :=
  let raw := foldFlat raw
  let given : Object := match raw.value? "config" with
    | some (.object o) => o
    | _ => []
  let settings := ((f.common.attributes .plain ++ f.kind.attributes).filter
    (fun a => (given.given? a.1.names).isSome)).map (fun a => (a.1.snake,a.2))
  (f.entries .plain).filterMap fun e =>
    if e.1 = "config" then (if raw.has "config" then some (e.1,.object settings) else none)
    else if e.1 = "persisted_id" then (if (raw.given? persistedIdNames).isSome then some e else none)
    else if raw.has e.1 then some e else none

end Field

namespace Common

def explicit (raw : Object) (c : Common) : Object :=
  ((c.attributes .plain).filter (fun a => (raw.given? a.1.names).isSome)).map (fun a => (a.1.snake,a.2))

end Common
end FormBuilder
