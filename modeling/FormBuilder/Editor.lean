import FormBuilder.Outline
import FormBuilder.Sanitize
/-! The form being edited: its fields in order, the selection, and whether anything is unsaved. Every
structural operation leaves the orders dense, `0, 1, …`. -/
namespace FormBuilder

structure Editor where
  fields : List Field
  title : Value
  description : Value
  settings : Settings
  selected : Option String
  dirty : Bool
  saved : Bool
  preview : Bool
  /-- Grows with every change of the content. -/
  revision : Nat
  deriving Repr

inductive EditFault where
  | invalid (faults : List Fault)
  | misuse (m : Misuse)
  | unknownType (given : Value)
  deriving Repr

inductive Reply where
  | nothing
  | field (f : Field)
  | fields (fs : List Field)
  | flag (b : Bool)
  | settings (s : Settings)
  deriving Repr

inductive Command where
  | add (type : Value) (position : Option Int)
  | update (id : String) (changes : Value)
  | delete (id : String)
  | duplicate (id : String)
  | reorder (source target : Int)
  | select (id : Option String)
  | setFields (items : Value)
  | applyText (text : String)
  | setTitle (title : Value)
  | setDescription (description : Value)
  | updateSettings (changes : Value)
  | togglePreview
  deriving Repr

namespace Value

def parts : Value → Except Misuse (List Value)
  | .list items => .ok items
  | .object entries => .ok (entries.map (fun e => .str e.1))
  | .str s => .ok (s.toList.map (fun c => .str (String.singleton c)))
  | _ => .error .noParts

def isName : Value → Bool
  | .list _ => false
  | .object _ => false
  | _ => true

end Value

namespace Editor

def arranged (fields : List Field) : List Field := Field.renumber (Field.sorted fields)

def ofParts (fields : List Field) (title description : Value) (settings : Settings) : Editor :=
  ⟨arranged fields,title,description,settings,none,false,false,false,0⟩

def ofSnapshot (s : Snapshot) : Editor := ofParts s.fields (.str s.title) (.ofOption .str s.description) s.settings

/-! ### Looking around -/

def field? (e : Editor) (id : String) : Option Field := Field.find? e.fields id

def indexOf? (e : Editor) (id : String) : Option Nat := e.fields.findIdx? (fun f => f.id == id)

def selectedField (e : Editor) : Option Field := e.selected.bind e.field?

def valueKey? (e : Editor) (id : String) : Option String := (e.field? id).map Field.valueKey

def candidates (e : Editor) (id : String) : List Field :=
  let limit := ((e.field? id).map (·.order)).getD e.fields.length
  e.fields.filter (fun c => c.order < limit && !c.isLayout)

def pointsForward (fields : List Field) (f : Field) (target : String) : Bool :=
  match Field.find? fields target with
  | none => true
  | some t => f.order ≤ t.order

def forwardReferences (e : Editor) : List (Field × String) :=
  e.fields.filterMap fun f =>
    f.condition.bind fun c => if pointsForward e.fields f c.target then some (f,c.target) else none

def addToGroup (groups : List (String × List String)) (key id : String) : List (String × List String) :=
  match groups with
  | [] => [(key,[id])]
  | g :: rest => if g.1 = key then (g.1,g.2 ++ [id]) :: rest else g :: addToGroup rest key id

def keyGroups (fields : List Field) : List (String × List String) :=
  fields.foldl (fun groups f => if f.isLayout then groups else addToGroup groups f.valueKey f.id) []

def collisions (fields : List Field) : List (String × List String) :=
  (keyGroups fields).filter (fun g => 1 < g.2.length)

def keyCollisions (e : Editor) : List (String × List String) := collisions e.fields

/-! ### Edits -/

structure Outcome where
  editor : Editor
  mint : Mint
  reply : Except EditFault Reply
  notices : List Notice

def Outcome.silent (e : Editor) (m : Mint) (r : Reply) : Outcome := ⟨e,m,.ok r,[]⟩

def Outcome.failed (e : Editor) (m : Mint) (fault : EditFault) : Outcome := ⟨e,m,.error fault,[]⟩

def touch (e : Editor) : Editor := { e with revision := e.revision + 1, dirty := true }

def clamp (size : Nat) : Option Int → Nat
  | none => size
  | some n => if n < 0 then 0 else Nat.min n.toNat size

def placed (e : Editor) (f : Field) (position : Nat) : Editor :=
  { e with fields := Field.renumber (e.fields.insertIdx position f), selected := some f.id }.touch

def add (e : Editor) (t : FieldType) (position : Option Int) (m : Mint) : Outcome :=
  let (id,m) := m.fieldId
  let place := clamp e.fields.length position
  let f := Field.initial id t place
  .silent (e.placed f place) m (.field f)

def protectedKeys : List String := ["id","order","persisted_id","persistedId"]

def permitted (changes : Value) : Except Misuse Object :=
  match changes with
  | .object o => .ok (o.filter (fun c => !protectedKeys.contains c.1))
  | .list items => .error (if items.all Value.isName then .noNames else .noParts)
  | .str _ => .error .noNames
  | _ => .error .noParts

def rejectedUpdate (id : String) (faults : List Fault) : Notice :=
  ⟨.warning,"Rejected update for field " ++ id ++ ": " ++ toString faults.length ++ " invalid values"⟩

def update (e : Editor) (id : String) (changes : Value) (m : Mint) : Outcome :=
  match e.indexOf? id,e.field? id with
  | some i,some f =>
    match (permitted changes).bind f.apply with
    | .error misuse => .failed e m (.misuse misuse)
    | .ok (.error faults) => ⟨e,m,.ok .nothing,[rejectedUpdate id faults]⟩
    | .ok (.ok updated) => .silent ({ e with fields := e.fields.set i updated }.touch) m (.field updated)
  | _,_ => .silent e m .nothing

def delete (e : Editor) (id : String) (m : Mint) : Outcome :=
  match e.indexOf? id with
  | none => .silent e m (.flag false)
  | some i =>
    let e := { e with
      fields := Field.renumber (e.fields.eraseIdx i)
      selected := if e.selected = some id then none else e.selected }
    .silent e.touch m (.flag true)

def duplicate (e : Editor) (id : String) (m : Mint) : Outcome :=
  match e.indexOf? id,e.field? id with
  | some i,some f =>
    let (fresh,m) := m.fieldId
    let copy := { f with id := fresh, persistedId := none, order := i + 1 }
    .silent (e.placed copy (i + 1)) m (.field copy)
  | _,_ => .silent e m .nothing

def moved (fields : List Field) (source target : Nat) : List Field :=
  match fields[source]? with
  | none => fields
  | some f => (fields.eraseIdx source).insertIdx target f

def inRange (n : Int) (size : Nat) : Bool := 0 ≤ n && n < size

def reorder (e : Editor) (source target : Int) (m : Mint) : Outcome :=
  if inRange source e.fields.length && inRange target e.fields.length then
    .silent ({ e with fields := Field.renumber (moved e.fields source.toNat target.toNat) }.touch) m (.flag true)
  else .silent e m (.flag false)

def replaceFields (e : Editor) (fields : List Field) : Editor :=
  let e := { e with fields := arranged fields }
  { e with selected := e.selected.filter (fun id => (e.field? id).isSome) }.touch

def setFields (e : Editor) (items : Value) (m : Mint) : Outcome :=
  match items.parts with
  | .error misuse => .failed e m (.misuse misuse)
  | .ok items =>
    match Field.parseAll items m with
    | (.error faults,m) => .failed e m (.invalid faults)
    | (.ok fields,m) => .silent (e.replaceFields fields) m .nothing

def applyText (e : Editor) (text : String) (m : Mint) : Outcome :=
  let (parsed,m) := Outline.parse text m
  let e := e.replaceFields parsed.fields
  ⟨e,m,.ok (.fields e.fields),parsed.notices⟩

def rejectedSettings (faults : List Fault) : Notice :=
  ⟨.warning,"Rejected settings update: " ++ toString faults.length ++ " invalid values"⟩

def updateSettings (e : Editor) (changes : Value) (m : Mint) : Outcome :=
  match changes with
  | .object o =>
    match e.settings.apply o with
    | .error faults => ⟨e,m,.ok (.settings e.settings),[rejectedSettings faults]⟩
    | .ok s => .silent ({ e with settings := s }.touch) m (.settings s)
  | _ => .failed e m (.misuse .noNames)

def togglePreview (e : Editor) (m : Mint) : Outcome :=
  let e := { e with preview := !e.preview, selected := if e.preview then e.selected else none }
  .silent e m (.flag e.preview)

def run (e : Editor) (m : Mint) : Command → Outcome
  | .add type position =>
    match type with
    | .str s =>
      match FieldType.ofName? s with
      | some t => e.add t position m
      | none => .failed e m (.unknownType type)
    | _ => .failed e m (.unknownType type)
  | .update id changes => e.update id changes m
  | .delete id => e.delete id m
  | .duplicate id => e.duplicate id m
  | .reorder source target => e.reorder source target m
  | .select id => .silent { e with selected := id } m .nothing
  | .setFields items => e.setFields items m
  | .applyText text => e.applyText text m
  | .setTitle title => .silent ({ e with title := title }.touch) m .nothing
  | .setDescription description => .silent ({ e with description := description }.touch) m .nothing
  | .updateSettings changes => e.updateSettings changes m
  | .togglePreview => e.togglePreview m

/-! ### Saving -/

def markSaved (e : Editor) : Editor := { e with dirty := false, saved := true }

def reset (e : Editor) : Editor :=
  { ofParts [] (.str defaultTitle) .null .default with revision := e.revision + 1 }

def snapshot (e : Editor) : Checked Snapshot :=
  Checked.both (fun title description => ⟨title,description,e.settings,e.fields⟩)
    (Checked.under (.name "title") (Scalar.text e.title))
    (Checked.under (.name "description") (Scalar.optional Scalar.text e.description))

def collisionNotices (e : Editor) : List Notice :=
  e.keyCollisions.map fun g =>
    ⟨.warning,"Fields " ++ Text.quotedList g.2 ++ " share the value key " ++ Text.quoted g.1 ++
      "; the last one wins in submissions"⟩

def completed (e : Editor) (revision : Nat) : Editor :=
  { e with saved := true, dirty := if e.revision = revision then false else e.dirty }

end Editor
end FormBuilder
