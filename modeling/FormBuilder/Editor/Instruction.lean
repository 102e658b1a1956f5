import FormBuilder.Saving
/-! What an editor is told to do, with arguments that nobody has looked at. An argument of the wrong kind is found out
only where it is used: compared with a number, taken for a place in a list, or read as text. -/
namespace FormBuilder

inductive Edit where
  | add (type position : Value)
  | update (id changes : Value)
  | delete (id : Value)
  | duplicate (id : Value)
  | reorder (source target : Value)
  | select (id : Option String)
  | setFields (items : Value)
  | applyText (text : Value)
  | setTitle (title : Value)
  | setDescription (description : Value)
  | updateSettings (changes : Value)
  | togglePreview
  deriving Repr

inductive Instruction where
  | edit (e : Edit)
  | setItems (items : List (Field ⊕ Value))
  | markSaved
  | reset
  | snapshot
  | save (persistence : Persistence)
  | endSave (revision : Nat)

inductive Objection where
  | edit (fault : EditFault)
  | save (fault : SaveFault)
  | unordered
  | noPlace
  | noText
  deriving Repr

inductive Index where
  | whole (n : Int)
  | real (x : Double)
  deriving Repr

namespace Index

def of? : Value → Option Index
  | .bool b => some (.whole (if b then 1 else 0))
  | .int n => some (.whole n)
  | .float x => some (.real x)
  | _ => none

def inRange (size : Nat) : Index → Bool
  | whole n => Editor.inRange n size
  | real x => !x.ltInt 0 && x.ltInt size

end Index

namespace Edit

inductive Reading where
  | run (c : Command)
  | answer (r : Reply)
  | objection (why : Objection)
  /-- A new field for a place that only looks like one: the field is made before that is found out. -/
  | between (type : FieldType) (place : Double)

def typeOf? : Value → Option FieldType
  | .str s => FieldType.ofName? s
  | _ => none

def readPlace (size : Nat) (type : Value) (t : FieldType) : Index → Reading
  | .whole n => .run (.add type (some n))
  | .real x =>
    if Double.intLt size x then .run (.add type (some size))
    else if Double.intLt 0 x then .between t x
    else .run (.add type (some 0))

def readAdd (size : Nat) (type position : Value) : Reading :=
  match typeOf? type,position with
  | none,_ => .objection (.edit (.unknownType type))
  | some _,.null => .run (.add type none)
  | some t,v => (Index.of? v).elim (.objection .unordered) (readPlace size type t)

def readId (id : Value) (unknown : Reply) (command : String → Command) : Reading :=
  match id with
  | .str s => .run (command s)
  | _ => .answer unknown

def readMove (size : Nat) (source target : Value) : Reading :=
  match Index.of? source with
  | none => .objection .unordered
  | some s =>
    if !s.inRange size then .answer (.flag false)
    else
      match Index.of? target with
      | none => .objection .unordered
      | some t =>
        if !t.inRange size then .answer (.flag false)
        else
          match s,t with
          | .whole i,.whole j => .run (.reorder i j)
          | _,_ => .objection .noPlace

def readText : Value → Reading
  | .str s => .run (.applyText s)
  | v => if v.isVoid then .run (.applyText "") else .objection .noText

def read (size : Nat) : Edit → Reading
  | add type position => readAdd size type position
  | update id changes => readId id .nothing (.update · changes)
  | delete id => readId id (.flag false) .delete
  | duplicate id => readId id .nothing .duplicate
  | reorder source target => readMove size source target
  | select id => .run (.select id)
  | setFields items => .run (.setFields items)
  | applyText text => readText text
  | setTitle title => .run (.setTitle title)
  | setDescription description => .run (.setDescription description)
  | updateSettings changes => .run (.updateSettings changes)
  | togglePreview => .run .togglePreview

end Edit

namespace Field

def initialRaw (id : String) (t : FieldType) (order : Value) : Object :=
  [("id",.str id),("type",.str t.name),("label",.str t.defaultLabel),("order",order),
    ("config",.object (startingConfig t))]

def parseItem (item : Field ⊕ Value) (m : Mint) : Checked Field × Mint :=
  match item with
  | .inl f => (.ok f,m)
  | .inr v => parse v m

def parseItems : List (Field ⊕ Value) → Mint → Checked (List Field) × Mint
  | [],m => (.ok [],m)
  | item :: rest,m =>
    match parseItem item m with
    | (.error e,m) => (.error e,m)
    | (.ok f,m) =>
      let (tail,m) := parseItems rest m
      (tail.map (f :: ·),m)

end Field

namespace Editor

structure Performed where
  editor : Editor
  mint : Mint
  reply : Except Objection (Reply ⊕ Snapshot)
  notices : List Notice

namespace Performed

def ofOutcome (o : Outcome) : Performed :=
  ⟨o.editor,o.mint,(o.reply.map .inl).mapError .edit,o.notices⟩

def silent (e : Editor) (m : Mint) (r : Reply) : Performed := ⟨e,m,.ok (.inl r),[]⟩

def failed (e : Editor) (m : Mint) (why : Objection) : Performed := ⟨e,m,.error why,[]⟩

end Performed

def addBetween (e : Editor) (t : FieldType) (place : Double) (m : Mint) : Performed :=
  let (id,m) := m.fieldId
  match Field.read id (.object (Field.initialRaw id t (.float place))) with
  | .error faults => .failed e m (.edit (.invalid faults))
  | .ok _ => .failed e m .noPlace

def runEdit (e : Editor) (m : Mint) (edit : Edit) : Performed :=
  match edit.read e.fields.length with
  | .run c => .ofOutcome (e.run m c)
  | .answer reply => .silent e m reply
  | .objection why => .failed e m why
  | .between t place => e.addBetween t place m

def setItems (e : Editor) (items : List (Field ⊕ Value)) (m : Mint) : Performed :=
  match Field.parseItems items m with
  | (.error faults,m) => .failed e m (.edit (.invalid faults))
  | (.ok fields,m) => .silent (e.replaceFields fields) m .nothing

def perform (e : Editor) (m : Mint) : Instruction → Performed
  | .edit edit => e.runEdit m edit
  | .setItems items => e.setItems items m
  | .markSaved => .silent e.markSaved m .nothing
  | .reset => .silent e.reset m .nothing
  | .snapshot => ⟨e,m,(e.snapshot.map .inr).mapError (fun faults => .edit (.invalid faults)),[]⟩
  | .save persistence =>
    let (after,reply,notices) := e.save persistence
    ⟨after,m,(reply.map .inr).mapError .save,notices⟩
  | .endSave revision => .silent (e.completed revision) m .nothing

end Editor
end FormBuilder
