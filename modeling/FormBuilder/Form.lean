import FormBuilder.Settings
import FormBuilder.Time.DateTime
/-! Forms: what an editor saves, and what the store adds to it. -/
namespace FormBuilder

structure Snapshot where
  title : String
  description : Option String
  settings : Settings
  fields : List Field
  deriving Repr

inductive Status where
  | draft
  | published
  deriving DecidableEq, Repr

namespace Status

def name : Status → String
  | draft => "draft"
  | published => "published"

def ofName? (s : String) : Option Status := [draft,published].find? (fun t => t.name == s)

def read : Value → Checked Status
  | .str s =>
    match ofName? s with
    | some t => .ok t
    | none => .fault (.notMember ["draft","published"])
  | _ => .fault (.notMember ["draft","published"])

end Status

structure Form where
  snapshot : Snapshot
  id : Option Int
  owner : Option String
  slug : Option String
  status : Status
  createdAt : Option DateTime
  updatedAt : Option DateTime
  deriving Repr

def defaultTitle : String := "Untitled Form"

namespace Key

def title : Key := ⟨"title","title"⟩
def description : Key := ⟨"description","description"⟩
def settings : Key := ⟨"settings","settings"⟩
def fields : Key := ⟨"fields","fields"⟩
def owner : Key := ⟨"owner","owner"⟩
def slug : Key := ⟨"slug","slug"⟩
def status : Key := ⟨"status","status"⟩
def createdAt : Key := ⟨"createdAt","created_at"⟩
def updatedAt : Key := ⟨"updatedAt","updated_at"⟩

end Key

namespace Snapshot

def readFields (v : Value) (m : Mint) : Checked (List Field) × Mint :=
  match v with
  | .list items => Field.parseEach 0 items m
  | _ => (.fault .notList,m)

def ofObject (o : Object) (m : Mint) : Checked Snapshot × Mint :=
  let (fields,m) : Checked (List Field) × Mint :=
    match o.given? Key.fields.names with
    | none => (.ok [],m)
    | some (used,v) =>
      let (fields,m) := readFields v m
      (Checked.under (.name used) fields,m)
  (.part (.part (.part ((o.readAt Key.title.names defaultTitle Scalar.text).map Snapshot.mk)
    (o.readAt Key.description.names none (Scalar.optional Scalar.text)))
    (o.readAt Key.settings.names .default Settings.read))
    fields,m)

def attributes (s : Snapshot) : List (Key × Value) :=
  [(.title,.str s.title),(.description,.ofOption .str s.description),(.settings,s.settings.toWire),
    (.fields,Field.wires s.fields)]

def toWire (s : Snapshot) : Value := .object (Spelling.wire.entries s.attributes)

end Snapshot

namespace Form

def isPublished (f : Form) : Bool := f.status == .published

def fields (f : Form) : List Field := f.snapshot.fields

def read (v : Value) (m : Mint) : Checked Form × Mint :=
  match v with
  | .object o =>
    let o : Object := o
    let (snapshot,m) := Snapshot.ofObject o m
    (.part (.part (.part (.part (.part (.part (snapshot.map Form.mk)
      (o.readAt Key.id.names none (Scalar.optional Scalar.int)))
      (o.readAt Key.owner.names none (Scalar.optional Scalar.text)))
      (o.readAt Key.slug.names none (Scalar.optional Scalar.text)))
      (o.readAt Key.status.names .draft Status.read))
      (o.readAt Key.createdAt.names none (Scalar.optional DateTime.read)))
      (o.readAt Key.updatedAt.names none (Scalar.optional DateTime.read)),m)
  | _ => (.fault .notRecord,m)

def attributes (f : Form) : List (Key × Value) :=
  f.snapshot.attributes ++
    [(.id,.ofOption .int f.id),(.owner,.ofOption .str f.owner),(.slug,.ofOption .str f.slug),
      (.status,.str f.status.name),(.createdAt,.ofOption (fun d => .str d.isoText) f.createdAt),
      (.updatedAt,.ofOption (fun d => .str d.isoText) f.updatedAt)]

def toWire (f : Form) : Value := .object (Spelling.wire.entries f.attributes)

end Form
end FormBuilder
