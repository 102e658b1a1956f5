import FormBuilder.Proofs.Store.Parsed
/-! What is sent over the wire and read again at the other end: fields come back as they were, and so do snapshots
whose extras can still be told from the settings that are not sent. -/
namespace FormBuilder

theorem fieldWire (f : Field) (name : String) : (f.entries .wire).value? name =
    if name = "id" then some (.str f.id) else if name = "persistedId" then f.persistedId.map .str
    else if name = "label" then some (.str f.label) else if name = "order" then some (.ofNat f.order)
    else if name = "config" then some (.object (f.config .wire))
    else if name = "type" then some (.str f.type.name) else none := by
  have persisted := presentOption Value.str presentStr f.persistedId
  have object (o : Object) : (Value.object o).present = some (.object o) := rfl
  simp only [Field.entries,valueWire,valueNoEntries,persisted,object,presentStr,presentNat,Option.some_or,
    Key.id,Key.persistedId,Key.label,Key.order,Key.config,Key.type,@eq_comm _ _ name]
  by_cases same : name = "persistedId"
  · simp [same]
  · simp [same]

theorem fieldUnfolded (f : Field) : Field.foldFlat (f.entries .wire) = f.entries .wire := by
  have none : (f.entries .wire).filter (fun e => Field.isFlat e.1) = [] := by
    refine List.filter_eq_nil_iff.mpr ?_
    cases own : f.persistedId <;> simp [Field.entries,Spelling.entries,Spelling.spell,own,Value.ofOption,Value.ofNat,
      Field.isFlat,Field.flatKeys,Key.id,Key.persistedId,Key.label,Key.order,Key.config,Key.type]
  simp [Field.foldFlat,none]

theorem configSent (f : Field) : f.CarriedTo (f.config .wire) := by
  refine ⟨?_,?_,?_,fun name other => ?_⟩
  · rw [fieldConfig]
    rfl
  · rw [fieldConfig]
    rfl
  · rw [fieldConfig]
    rfl
  · simp only [List.mem_cons,List.not_mem_nil,or_false,not_or] at other
    simp only [fieldConfig,other,if_false]

theorem namedSame {f : Field} (named : f.Named) :
    { f.common with condition := f.condition.map Condition.named } = f.common := by
  have same : f.condition.map Condition.named = f.condition := by
    cases own : f.condition with
    | none => rfl
    | some c => rw [Option.map_some,Condition.named,named c own]
  rw [same]
  rfl

theorem fieldSent {f : Field} (named : f.Named) (fresh : String) : Field.read fresh f.toWire = .ok f := by
  have value := fieldWire f
  have tag : Field.tagged f.toWire = .ok (f.type,f.entries .wire) := by
    simp [Field.tagged,Field.toWire,value,FieldType.ofNameName]
  have settings := settingsCarried (configSent f) (value Key.config.camel)
  rw [namedSame named] at settings
  have persisted : (f.entries .wire).readAt Field.persistedIdNames none (Scalar.optional Scalar.text) =
      .ok f.persistedId := by
    cases own : f.persistedId <;>
      simp [Object.readAt,Object.given?,Field.persistedIdNames,value,own,Scalar.optional,Scalar.text,Checked.under,Except.map]
  have text (t : String) : Scalar.text (.str t) = .ok t := rfl
  have parts : Field.Parts fresh f.type (Field.foldFlat (f.entries .wire)) f := by
    rw [fieldUnfolded]
    exact ⟨Object.readAtGiven (Object.givenCamel (value _)) (text f.id) _,persisted,
      Object.readAtGiven (Object.givenCamel (value _)) (text f.label) _,
      Object.readAtGiven (Object.givenCamel (value _)) (Scalar.readNat f.order) _,settings⟩
  simp only [Field.read,tag,Field.partsComplete parts]
  rfl

theorem fieldParsesBack {f : Field} (named : f.Named) (m : Mint) : Field.parse f.toWire m = (.ok f,m) := by
  have given : Field.takesFresh f.toWire = false := by
    simp [Field.takesFresh,Field.tagged,Field.toWire,Object.has,fieldWire f,FieldType.ofNameName]
  simp only [Field.parse,given,fieldSent named]
  rfl

theorem fieldsParseBack {fields : List Field} (named : ∀ f ∈ fields, f.Named) (start : Nat) (m : Mint) :
    Field.parseEach start (fields.map Field.toWire) m = (.ok fields,m) := by
  induction fields generalizing start with
  | nil => rfl
  | cons f rest ih =>
    obtain ⟨first,others⟩ := List.forall_mem_cons.mp named
    simp only [List.map_cons,Field.parseEach,fieldParsesBack first,ih others]
    rfl

namespace Settings

-- Settings as they are once they have been read: no extra bears a name a declared setting is sent under.
structure WasRead (s : Settings) : Prop where
  distinct : (s.extra.map (·.1)).Nodup
  unsent : ∀ k ∈ keys, s.extra.value? k.camel = none

theorem readWasRead {o : Object} {s : Settings} (distinct : (o.map (·.1)).Nodup) (ok : ofObject o = .ok s) : WasRead s := by
  have extra := (readsSound ok).extra
  exact ⟨extra ▸ distinct.sublist (List.filter_sublist.map _),fun k declared => extra ▸ extrasHidden declared usedCamel⟩

theorem sentForeign {among : List (Key × Value)} {name : String} (foreign : ∀ a ∈ among, a.1.camel ≠ name) :
    (Spelling.wire.entries among).value? name = none := by
  induction among with
  | nil => rfl
  | cons head rest ih =>
    obtain ⟨other,foreign⟩ := List.forall_mem_cons.mp foreign
    rw [valueWire,if_neg other,ih foreign]

theorem sentValue {among : List (Key × Value)} (distinct : (among.map (·.1.camel)).Nodup) :
    ∀ a ∈ among, (Spelling.wire.entries among).value? a.1.camel = a.2.present := by
  induction among with
  | nil => simp
  | cons head rest ih =>
    obtain ⟨once,distinct⟩ := List.nodup_cons.mp distinct
    intro a member
    rw [valueWire]
    rcases List.mem_cons.mp member with rfl | later
    · have absent : (Spelling.wire.entries rest).value? a.1.camel = none :=
        sentForeign fun b among same => once (List.mem_map.mpr ⟨b,among,same⟩)
      rw [if_pos rfl,absent,Option.or_none]
    · have other : head.1.camel ≠ a.1.camel := fun same => once (List.mem_map.mpr ⟨a,later,same.symm⟩)
      rw [if_neg other,ih distinct a later]

def sent (s : Settings) : Object :=
  Spelling.wire.entries s.attributes ++ s.extra.filter (fun e => e.2.present.isSome)

theorem attributeCamel (s : Settings) {a : Key × Value} (member : a ∈ s.attributes) :
    (Spelling.wire.entries s.attributes).value? a.1.camel = a.2.present := by
  have distinct : (keys.map Key.camel).Nodup := by decide
  rw [← attributeKeys s,List.map_map] at distinct
  exact sentValue distinct a member

theorem entriesSent {s : Settings} (read : s.WasRead) : s.entries .wire = s.sent := by
  have kept : s.entries .wire = Object.overlay (Spelling.wire.entries s.attributes)
      (s.extra.filter (fun e => e.2.present.isSome)) := by
    refine congrArg (Object.overlay _) (List.filter_congr fun e _ => ?_)
    cases e.2 <;> rfl
  rw [kept]
  refine Object.overlayFresh (read.distinct.sublist (List.filter_sublist.map _)) fun e member => sentForeign ?_
  rintro a declared same
  have absent := read.unsent a.1 (attributeDeclared s declared)
  exact (Object.valueNone _ _).mp absent e (List.mem_filter.mp member).1 same.symm

theorem filteredNone {o : Object} {name : String} (absent : o.value? name = none) (keep : String × Value → Bool) :
    Object.value? (o.filter keep) name = none := by
  rw [Object.valueNone] at absent ⊢
  exact fun e member => absent e (List.mem_filter.mp member).1

theorem declaredAttribute (s : Settings) {k : Key} (declared : k ∈ keys) : ∃ v, (k,v) ∈ s.attributes := by
  rw [← attributeKeys s] at declared
  obtain ⟨a,member,rfl⟩ := List.mem_map.mp declared
  exact ⟨a.2,member⟩

theorem sentCamel {s : Settings} (read : s.WasRead) {a : Key × Value} (member : a ∈ s.attributes) :
    s.sent.value? a.1.camel = a.2.present := by
  have absent := filteredNone (read.unsent a.1 (attributeDeclared s member)) (fun e => e.2.present.isSome)
  rw [sent,Object.valueAppend,attributeCamel s member,absent,Option.or_none]

theorem camelForeign : ∀ k ∈ keys, k.camel ≠ k.snake → ∀ l ∈ keys, l.camel ≠ k.snake := by decide

end Settings

namespace Snapshot

def read (v : Value) (m : Mint) : Checked Snapshot × Mint :=
  match v with
  | .object o => ofObject o m
  | _ => (.fault .notRecord,m)

structure Validated (s : Snapshot) : Prop where
  settings : ∃ o : Object, (o.map (·.1)).Nodup ∧ Settings.ofObject o = .ok s.settings
  fields : ∀ f ∈ s.fields, f.Parsed

theorem wireValue (s : Snapshot) (name : String) : (Spelling.wire.entries s.attributes).value? name =
    if name = "title" then some (.str s.title) else if name = "description" then s.description.map .str
    else if name = "settings" then some s.settings.toWire else if name = "fields" then some (Field.wires s.fields)
    else none := by
  have settings : s.settings.toWire.present = some s.settings.toWire := rfl
  have fields : (Field.wires s.fields).present = some (Field.wires s.fields) := rfl
  simp only [attributes,valueWire,valueNoEntries,presentOption _ presentStr,settings,fields,presentStr,Option.some_or,
    Key.title,Key.description,Key.settings,Key.fields,@eq_comm _ _ name]
  by_cases same : name = "description"
  · simp [same]
  · simp [same]

theorem readsBack {s : Snapshot} (named : ∀ f ∈ s.fields, f.Named) (m : Mint) :
    read s.toWire m = (.ok s,m) ↔ Settings.ofObject (s.settings.entries .wire) = .ok s.settings := by
  have value := wireValue s
  have fields : (Spelling.wire.entries s.attributes).given? Key.fields.names = some ("fields",Field.wires s.fields) :=
    Object.givenCamel (value _)
  have title : (Spelling.wire.entries s.attributes).readAt Key.title.names defaultTitle Scalar.text = .ok s.title :=
    Object.readAtGiven (Object.givenCamel (value _)) (show Scalar.text (.str s.title) = .ok s.title from rfl) _
  have description : (Spelling.wire.entries s.attributes).readAt Key.description.names none (Scalar.optional Scalar.text) =
      .ok s.description := by
    have text (t : String) : Scalar.optional Scalar.text (.str t) = .ok (some t) := rfl
    rw [readOptional (value _) (fun none => (value _).trans (by simp [none,Key.description])) text,Option.map_id']
  have settings := Object.readAtCamel (value Key.settings.camel) Settings.default Settings.read
  have all : readFields (Field.wires s.fields) m = (.ok s.fields,m) := fieldsParseBack named 0 m
  have own : Settings.read s.settings.toWire = Settings.ofObject (s.settings.entries .wire) := rfl
  simp only [read,toWire,ofObject,fields,all,title,description,settings,own]
  cases Settings.ofObject (s.settings.entries .wire) with
  | error faults => simp [Checked.under,Checked.part,Checked.both,Except.map]
  | ok t =>
    show (Except.ok { s with settings := t },m) = _ ↔ _
    constructor
    · intro same
      exact congrArg Except.ok (congrArg Snapshot.settings (Except.ok.inj (congrArg Prod.fst same)))
    · intro same
      rw [Except.ok.inj same]

end Snapshot

end FormBuilder
