import FormBuilder.Editor
import FormBuilder.RateLimit
import FormBuilder.Service.Fault
import FormBuilder.Store.Basic
/-! The rules around the store: owners see only their own forms, texts are cleaned before they are
kept, only forms with fields are published, and only published forms take submissions. -/
namespace FormBuilder

structure Service where
  store : Store
  limiter : Option (Limiter Double)
  mint : Mint
  notices : List Notice
  deriving Repr

inductive FieldSource where
  | raw (items : Value)
  | ready (fields : List Field)

structure Update where
  patch : Value
  fields : Option FieldSource

namespace Service

def start (limiter : Option (Limiter Double)) (mint : Mint) : Service := ⟨.empty,limiter,mint,[]⟩

def notify (s : Service) (notices : List Notice) : Service := { s with notices := s.notices ++ notices }

/-! ### What comes in -/

def cleanText : Value → Except ServiceFault String
  | .str t => .ok (Sanitize.clean t)
  | v => if v.isVoid then .ok "" else .error (.misuse .noParts)

def cleanOptionalText (v : Value) : Except ServiceFault (Option String) :=
  (cleanText v).map (fun t => if t.isEmpty then none else some t)

def title (v : Value) : Except ServiceFault String :=
  match cleanText v with
  | .error e => .error e
  | .ok t => if t.isEmpty then .error (.input .noTitle) else .ok t

def status (v : Value) : Except ServiceFault Status := (Status.read v).mapError (fun _ => .input .badStatus)

def settingsPatch (v : Value) : Except ServiceFault Object :=
  match Settings.read v,v with
  | .error faults,_ => .error (.input (.badSettings faults))
  | .ok _,.object o => .ok o
  | .ok _,_ => .ok []

def prepare (source : FieldSource) (m : Mint) : Except ServiceFault (List Field) × Mint :=
  match source with
  | .ready fields => ((Field.arrange fields).mapError (fun e => .input (.badFields e)),m)
  | .raw items =>
    match items.parts with
    | .error misuse => (.error (.misuse misuse),m)
    | .ok items =>
      let (prepared,m) := Field.prepare items m
      (prepared.mapError (fun e => .input (.badFields e)),m)

def patchPart (patch : Object) (key : String) (read : Value → Except ServiceFault α) : Except ServiceFault (Option α) :=
  match patch.value? key with
  | none => .ok none
  | some v => (read v).map some

def patchObject : Value → Except ServiceFault Object
  | .object o => .ok o
  | .list [] => .ok []
  | .str "" => .ok []
  | _ => .error (.misuse .noParts)

def readPatch (v : Value) : Except ServiceFault Patch := do
  let patch ← patchObject v
  let title ← patchPart patch "title" title
  let description ← patchPart patch "description" cleanOptionalText
  let status ← patchPart patch "status" status
  let settings ← match patch.value? "settings" with
    | none | some .null => pure none
    | some v => (settingsPatch v).map some
  return ⟨title,description,status.map (fun t => .str t.name),settings⟩

/-! ### Management -/

def owned (s : Service) (owner : String) (form : Int) : Except ServiceFault Form :=
  if !Store.fits form then .error (.store .outOfRange)
  else
    match s.store.getForm form (some owner) with
    | .error e => .error (.store e)
    | .ok none => .error (.missing (.owned form owner))
    | .ok (some f) => .ok f

def getForm (s : Service) (owner : String) (form : Int) : Except ServiceFault Form := s.owned owner form

def listForms (s : Service) (owner : String) : Except ServiceFault (List Form) :=
  (s.store.listForms owner).mapError .store

def storeFields (s : Service) (form : Int) (fields : List Field) : Service × Except ServiceFault Unit :=
  let (store,outcome,notices) := s.store.replaceFields s.mint.seconds form fields
  ({ s with store }.notify notices,(outcome.map (fun _ => ())).mapError .store)

def createForm (s : Service) (owner : String) (rawTitle description settings : Value) (fields : FieldSource) :
    Service × Except ServiceFault Form :=
  match title rawTitle with
  | .error e => (s,.error e)
  | .ok title =>
    let (prepared,mint) := prepare fields s.mint
    let s := { s with mint }
    match prepared,cleanOptionalText description with
    | .error e,_ => (s,.error e)
    | .ok _,.error e => (s,.error e)
    | .ok prepared,.ok description =>
      let (store,mint,created) := s.store.createForm s.mint owner title description settings none
      let s := { s with store, mint }
      match created with
      | .error (.invalid faults) => (s,.error (.input (.badSettings faults)))
      | .error e => (s,.error (.store e))
      | .ok form =>
        if prepared.isEmpty then (s,.ok form)
        else
          let id := form.id.getD 0
          match s.storeFields id prepared with
          | (s,.error e) => (s,.error e)
          | (s,.ok _) => (s,s.owned owner id)

/-- Stores a checked update: the fields first, then the form's own columns. -/
def storeUpdate (s : Service) (owner : String) (form : Int) (p : Patch) (fields : Option (List Field)) :
    Service × Except ServiceFault Form :=
  let (s,stored) : Service × Except ServiceFault Unit := match fields with
    | none => (s,.ok ())
    | some fields => s.storeFields form fields
  match stored with
  | .error e => (s,.error e)
  | .ok _ =>
    match s.store.updateForm s.mint.seconds form (some owner) p with
    | (store,.error e) => ({ s with store },.error (.store e))
    | (store,.ok none) => ({ s with store },.error (.missing (.owned form owner)))
    | (store,.ok (some f)) => ({ s with store },.ok f)

def prepareOptional (source : Option FieldSource) (m : Mint) : Except ServiceFault (Option (List Field)) × Mint :=
  match source with
  | none => (.ok none,m)
  | some source =>
    let (prepared,m) := prepare source m
    (prepared.map some,m)

def publishes (p : Patch) : Bool :=
  match p.status with
  | some (.str t) => t == Status.published.name
  | _ => false

def updateForm (s : Service) (owner : String) (form : Int) (u : Update) : Service × Except ServiceFault Form :=
  match s.owned owner form,readPatch u.patch with
  | .error e,_ => (s,.error e)
  | .ok _,.error e => (s,.error e)
  | .ok old,.ok patch =>
    let (prepared,mint) := prepareOptional u.fields s.mint
    let s := { s with mint }
    match prepared with
    | .error e => (s,.error e)
    | .ok fields =>
      if publishes patch && (fields.getD old.fields).isEmpty then (s,.error (.unpublishable form))
      else s.storeUpdate owner form patch fields

def snapshotUpdate (snapshot : Snapshot) : Update :=
  ⟨.object [("title",.str snapshot.title),("description",.ofOption .str snapshot.description),
    ("settings",.object (Store.keptSettings snapshot.settings))],some (.ready snapshot.fields)⟩

def saveSnapshot (s : Service) (owner : String) (form : Int) (snapshot : Snapshot) : Service × Except ServiceFault Form :=
  s.updateForm owner form (snapshotUpdate snapshot)

def deleteForm (s : Service) (owner : String) (form : Int) : Service × Except ServiceFault Unit :=
  if !Store.fits form then (s,.error (.store .outOfRange))
  else
    let (store,deleted) := s.store.deleteForm form (some owner)
    ({ s with store },if deleted then .ok () else .error (.missing (.owned form owner)))

def setStatus (s : Service) (owner : String) (form : Int) (v : Value) : Service × Except ServiceFault Form :=
  match status v with
  | .error e => (s,.error e)
  | .ok status =>
    match s.owned owner form with
    | .error e => (s,.error e)
    | .ok _ =>
      if status = .published && s.store.countFields form == 0 then (s,.error (.unpublishable form))
      else s.storeUpdate owner form { Patch.none with status := some (.str status.name) } none

def publishForm (s : Service) (owner : String) (form : Int) : Service × Except ServiceFault Form :=
  s.setStatus owner form (.str Status.published.name)

def unpublishForm (s : Service) (owner : String) (form : Int) : Service × Except ServiceFault Form :=
  s.setStatus owner form (.str Status.draft.name)

def copyFailed (copy source : Int) (why : StoreFault) : Notice :=
  ⟨.error,"Duplicated form " ++ toString copy ++ " but copying fields from " ++ toString source ++ " failed: " ++ why.message⟩

def isStoreError : StoreFault → Bool
  | .unreadableField _ => true
  | .unwritableFields _ _ => true
  | _ => false

def copyFields (s : Service) (source copy : Int) (fields : List Field) : Service × Except ServiceFault Unit :=
  if fields.isEmpty then (s,.ok ())
  else
    match s.storeFields copy (fields.map Field.cleaned) with
    | (s,.error (.store why)) =>
      if isStoreError why then (s.notify [copyFailed copy source why],.ok ()) else (s,.error (.store why))
    | other => other

def duplicateForm (s : Service) (owner : String) (form : Int) : Service × Except ServiceFault Form :=
  match s.owned owner form with
  | .error e => (s,.error e)
  | .ok source =>
    let (slug,mint) := s.mint.slug (source.slug.getD "" ++ "-copy")
    let (store,mint,created) := s.store.createForm mint owner (Sanitize.clean source.snapshot.title ++ " (Copy)")
      (Sanitize.cleanOptional source.snapshot.description) (.object (Store.keptSettings source.snapshot.settings)) (some slug)
    let s := { s with store, mint }
    match created with
    | .error e => (s,.error (.store e))
    | .ok copy =>
      let id := copy.id.getD 0
      match s.copyFields form id source.fields with
      | (s,.error e) => (s,.error e)
      | (s,.ok _) => (s,s.owned owner id)

def listSubmissions (s : Service) (owner : String) (form page : Int) : Except ServiceFault (List Submission × Nat) :=
  match s.owned owner form with
  | .error e => .error e
  | .ok _ =>
    if !Store.pageFits page Store.pageSize then .error (.store .outOfRange)
    else .ok (s.store.listSubmissions form page Store.pageSize,s.store.countSubmissions form)

/-! ### The public side -/

def getPublicForm (s : Service) (slug : String) : Except ServiceFault Form :=
  match s.store.getFormBySlug slug with
  | .error e => .error (.store e)
  | .ok (some f) => if f.isPublished then .ok f else .error (.missing (.published slug))
  | .ok none => .error (.missing (.published slug))

def letIn (s : Service) (client : String) : Service × Bool :=
  match s.limiter with
  | none => (s,true)
  | some limiter =>
    let (limiter,allowed) := limiter.allow (.ofInt s.mint.seconds) client
    ({ s with limiter := some limiter },allowed)

def submit (s : Service) (slug : String) (payload : Value) (client : String) : Service × Except ServiceFault Submission :=
  let (s,allowed) := s.letIn client
  if !allowed then (s,.error (.rateLimited client))
  else
    match s.store.getFormBySlug slug with
    | .error e => (s,.error (.store e))
    | .ok none => (s,.error (.missing (.named slug)))
    | .ok (some form) =>
      if !form.isPublished then (s,.error .notPublished)
      else if form.fields.isEmpty then (s,.error .noFields)
      else
        match validateSubmission form.fields payload with
        | .error errors => (s,.error (.rejected errors))
        | .ok data =>
          let (store,stored) := s.store.createSubmission s.mint.seconds (form.id.getD 0) (Sanitize.submission data)
          ({ s with store },stored.mapError .store)

end Service
end FormBuilder
