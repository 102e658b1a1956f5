import FormBuilder.Notice
import FormBuilder.Sanitize
import FormBuilder.Store.Fault
import FormBuilder.Store.Row
/-! The store of forms, their fields and submissions. Row ids are one more than the highest in use,
so the id of a deleted last row is given out again. A write that is refused changes nothing. -/
namespace FormBuilder

structure Store where
  forms : List FormRow
  fields : List FieldRow
  submissions : List Submission
  fieldsLocked : Bool
  /-- How many values one statement may carry. -/
  mostValues : Nat
  deriving Repr

structure Patch where
  title : Option String
  description : Option (Option String)
  status : Option Value
  settings : Option Object
  deriving Repr

def Patch.none : Patch := ⟨.none,.none,.none,.none⟩

namespace Store

def empty : Store := ⟨[],[],[],false,32766⟩

def nextId (ids : List Int) : Int := ids.foldl max 0 + 1

def fits (n : Int) : Bool := -9223372036854775808 ≤ n && n < 9223372036854775808

/-! ### Forms -/

def formRow? (s : Store) (form : Int) (owner : Option String) : Option FormRow :=
  s.forms.find? (fun r => r.id == form && owner.all (· == r.owner))

def slugRow? (s : Store) (slug : String) : Option FormRow := s.forms.find? (fun r => r.slug == slug)

def readAll (rows : List FieldRow) : Except StoreFault (List Field) :=
  match rows with
  | [] => .ok []
  | r :: rest =>
    match r.toField with
    | .error _ => .error (.unreadableField r.id)
    | .ok f => (readAll rest).map (f :: ·)

def fieldRows (s : Store) (form : Int) : List FieldRow := s.fields.filter (fun r => r.form == form)

def getFields (s : Store) (form : Int) : Except StoreFault (List Field) :=
  readAll ((s.fieldRows form).mergeSort FieldRow.notAfter)

def countFields (s : Store) (form : Int) : Nat := (s.fieldRows form).length

def formOf (s : Store) (r : FormRow) : Except StoreFault Form :=
  match s.getFields r.id with
  | .error e => .error e
  | .ok fields => (r.toForm fields).mapError .invalid

def formOf? (s : Store) : Option FormRow → Except StoreFault (Option Form)
  | none => .ok none
  | some r => (s.formOf r).map some

def getForm (s : Store) (form : Int) (owner : Option String) : Except StoreFault (Option Form) :=
  s.formOf? (s.formRow? form owner)

def getFormBySlug (s : Store) (slug : String) : Except StoreFault (Option Form) := s.formOf? (s.slugRow? slug)

def readForms (s : Store) : List FormRow → Except StoreFault (List Form)
  | [] => .ok []
  | r :: rest =>
    match s.formOf r with
    | .error e => .error e
    | .ok f => (s.readForms rest).map (f :: ·)

def changedLater (a b : FormRow) : Bool :=
  b.updatedAt < a.updatedAt || (a.updatedAt == b.updatedAt && b.id ≤ a.id)

def listForms (s : Store) (owner : String) : Except StoreFault (List Form) :=
  s.readForms ((s.forms.filter (fun r => r.owner == owner)).mergeSort changedLater)

def availableSlug (s : Store) (title : String) (m : Mint) : String × Mint :=
  let slug := Text.slug title
  let base := if slug.isEmpty then "form" else slug
  if (s.slugRow? base).isSome then m.slug base else (base,m)

def keptSettings (settings : Settings) : Object := settings.dumped.entries .plain

def withForm (s : Store) (r : FormRow) : Store := { s with forms := s.forms ++ [r] }

def insertForm (s : Store) (r : FormRow) : Store × Except StoreFault Form :=
  if (s.slugRow? r.slug).isSome then (s,.error (.violates .slugUnique))
  else (s.withForm r,(r.toForm []).mapError .invalid)

def newSlug (s : Store) (m : Mint) (title : String) (slug : Option String) : String × Mint :=
  match slug.filter (fun s => !s.isEmpty) with
  | some given => (given,m)
  | none => s.availableSlug title m

def newRow (s : Store) (now : Int) (owner title slug : String) (description : Option String) (settings : Settings) :
    FormRow :=
  ⟨nextId (s.forms.map (·.id)),owner,title,slug,description,.draft,keptSettings settings,now,now⟩

def newSettings (settings : Value) : Checked Settings :=
  Settings.read (if settings.isVoid then .object [] else settings)

def createForm (s : Store) (m : Mint) (owner title : String) (description : Option String) (settings : Value)
    (slug : Option String) : Store × Mint × Except StoreFault Form :=
  match newSettings settings with
  | .error faults => (s,m,.error (.invalid faults))
  | .ok settings =>
    let (slug,m) := s.newSlug m title slug
    let (s,form) := s.insertForm (s.newRow m.seconds owner title slug description settings)
    (s,m,form)

def patchedStatus (r : FormRow) (p : Patch) : Except StoreFault Status :=
  match p.status with
  | none => .ok r.status
  | some v => (Status.read v).mapError (fun _ => .unknownStatus v)

def patched (r : FormRow) (p : Patch) : Except StoreFault FormRow :=
  let r := { r with title := p.title.getD r.title, description := p.description.getD r.description }
  match patchedStatus r p,p.settings with
  | .error e,_ => .error e
  | .ok status,none => .ok { r with status }
  | .ok status,some changes =>
    match Settings.ofObject (Settings.merged r.settings changes) with
    | .error faults => .error (.invalid faults)
    | .ok settings => .ok { r with status, settings := keptSettings settings }

def putForm (s : Store) (r : FormRow) : Store :=
  { s with forms := s.forms.map (fun old => if old.id = r.id then r else old) }

def updateForm (s : Store) (now : Int) (form : Int) (owner : Option String) (p : Patch) :
    Store × Except StoreFault (Option Form) :=
  match s.formRow? form owner with
  | none => (s,.ok none)
  | some r =>
    match patched r p with
    | .error e => (s,.error e)
    | .ok r =>
      let r := { r with updatedAt := now }
      let s := s.putForm r
      (s,(s.formOf r).map some)

def withoutForm (s : Store) (form : Int) : Store :=
  { s with
    forms := s.forms.filter (fun r => r.id != form)
    fields := s.fields.filter (fun r => r.form != form)
    submissions := s.submissions.filter (fun r => r.form != form) }

def deleteForm (s : Store) (form : Int) (owner : Option String) : Store × Bool :=
  match s.formRow? form owner with
  | none => (s,false)
  | some r => (s.withoutForm r.id,true)

/-! ### Fields -/

def collisionNotice (form : Int) (earlier later key : String) : Notice :=
  ⟨.warning,"Form " ++ toString form ++ ": fields " ++ earlier ++ " and " ++ later ++ " share the value key " ++ Text.quoted key⟩

def collisionNotices (form : Int) (holders : List (String × String)) : List Field → List Notice
  | [] => []
  | f :: rest =>
    if f.isLayout then collisionNotices form holders rest
    else
      let later := collisionNotices form ((f.valueKey,f.id) :: holders) rest
      match holders.find? (fun h => h.1 == f.valueKey) with
      | none => later
      | some h => collisionNotice form h.2 f.id f.valueKey :: later

def rowsFrom (start form : Int) : List Field → List FieldRow
  | [] => []
  | f :: rest => .ofField start form f :: rowsFrom (start + 1) form rest

def refusal? (s : Store) (form : Int) (ids : List String) : List Field → Option WriteFault
  | [] => if s.forms.any (fun r => r.id == form) then none else some (.violates .formExists)
  | f :: rest =>
    if !f.storable then some .malformed
    else if ids.contains f.id then some (.violates .fieldIdUnique)
    else s.refusal? form (f.id :: ids) rest

def writeFault? (s : Store) (form : Int) (fields : List Field) : Option StoreFault :=
  if !fits form then some .outOfRange
  else if fields.isEmpty then none
  else if s.fieldsLocked then some (.unwritableFields form .locked)
  else if s.mostValues < FieldRow.columns * fields.length then some (.unwritableFields form .tooManyValues)
  else if !fields.all (fun f => fits f.order) then some .outOfRange
  else (s.refusal? form [] fields).map (.unwritableFields form)

def withFields (s : Store) (now form : Int) (fields : List Field) : Store :=
  let others := s.fields.filter (fun r => r.form != form)
  { s with
    fields := others ++ rowsFrom (nextId (others.map (·.id))) form fields
    forms := s.forms.map (fun r => if r.id = form then { r with updatedAt := now } else r) }

def replaceFields (s : Store) (now form : Int) (fields : List Field) :
    Store × Except StoreFault (List Field) × List Notice :=
  let fields := Field.sorted fields
  let notices := collisionNotices form [] fields
  match s.writeFault? form fields with
  | some fault => (s,.error fault,notices)
  | none =>
    let s := s.withFields now form fields
    (s,s.getFields form,notices)

/-! ### Submissions -/

def createSubmission (s : Store) (now form : Int) (data : Object) : Store × Except StoreFault Submission :=
  if !Value.finiteEntries data then (s,.error .malformed)
  else if s.forms.any (fun r => r.id == form) then
    let submission : Submission := ⟨nextId (s.submissions.map (·.id)),form,now,data⟩
    ({ s with submissions := s.submissions ++ [submission] },.ok submission)
  else (s,.error (.violates .formExists))

def submissionsOf (s : Store) (form : Int) : List Submission := s.submissions.filter (fun r => r.form == form)

def countSubmissions (s : Store) (form : Int) : Nat := (s.submissionsOf form).length

def pageSize : Nat := 50

def pageFits (page size : Int) : Bool := fits ((max page 1 - 1) * size) && fits size

def listSubmissions (s : Store) (form : Int) (page : Int) (size : Int) : List Submission :=
  let all := (s.submissionsOf form).mergeSort Submission.newerFirst
  let rest := all.drop ((max page 1 - 1) * size).toNat
  if size < 0 then rest else rest.take size.toNat

/-! ### Damage -/

def columnText : Value → String
  | .str s => s
  | v => v.inner

def overwritten (r : FieldRow) (column : String) (v : Value) : Except StoreFault FieldRow :=
  match column,v with
  | "placeholder",.null => .ok { r with placeholder := none }
  | _,.null => .error (.violates (.columnGiven ("form_fields." ++ column)))
  | "client_id",v => .ok { r with clientId := columnText v }
  | "field_type",v => .ok { r with type := columnText v }
  | "label",v => .ok { r with label := columnText v }
  | "placeholder",v => .ok { r with placeholder := some (columnText v) }
  | "is_required",v => .ok { r with required := !v.isVoid }
  | "field_order",v => .ok { r with order := ((Scalar.int v).map Value.int).toOption.getD (.str (columnText v)) }
  | "config",v => if v.finite then .ok { r with config := v } else .error .malformed
  | _,_ => .ok r

def overwrite (s : Store) (clientId column : String) (v : Value) : Store × Except StoreFault Nat :=
  let hit (r : FieldRow) : Bool := r.clientId == clientId
  match (s.fields.filter hit).mapM (fun r => overwritten r column v) with
  | .error e => (s,.error e)
  | .ok changed =>
    ({ s with fields := s.fields.map (fun r =>
        if hit r then (overwritten r column v).toOption.getD r else r) },.ok changed.length)

end Store
end FormBuilder
