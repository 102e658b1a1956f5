import FormBuilder.Config.Basic
import FormBuilder.Time.DateTime
import FormBuilder.Web.Body
import FormBuilder.Web.Reply
import FormBuilder.Web.Request
import FormBuilder.Web.Route
/-! The web service: it finds out what is asked for and by whom, checks the form of the request, and
puts what the service answers into a reply. -/
namespace FormBuilder.Web
open Checked (under)

structure App where
  config : Config
  service : Service
  deriving Repr

namespace App

def start (config : Config) (mint : Mint) : App :=
  let limiter : Option (Limiter Double) :=
    if config.rateLimit.enabled then some ⟨config.rateLimit.maxRequests,.ofInt config.rateLimit.windowSeconds,[]⟩ else none
  ⟨config,.start limiter mint⟩

def advance (a : App) (seconds : Int) : App :=
  { a with service := { a.service with mint := a.service.mint.setSeconds (a.service.mint.seconds + seconds), notices := [] } }

/-! ### Parts of a request -/

def formId (text : String) : Checked Int := under (.name "path") (under (.name "form_id") (Scalar.intOfText text))

def page (r : Request) : Checked Int :=
  match r.query? "page" with
  | none => .ok 1
  | some text => (under (.name "query") (under (.name "page") (Scalar.intOfText text))).map (fun n => max n 1)

def body (read : Value → Checked α) (v : Value) : Checked α := under (.name "body") (read v)

def clocks (a : App) (r : Request) : Except Reply (Int → Int) :=
  match (r.query? "timezone_str").filter (fun name => !name.isEmpty) with
  | none => .ok a.config.zone.offset
  | some name => ((Zone.findAnyCase? name).map Zone.tabulated).elim (.error (.unknownZone name)) .ok

/-! ### What is shown -/

def summary (ahead : Int → Int) (f : Form) : Option Value := do
  let updatedAt ← f.updatedAt.elim (some "") (·.display? ahead)
  some (.object [("id",.ofOption .int f.id),("title",.str f.snapshot.title),("slug",.ofOption .str f.slug),
    ("status",.str f.status.name),("field_count",.ofNat f.fields.length),("updated_at",.str updatedAt)])

def submissionEntry (ahead : Int → Int) (s : Submission) : Option Value := do
  let submittedAt ← (DateTime.ofEpoch s.submittedAt).display? ahead
  some (.object [("id",.int s.id),("submitted_at",.str submittedAt),("data",.object s.data)])

def submissionPage (page : Int) (total : Nat) (entries : List Value) : Value :=
  let pages : Int := max 1 ((total + Store.pageSize - 1) / Store.pageSize)
  .object [("submissions",.list entries),("page",.int page),("total_pages",.int pages),("total",.ofNat total),
    ("has_prev",.bool (1 < page)),("has_next",.bool (page < pages))]

def publicView (f : Form) : Value :=
  .object [("slug",.ofOption .str f.slug),("title",.str f.snapshot.title),
    ("description",.ofOption .str f.snapshot.description),("settings",f.snapshot.settings.toWire),
    ("fields",Field.wires f.fields)]

def submitted (s : Submission) : Value :=
  .object [("success",.bool true),("message",.str "Submission received"),("submission_id",.int s.id)]

def success : Value := .object [("success",.bool true)]

/-! ### Answers -/

def formReply (a : App) (status : Nat) (r : Service × Except ServiceFault Form) : App × Reply :=
  ({ a with service := r.1 },.of status Form.toWire r.2)

def listForms (a : App) (owner : String) (r : Request) : Reply :=
  match a.clocks r,a.service.listForms owner with
  | .error refusal,_ => refusal
  | .ok _,.error fault => .ofFault fault
  | .ok ahead,.ok forms => ((forms.mapM (summary ahead)).map (fun shown => .sent 200 (.list shown))).getD .failure

def listSubmissions (a : App) (owner : String) (form page : Int) (r : Request) : Reply :=
  match a.clocks r,a.service.listSubmissions owner form page with
  | .error refusal,_ => refusal
  | .ok _,.error fault => .ofFault fault
  | .ok ahead,.ok (submissions,total) =>
    ((submissions.mapM (submissionEntry ahead)).map fun shown =>
      Reply.content 200 (submissionPage page total shown).dumped).getD .failure

def createForm (a : App) (owner : String) (f : NewForm) : App × Reply :=
  a.formReply 201 (a.service.createForm owner (.str f.title) (.ofOption .str f.description) (.ofOption .object f.settings)
    (rawFields (f.fields.getD [])))

def deleteForm (a : App) (owner : String) (form : Int) : App × Reply :=
  let (service,outcome) := a.service.deleteForm owner form
  ({ a with service },.of 200 (fun _ => success) outcome)

def parseText (a : App) (text : String) : App × Reply :=
  let (parsed,mint) := Outline.parse text a.service.mint
  ({ a with service := { a.service with mint } },.sent 200 (.object [("fields",Field.wires parsed.fields)]))

def submit (a : App) (slug : String) (payload : Value) (client : String) : App × Reply :=
  let (service,outcome) := a.service.submit slug payload client
  ({ a with service },.of 200 submitted outcome)

def checked (a : App) (parts : Checked α) (answer : α → App × Reply) : App × Reply :=
  match parts with
  | .ok parts => answer parts
  | .error faults => (a,.malformed faults)

def manage (a : App) (owner : String) (r : Request) (given : Value) : Route → App × Reply
  | .listForms => (a,a.listForms owner r)
  | .createForm => a.checked (body readNewForm given) (a.createForm owner)
  | .parseText => a.checked (body (readText "text") given) a.parseText
  | .getForm id => a.checked (formId id) fun id => (a,.of 200 Form.toWire (a.service.getForm owner id))
  | .updateForm id =>
    a.checked (.both Prod.mk (formId id) (body readUpdate given)) fun (id,u) =>
      a.formReply 200 (a.service.updateForm owner id u)
  | .deleteForm id => a.checked (formId id) (a.deleteForm owner)
  | .setStatus id =>
    a.checked (.both Prod.mk (formId id) (body (readText "status") given)) fun (id,status) =>
      a.formReply 200 (a.service.setStatus owner id (.str status))
  | .duplicateForm id => a.checked (formId id) fun id => a.formReply 201 (a.service.duplicateForm owner id)
  | .listSubmissions id =>
    a.checked (.both Prod.mk (formId id) (page r)) fun (id,page) => (a,a.listSubmissions owner id page r)
  | _ => (a,.unknownPlace)

def serve (a : App) (r : Request) (given : Value) : Route → App × Reply
  | .fieldTypes => (a,.sent 200 (.list (FieldType.palette.map FieldType.entry)))
  | .publicForm slug => (a,.of 200 publicView (a.service.getPublicForm slug))
  | .submit slug => a.submit slug given r.client
  | _ => (a,.unknownPlace)

def answer (a : App) (r : Request) (given : Value) (route : Route) : App × Reply :=
  if route.isManaged then
    match a.config.owner? (r.header? "x-api-key") with
    | none => (a,.unauthorized)
    | some owner => a.manage owner r given route
  else a.serve r given route

def handle (a : App) (r : Request) : App × Reply :=
  match resolve r.method r.path with
  | .unknown => (a,.unknownPlace)
  | .wrongMethod => (a,.wrongMethod)
  | .found route =>
    match if route.takesBody then readBody r.body else .ok .null with
    | .error position => (a,.malformed [⟨.badJson,[.name "body",.index position]⟩])
    | .ok given => a.answer r given route

def seed (a : App) (form : Int) (first : Nat) : (count : Nat) → App
  | 0 => a
  | count + 1 =>
    let a := a.advance 1
    let (store,_) := a.service.store.createSubmission a.service.mint.seconds form [("n",.ofNat first)]
    seed { a with service := { a.service with store } } form (first + 1) count

end App
end FormBuilder.Web
