import FormBuilder.Service.Basic
import FormBuilder.Store.Order
/-! Everything the service may be asked for, one call after the other. Between calls the clock moves, and
names may be made up anew. -/
namespace FormBuilder

inductive Call where
  | listForms (owner : String)
  | getForm (owner : String) (form : Int)
  | createForm (owner : String) (title description settings : Value) (fields : FieldSource)
  | updateForm (owner : String) (form : Int) (u : Update)
  | saveSnapshot (owner : String) (form : Int) (snapshot : Snapshot)
  | deleteForm (owner : String) (form : Int)
  | setStatus (owner : String) (form : Int) (status : Value)
  | publishForm (owner : String) (form : Int)
  | unpublishForm (owner : String) (form : Int)
  | duplicateForm (owner : String) (form : Int)
  | listSubmissions (owner : String) (form page : Int)
  | getPublicForm (slug : String)
  | submit (slug : String) (payload : Value) (client : String)

inductive Answer where
  | done
  | form (f : Form)
  | forms (fs : List Form)
  | submission (s : Submission)
  | page (items : List Submission) (total : Nat)
  deriving Repr

namespace Service

def call (s : Service) : Call → Service × Except ServiceFault Answer
  | .listForms owner => (s,(s.listForms owner).map .forms)
  | .getForm owner form => (s,(s.getForm owner form).map .form)
  | .createForm owner title description settings fields =>
    let (s,made) := s.createForm owner title description settings fields
    (s,made.map .form)
  | .updateForm owner form u =>
    let (s,changed) := s.updateForm owner form u
    (s,changed.map .form)
  | .saveSnapshot owner form snapshot =>
    let (s,saved) := s.saveSnapshot owner form snapshot
    (s,saved.map .form)
  | .deleteForm owner form =>
    let (s,deleted) := s.deleteForm owner form
    (s,deleted.map (fun _ => .done))
  | .setStatus owner form status =>
    let (s,changed) := s.setStatus owner form status
    (s,changed.map .form)
  | .publishForm owner form =>
    let (s,changed) := s.publishForm owner form
    (s,changed.map .form)
  | .unpublishForm owner form =>
    let (s,changed) := s.unpublishForm owner form
    (s,changed.map .form)
  | .duplicateForm owner form =>
    let (s,copy) := s.duplicateForm owner form
    (s,copy.map .form)
  | .listSubmissions owner form page => (s,(s.listSubmissions owner form page).map (fun p => .page p.1 p.2))
  | .getPublicForm slug => (s,(s.getPublicForm slug).map .form)
  | .submit slug payload client =>
    let (s,stored) := s.submit slug payload client
    (s,stored.map .submission)

inductive Move where
  | ask (c : Call)
  | renew (m : Mint)

def move (s : Service) : Move → Service
  | .ask c => (s.call c).1
  | .renew m => { s with mint := m }

def play (s : Service) (moves : List Move) : Service := moves.foldl move s

inductive Deed where
  | move (m : Move)
  | order (o : Store.Order)
  | lock (held : Bool)

def act (s : Service) : Deed → Service
  | .move m => s.move m
  | .order o => { s with store := s.store.obey o }
  | .lock held => { s with store := { s.store with fieldsLocked := held } }

def actAll (s : Service) (deeds : List Deed) : Service := deeds.foldl act s

end Service
end FormBuilder
