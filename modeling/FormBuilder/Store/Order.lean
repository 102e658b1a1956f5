import FormBuilder.Store.Basic
/-! The writes that the store can be asked for, each with the moment it is made at. -/
namespace FormBuilder.Store

inductive Order where
  | createForm (m : Mint) (owner title : String) (description : Option String) (settings : Value) (slug : Option String)
  | updateForm (now form : Int) (owner : Option String) (p : Patch)
  | replaceFields (now form : Int) (fields : List Field)
  | deleteForm (form : Int) (owner : Option String)
  | createSubmission (now form : Int) (data : Object)

def obey (s : Store) : Order → Store
  | .createForm m owner title description settings slug => (s.createForm m owner title description settings slug).1
  | .updateForm now form owner p => (s.updateForm now form owner p).1
  | .replaceFields now form fields => (s.replaceFields now form fields).1
  | .deleteForm form owner => (s.deleteForm form owner).1
  | .createSubmission now form data => (s.createSubmission now form data).1

def obeyAll (s : Store) (orders : List Order) : Store := orders.foldl obey s

theorem obeyAllOne (s : Store) (o : Order) : s.obeyAll [o] = s.obey o := rfl

end FormBuilder.Store
