import FormBuilder.Text.Blank
/-! The places that can be asked for, and how a method and a path lead to one of them. -/
namespace FormBuilder.Web

inductive Route where
  | fieldTypes
  | listForms
  | createForm
  | parseText
  | getForm (id : String)
  | updateForm (id : String)
  | deleteForm (id : String)
  | setStatus (id : String)
  | duplicateForm (id : String)
  | listSubmissions (id : String)
  | publicForm (slug : String)
  | submit (slug : String)
  deriving DecidableEq, Repr

def Route.isManaged : Route → Bool
  | fieldTypes => false
  | publicForm _ => false
  | submit _ => false
  | _ => true

def Route.takesBody : Route → Bool
  | createForm => true
  | parseText => true
  | updateForm _ => true
  | setStatus _ => true
  | submit _ => true
  | _ => false

structure Pattern where
  method : String
  before : List String
  opened : Bool
  after : List String
  route : String → Route

def Pattern.fixed (method : String) (path : List String) (route : Route) : Pattern := ⟨method,path,false,[],fun _ => route⟩

def root : List String := ["","api","v1"]

def patterns : List Pattern :=
  let forms := root ++ ["forms"]
  [.fixed "GET" (root ++ ["field-types"]) .fieldTypes,
    .fixed "GET" forms .listForms,
    .fixed "POST" forms .createForm,
    .fixed "POST" (forms ++ ["parse-text"]) .parseText,
    ⟨"GET",forms,true,[],.getForm⟩,
    ⟨"PATCH",forms,true,[],.updateForm⟩,
    ⟨"DELETE",forms,true,[],.deleteForm⟩,
    ⟨"PATCH",forms,true,["publish"],.setStatus⟩,
    ⟨"POST",forms,true,["duplicate"],.duplicateForm⟩,
    ⟨"GET",forms,true,["submissions"],.listSubmissions⟩,
    ⟨"GET",root ++ ["public"],true,[],.publicForm⟩,
    ⟨"POST",root ++ ["submit"],true,[],.submit⟩]

def Pattern.routeOf? (p : Pattern) (parts : List String) : Option Route :=
  if parts.take p.before.length = p.before then
    match p.opened,parts.drop p.before.length with
    | false,[] => some (p.route "")
    | true,given :: rest => if !given.isEmpty && rest = p.after then some (p.route given) else none
    | _,_ => none
  else none

inductive Resolution where
  | found (r : Route)
  | wrongMethod
  | unknown
  deriving DecidableEq, Repr

def resolveParts (method : String) (parts : List String) : Resolution :=
  let fitting := patterns.filterMap (fun p => (p.routeOf? parts).map (fun r => (p.method,r)))
  match fitting.find? (fun f => f.1 == method) with
  | some f => .found f.2
  | none => if fitting.isEmpty then .unknown else .wrongMethod

def resolve (method path : String) : Resolution :=
  match resolveParts method (path.splitOn "/") with
  | .unknown =>
    let stripped := (path.toList.reverse.dropWhile (· == '/')).reverse
    resolveParts method ((String.ofList stripped).splitOn "/")
  | found => found

end FormBuilder.Web
