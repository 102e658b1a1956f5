import FormBuilder.Value
/-! The folder a command runs in: texts by path. Folders in between exist because of what is in them. -/
namespace FormBuilder.CommandLine

structure Folder where
  files : List (String × String)
  deriving Repr

inductive Place where
  | text (content : String)
  | folder
  | missing
  | belowText
  deriving DecidableEq, Repr

def enter (above : Option (List String)) (part : String) : Option (List String) :=
  above.bind fun parts =>
    if part = "" ∨ part = "." then some parts
    else if part = ".." then (if parts.isEmpty then none else some (parts.drop 1))
    else some (part :: parts)

def partsOf? (path : String) : Option (List String) :=
  if path.toList.head? = some '/' then none else ((path.splitOn "/").foldl enter (some [])).map List.reverse

def plainPath? (path : String) : Option String := (partsOf? path).map ("/".intercalate ·)

namespace Folder

def entries (f : Folder) : List (List String × String) :=
  f.files.filterMap (fun e => (partsOf? e.1).map (·,e.2))

def locate (f : Folder) (parts : List String) : Place :=
  match f.entries.find? (fun e => e.1 == parts) with
  | some e => .text e.2
  | none =>
    if parts.isEmpty || f.entries.any (fun e => parts.isPrefixOf e.1) then .folder
    else if f.entries.any (fun e => e.1.isPrefixOf parts) then .belowText
    else .missing

def find (f : Folder) (path : String) : Place :=
  match partsOf? path with
  | none => .missing
  | some parts =>
    match f.locate parts with
    | .text content => if path.toList.getLast? = some '/' then .belowText else .text content
    | place => place

def touch (f : Folder) (path : String) : Folder :=
  match plainPath? path,f.find path with
  | some plain,.missing => ⟨f.files ++ [(plain,"")]⟩
  | _,_ => f

def newIn (f old : Folder) : List String :=
  ((f.files.map (·.1)).filter (fun p => !(old.entries.map (·.1)).contains ((partsOf? p).getD []))).mergeSort (fun a b => !decide (b < a))

end Folder
end FormBuilder.CommandLine
