import FormBuilder.Markup.Token
/-! The text of a fragment of markup: every character between its tags, save what scripts and style
sheets hold, and save blanks before the first element of the body. -/
namespace FormBuilder.Markup
open FormBuilder.Text (isBlank)

inductive Part where
  | head
  | body
  | after
  deriving DecidableEq, Repr

structure Reading where
  part : Part
  begun : Bool
  inHead : Bool
  misplaced : Nat
  hasNode : Bool
  muted : Bool
  leading : List Char
  trailing : List Char

namespace Reading

def start (part : Part) : Reading := ⟨part,part == .body,false,0,false,false,[],[]⟩

def add (r : Reading) (cs : List Char) : Reading :=
  if r.hasNode then { r with trailing := cs.reverse ++ r.trailing } else { r with leading := cs.reverse ++ r.leading }

def text (r : Reading) (cs : List Char) : Reading :=
  match r.part with
  | .body => r.add cs
  | .after => r
  | .head =>
    match cs.dropWhile isTagBlank with
    | [] => r
    | shown => { r with part := .body, begun := true, hasNode := true }.add shown

def isOuter (name : String) : Bool := name = "html" || name = "head" || name = "body"

def isHeadElement (name : String) : Bool := ["script","style","meta","link","title","base"].contains name

def misplace (r : Reading) : Reading := { r with misplaced := r.misplaced + 1 }

def node (r : Reading) (name : String) : Reading :=
  let r := { r with muted := name = "script" || name = "style" }
  match r.part with
  | .body => { r with hasNode := true }
  | .after => r
  | .head => if isHeadElement name then { r with begun := true } else { r with part := .body, begun := true, hasNode := true }

def opening (r : Reading) (name : String) : Reading :=
  if name = "html" then (if r.begun then r.misplace else { r with begun := true })
  else if name = "head" then
    (if r.part = .head ∧ !r.inHead then { r with begun := true, inHead := true } else r.misplace)
  else if name = "body" then
    (match r.part with
    | .head => { r with part := .body, begun := true }
    | .body => r.misplace
    | .after => r)
  else r.node name

def closing (r : Reading) (name : String) : Reading :=
  if isOuter name then
    if r.misplaced ≠ 0 then { r with misplaced := r.misplaced - 1 }
    else if name = "head" then { r with inHead := false }
    else if r.part = .body then { r with part := .after }
    else r
  else { r with muted := false }

def step (r : Reading) : Token → Reading
  | .text cs => r.text cs
  | .inner cs => if r.muted || r.part ≠ .body then r else r.add cs
  | .opening name => r.opening name
  | .closing name => r.closing name
  | .aside => if r.part = .body then { r with hasNode := true } else r

def result (r : Reading) : List Char :=
  (if r.leading.all isBlank then [] else r.leading.reverse) ++ r.trailing.reverse

end Reading

def isDocument (cs : List Char) : Bool :=
  match cs.dropWhile isBlank with
  | '<' :: rest => lowerName (rest.take 4) = "html" || lowerName (rest.take 8) = "!doctype"
  | _ => false

def content (text : String) : String :=
  let cs := text.toList
  let all := if isDocument cs then cs else cs ++ "</body></html>".toList
  String.ofList ((tokens all).foldl Reading.step (.start (if isDocument cs then .head else .body))).result

end FormBuilder.Markup
