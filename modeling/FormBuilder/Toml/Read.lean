import FormBuilder.Toml.Scan
/-! Whole TOML documents: one statement a line, and every table belongs to the header above it. -/
namespace FormBuilder.Toml

structure Reader where
  entries : Entries
  header : List String
  sections : Nat

namespace Reader

def openTable (r : Reader) (cs : List Char) : Option (Reader × List Char) := do
  let isList := cs.head? = some '['
  let (path,rest) ← key (cs.length + 1) (skipGaps (if isList then cs.drop 1 else cs))
  let change := if isList then beginItem (path.getLastD "") else declare (path.getLastD "")
  let entries ← inside change path.dropLast r.entries
  let rest ← expect ']' rest
  let rest ← if isList then expect ']' rest else some rest
  some (⟨entries,path,r.sections + 1⟩,rest)

def pair (r : Reader) (cs : List Char) : Option (Reader × List Char) := do
  let (path,rest) ← key (cs.length + 1) cs
  let start := skipGaps (← expect '=' rest)
  let (v,rest) ← value (2 * start.length + 2) start
  let entries ← inside (assign r.sections (.value v) path) r.header r.entries
  some ({ r with entries },rest)

def statement (r : Reader) (cs : List Char) : Option (Reader × List Char) :=
  match cs with
  | [] | '\n' :: _ | '#' :: _ => some (r,cs)
  | '[' :: rest => r.openTable rest
  | _ => r.pair cs

def lines (r : Reader) : (fuel : Nat) → List Char → Option Reader
  | 0,_ => some r
  | fuel + 1,cs => do
    let (r,rest) ← r.statement (skipGaps cs)
    match ← skipComment (skipGaps rest) with
    | [] => some r
    | '\n' :: more => lines r fuel more
    | _ => none

end Reader

def joinLineEnds : List Char → List Char
  | [] => []
  | '\r' :: '\n' :: rest => '\n' :: joinLineEnds rest
  | c :: rest => c :: joinLineEnds rest

def read (text : String) : Option Object :=
  let cs := joinLineEnds text.toList
  (Reader.lines ⟨[],[],0⟩ (cs.length + 1) cs).map (fun r => entriesToValue r.entries)

end FormBuilder.Toml
