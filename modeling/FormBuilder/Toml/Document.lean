import FormBuilder.Value
/-! The tables of a TOML document while it is read. Every table remembers how it came about, since
that decides whether a later line may still open or extend it. -/
namespace FormBuilder.Toml

inductive Origin where
  | header
  | implied
  /-- Made by dotted keys within one section of the document. -/
  | dotted (block : Nat)
  deriving DecidableEq, Repr

inductive Node where
  | value (v : Value)
  | table (origin : Origin) (entries : List (String × Node))
  | tables (done : List Value) (last : List (String × Node))

abbrev Entries := List (String × Node)

namespace Entries

def find? (e : Entries) (key : String) : Option Node :=
  match e with
  | [] => none
  | (k,n) :: rest => if k = key then some n else find? rest key

def put (e : Entries) (key : String) (n : Node) : Entries :=
  match e with
  | [] => [(key,n)]
  | (k,old) :: rest => if k = key then (k,n) :: rest else (k,old) :: put rest key n

end Entries

mutual
def Node.toValue : Node → Value
  | .value v => v
  | .table _ entries => .object (entriesToValue entries)
  | .tables done last => .list (done ++ [.object (entriesToValue last)])

def entriesToValue : List (String × Node) → List (String × Value)
  | [] => []
  | (k,n) :: rest => (k,n.toValue) :: entriesToValue rest
end

def inside (change : Entries → Option Entries) : (path : List String) → Entries → Option Entries
  | [],e => change e
  | key :: rest,e =>
    match e.find? key with
    | none => (inside change rest []).map (fun t => e.put key (.table .implied t))
    | some (.table origin t) => (inside change rest t).map (fun t => e.put key (.table origin t))
    | some (.tables done t) => (inside change rest t).map (fun t => e.put key (.tables done t))
    | some (.value _) => none

def declare (key : String) (e : Entries) : Option Entries :=
  match e.find? key with
  | none => some (e.put key (.table .header []))
  | some (.table .implied t) => some (e.put key (.table .header t))
  | _ => none

def beginItem (key : String) (e : Entries) : Option Entries :=
  match e.find? key with
  | none => some (e.put key (.tables [] []))
  | some (.tables done t) => some (e.put key (.tables (done ++ [.object (entriesToValue t)]) []))
  | _ => none

def assign (block : Nat) (n : Node) : (path : List String) → Entries → Option Entries
  | [],_ => none
  | [key],e => if (e.find? key).isSome then none else some (e.put key n)
  | key :: rest,e =>
    match e.find? key with
    | none => (assign block n rest []).map (fun t => e.put key (.table (.dotted block) t))
    | some (.table .implied t) => (assign block n rest t).map (fun t => e.put key (.table (.dotted block) t))
    | some (.table (.dotted s) t) =>
      if s = block then (assign block n rest t).map (fun t => e.put key (.table (.dotted s) t)) else none
    | _ => none

end FormBuilder.Toml
