import FormBuilder.Decimal.Shortest
import FormBuilder.Text.Quoted
/-! Free-form data: answers, raw field descriptions and settings that nobody has checked yet.
Objects keep their entries in the order in which keys first came. -/
namespace FormBuilder

inductive Value where
  | null
  | bool (b : Bool)
  | int (n : Int)
  | float (x : Double)
  | str (s : String)
  | list (items : List Value)
  | object (entries : List (String × Value))
  deriving Repr, Inhabited

abbrev Object := List (String × Value)

namespace Object

def value? (o : Object) (key : String) : Option Value :=
  match o with
  | [] => none
  | (k,v) :: rest => if k = key then some v else value? rest key

def put (o : Object) (key : String) (value : Value) : Object :=
  match o with
  | [] => [(key,value)]
  | (k,v) :: rest => if k = key then (k,value) :: rest else (k,v) :: put rest key value

def without (o : Object) (key : String) : Object := o.filter (fun e => e.1 ≠ key)

def overlay (o later : Object) : Object := later.foldl (fun acc e => put acc e.1 e.2) o

def renameKeys (f : String → String) (o : Object) : Object := o.foldl (fun acc e => put acc (f e.1) e.2) []

def has (o : Object) (key : String) : Bool := (value? o key).isSome

def ofEntries (entries : List (String × Value)) : Object := overlay [] entries

end Object

namespace Value

def ofOption (f : α → Value) : Option α → Value
  | none => null
  | some a => f a

def texts (items : List String) : Value := list (items.map str)

def ofNat (n : Nat) : Value := int n

def isVoid : Value → Bool
  | null => true
  | bool b => !b
  | int n => n == 0
  | float x => x.isZero
  | str s => s.isEmpty
  | list items => items.isEmpty
  | object entries => entries.isEmpty

mutual
def inner : Value → String
  | null => "None"
  | bool b => if b then "True" else "False"
  | int n => toString n
  | float x => Shortest.text x
  | str s => Text.quoted s
  | list items => "[" ++ ", ".intercalate (innerItems items) ++ "]"
  | object entries => "\x7b" ++ ", ".intercalate (innerEntries entries) ++ "\x7d"

def innerItems : List Value → List String
  | [] => []
  | v :: rest => inner v :: innerItems rest

def innerEntries : List (String × Value) → List String
  | [] => []
  | (k,v) :: rest => (Text.quoted k ++ ": " ++ inner v) :: innerEntries rest
end

mutual
def finite : Value → Bool
  | float x => x.isFinite
  | list items => finiteItems items
  | object entries => finiteEntries entries
  | _ => true

def finiteItems : List Value → Bool
  | [] => true
  | v :: rest => v.finite && finiteItems rest

def finiteEntries : List (String × Value) → Bool
  | [] => true
  | (_,v) :: rest => v.finite && finiteEntries rest
end

mutual
/-- Free-form data as they are written out: a number that is not finite is lost. -/
def dumped : Value → Value
  | float x => if x.isFinite then float x else null
  | list items => list (dumpedItems items)
  | object entries => object (dumpedEntries entries)
  | v => v

def dumpedItems : List Value → List Value
  | [] => []
  | v :: rest => v.dumped :: dumpedItems rest

def dumpedEntries : List (String × Value) → List (String × Value)
  | [] => []
  | (k,v) :: rest => (k,v.dumped) :: dumpedEntries rest
end

end Value
end FormBuilder
