import FormBuilder.Json
import FormBuilder.Text.Blank
/-! Requests as they come over the wire: a target with a path and a query, headers, and perhaps a body. -/
namespace FormBuilder.Web
open FormBuilder.Json (hexValue?)

structure Request where
  method : String
  path : String
  query : List (String × String)
  headers : List (String × String)
  body : Option String
  peer : Option String
  deriving Repr

/-! ### Targets -/

def ofBytes (bytes : List UInt8) : List Char :=
  match String.fromUTF8? ⟨bytes.toArray⟩ with
  | some s => s.toList
  | none => bytes.map (fun b => if b < 128 then Char.ofNat b.toNat else '\ufffd')

def unescapeFrom (pending : List UInt8) : List Char → List Char
  | [] => ofBytes pending
  | [c] => ofBytes pending ++ [c]
  | [c,d] => ofBytes pending ++ [c,d]
  | c :: d :: e :: rest =>
    match if c = '%' then hexValue? d else none,hexValue? e with
    | some high,some low => unescapeFrom (pending ++ [(high * 16 + low).toUInt8]) rest
    | _,_ => ofBytes pending ++ c :: unescapeFrom [] (d :: e :: rest)

def unescape (cs : List Char) : List Char := unescapeFrom [] cs

def queryPairs (query : String) : List (String × String) :=
  let plain (cs : List Char) : String := String.ofList (unescape (cs.map (fun c => if c = '+' then ' ' else c)))
  ((query.splitOn "&").filter (fun p => !p.isEmpty)).map fun p =>
    let name := p.toList.takeWhile (· != '=')
    (plain name,plain (p.toList.drop (name.length + 1)))

def splitTarget (target : String) : String × List (String × String) :=
  let cs := '/' :: (target.toList.takeWhile (· != '#')).dropWhile (· == '/')
  let path := cs.takeWhile (· != '?')
  (String.ofList (unescape (unescape path)),queryPairs (String.ofList (cs.drop (path.length + 1))))

/-! ### Lookups -/

def Request.header? (r : Request) (name : String) : Option String :=
  (r.headers.find? (fun h => h.1.toLower == name.toLower)).map (·.2)

def Request.query? (r : Request) (name : String) : Option String :=
  (r.query.reverse.find? (fun q => q.1 == name)).map (·.2)

def Request.client (r : Request) : String :=
  match (r.header? "x-forwarded-for").filter (fun v => !v.isEmpty),(r.header? "x-real-ip").filter (fun v => !v.isEmpty) with
  | some forwarded,_ => Text.trim (String.ofList (forwarded.toList.takeWhile (· != ',')))
  | none,some address => Text.trim address
  | none,none => r.peer.getD "unknown"

end FormBuilder.Web
