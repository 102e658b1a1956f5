import FormBuilder.Json
import FormBuilder.Text.Case
/-! Settings from environment variables. A variable is named `FORMWRIGHT_` and the setting, in any
case; two underscores lead into a section. What is no plain text is written as JSON. -/
namespace FormBuilder

mutual
def Value.laidOver (old : Option Value) : Value → Value
  | .object later =>
    match old with
    | some (.object o) => .object (Object.merge o later)
    | _ => .object later
  | v => v

def Object.merge (o : Object) : (later : List (String × Value)) → Object
  | [] => o
  | (k,v) :: rest => Object.merge (o.put k (Value.laidOver (o.value? k) v)) rest
end

abbrev Environment := List (String × String)

namespace Environment

inductive Shape where
  | plain
  | table
  | group (members : List (String × Shape))

def shapes : List (String × Shape) :=
  [("timezone",.plain),("log_file",.plain),("database",.group [("path",.plain)]),
    ("web",.group [("host",.plain),("port",.plain),("debug",.plain)]),
    ("rate_limit",.group [("enabled",.plain),("max_requests",.plain),("window_seconds",.plain)]),
    ("editor",.group [("autosave_delay",.plain),("text_parse_delay",.plain)]),
    ("auth",.group [("api_keys",.table)])]

def Shape.members : Shape → List (String × Shape)
  | group members => members
  | _ => []

def Shape.inside? (s : Shape) : (path : List String) → Option Shape
  | [key] => (s.members.find? (fun m => m.1 == key)).map (·.2)
  | _ => none

def lowered (e : Environment) : Environment :=
  (Object.ofEntries (e.map (fun v => (Text.lower v.1,.str v.2)))).filterMap fun
    | (name,.str s) => some (name,s)
    | _ => none

def putAt (v : Value) : (path : List String) → Object → Object
  | [],o => o
  | [key],o => o.put key v
  | key :: rest,o =>
    match o.value? key with
    | none => o.put key (.object (putAt v rest []))
    | some (.object inner) => o.put key (.object (putAt v rest inner))
    | some _ => o

def valueOf? (shape : Option Shape) (text : String) : Option Value :=
  match shape with
  | none | some .plain => some (.str text)
  | some _ => if text.isEmpty then some (.str text) else (Json.read text).toOption

def below (s : Shape) (name : String) : Object → Environment → Option Object
  | o,[] => some o
  | o,(given,text) :: rest =>
    if name.toList.isPrefixOf given.toList then do
      let path := (String.ofList (given.toList.drop name.length)).splitOn "__"
      let v ← valueOf? (s.inside? path) text
      below s name (putAt v path o) rest
    else below s name o rest

def respelled (s : Shape) (o : Object) : Object :=
  o.renameKeys (fun k => ((s.members.find? (fun m => m.1 == Text.lower k)).map (·.1)).getD k)

def leading : String := "formwright_"

def given? (e : Environment) (name : String) : Option String :=
  (e.find? (fun v => v.1 == leading ++ name)).map (·.2)

def sectionValue (e : Environment) (name : String) (s : Shape) : Option (Option Value) := do
  match e.given? name with
  | none =>
    let inner ← below s (leading ++ name ++ "__") [] e
    some (if inner.isEmpty then none else some (.object (respelled s inner)))
  | some text =>
    match ← (Json.read text).toOption with
    | .null => some none
    | .object own =>
      let inner ← below s (leading ++ name ++ "__") [] e
      some (some (.object (respelled s (Object.merge own inner))))
    | v => some (some v)

def settingValue (e : Environment) (name : String) : Shape → Option (Option Value)
  | .plain => some ((e.given? name).map .str)
  | s => sectionValue e name s

def settingsFrom (e : Environment) : List (String × Shape) → Option Object
  | [] => some []
  | (name,shape) :: rest => do
    let v ← settingValue e name shape
    let more ← settingsFrom e rest
    some ((v.map (fun v => (name,v))).toList ++ more)

def settings (e : Environment) : Option Object := settingsFrom e.lowered shapes

end Environment
end FormBuilder
