import FormBuilder.CommandLine.Command
import FormBuilder.CommandLine.Folder
import FormBuilder.Config.Load
import FormBuilder.Editor
import FormBuilder.Outline
import FormBuilder.Schema
import FormBuilder.Visibility
import FormBuilder.Web.Reply
/-! Running a command: from its arguments, the folder and the input to what it prints, how it ends,
and what it leaves behind. -/
namespace FormBuilder.CommandLine

inductive StoreOpening where
  | unnamed
  | isFolder
  | otherContent
  deriving DecidableEq, Repr

inductive Crash where
  | config (fault : ConfigFault)
  | store (why : StoreOpening)
  deriving Repr

structure Serving where
  host : String
  port : Int
  reload : Bool
  configPath : String
  deriving Repr

structure Outcome where
  exit : Nat
  output : String
  error : Option String
  crash : Option Crash
  folder : Folder
  serving : Option Serving
  deriving Repr

namespace Outcome

def printed (folder : Folder) (output : String) : Outcome := ⟨0,output,none,none,folder,none⟩

def misused (folder : Folder) (fault : UsageFault) : Outcome := ⟨2,"",some fault.message,none,folder,none⟩

def refused (folder : Folder) (reason : String) : Outcome := ⟨1,"",some reason,none,folder,none⟩

def crashed (folder : Folder) (crash : Crash) : Outcome := ⟨1,"",none,some crash,folder,none⟩

end Outcome

structure Surroundings where
  folder : Folder
  input : String
  environment : Environment
  mint : Mint

/-! ### Files -/

def joinLineEnds : List Char → List Char
  | [] => []
  | '\r' :: '\n' :: rest => '\n' :: joinLineEnds rest
  | '\r' :: rest => '\n' :: joinLineEnds rest
  | c :: rest => c :: joinLineEnds rest

inductive Opened where
  | input
  | content (text : String)
  deriving DecidableEq

def openFile (folder : Folder) (argument path : String) : Except UsageFault Opened :=
  if path = "-" then .ok .input
  else if path.isEmpty then .error (.unreadable argument path "No such file or directory")
  else
    match folder.find path with
    | .text content => .ok (.content content)
    | .folder => .error (.unreadable argument path "Is a directory")
    | .missing => .error (.unreadable argument path "No such file or directory")
    | .belowText => .error (.unreadable argument path "Not a directory")

def openFiles (folder : Folder) : (arguments given : List String) → Except UsageFault (List Opened)
  | [],[] => .ok []
  | [],extra => .error (.extraArguments extra)
  | argument :: _,[] => .error (.missingArgument argument)
  | argument :: arguments,path :: given => do
    let first ← openFile folder argument path
    let rest ← openFiles folder arguments given
    return first :: rest

def Opened.read (o : Opened) (stdin : String) : String :=
  match o with
  | .input => String.ofList (joinLineEnds stdin.toList)
  | .content text => String.ofList (joinLineEnds text.toList)

/-! ### Commands -/

def json (v : Value) : String := Json.write (.indented 0) v ++ "\n"

def fieldTypeLines : String :=
  page ("type\tcategory\tlabel" :: FieldType.palette.map (fun t => t.name ++ "\t" ++ t.category.name ++ "\t" ++ t.paletteLabel))

def readJson (what text : String) : Except String Value := (Json.read text).mapError (fun _ => "Invalid JSON in " ++ what)

def fieldItems : Value → Except Misuse (List Value)
  | .object o => ((Object.value? o "fields").getD (.list [])).parts
  | v => v.parts

def readFields (text : String) (m : Mint) : Except String (List Field) :=
  match readJson "fields file" text with
  | .error e => .error e
  | .ok v =>
    match fieldItems v with
    | .error _ => .error "Invalid field definitions"
    | .ok items => (Field.parseAll items m).1.mapError (fun _ => "Invalid field definitions")

def readBoth (s : Surroundings) (what : String) (fields data : Opened) : Except String (List Field × Value) := do
  let fs ← readFields (fields.read s.input) s.mint
  let v ← readJson what (data.read (if fields = .input then "" else s.input))
  return (fs,v)

def validate (fields : List Field) (payload : Value) (folder : Folder) : Outcome :=
  match validateSubmission fields payload with
  | .ok data => .printed folder (json (.object [("ok",.bool true),("data",.object data)]))
  | .error errors =>
    { Outcome.printed folder (json (.object [("ok",.bool false),("errors",.list (errors.map FieldError.toWire))])) with
      exit := 1 }

def visible (fields : List Field) (values : Value) (folder : Folder) : Outcome :=
  match values with
  | .object values => .printed folder (page ((Field.visible fields values).map (fun f => f.id ++ "\t" ++ f.label)))
  | _ => .refused folder "Values must be a JSON object"

def loadConfig (s : Surroundings) (path : String) : Except ConfigFault Config :=
  let document := match s.folder.find path with
    | .text content => some content
    | .folder => some ""
    | _ => none
  Config.load path document s.environment

def configRefused (folder : Folder) (fault : ConfigFault) : Outcome :=
  match fault with
  | .noFile _ => .refused folder fault.message
  | .invalid _ => .refused folder fault.message
  | _ => .crashed folder (.config fault)

def logPath (c : Config) : String := if c.logFile.isEmpty then Config.defaultLogFile else c.logFile

def openStore (folder : Folder) (path : String) : Except StoreOpening Folder :=
  if path.isEmpty then .error .unnamed
  else if path = ":memory:" then .ok folder
  else
    match folder.find path with
    | .folder => .error .isFolder
    | .belowText => .error .isFolder
    | .text content => if content.isEmpty then .ok folder else .error .otherContent
    | .missing => .ok (folder.touch path)

def initDb (s : Surroundings) (configPath : String) : Outcome :=
  match loadConfig s configPath with
  | .error fault => configRefused s.folder fault
  | .ok c =>
    let folder := s.folder.touch (logPath c)
    match openStore folder c.databasePath with
    | .error why => .crashed folder (.store why)
    | .ok folder => .printed folder (page ["Database ready: " ++ c.databasePath])

def readInteger? (text : String) : Option Int :=
  let (negative,body) := Numeral.takeSign (Text.trimChars text.toList)
  match Scalar.dropUnderscores body with
  | some digits =>
    if !digits.isEmpty && digits.all Text.isDigitAscii then
      some (if negative then -(Numeral.natOf digits : Int) else Numeral.natOf digits)
    else none
  | none => none

def portOption (a : Arguments) : Except UsageFault (Option Int) :=
  match a.value? "port" with
  | none => .ok none
  | some given => (readInteger? given).elim (.error (.notInteger "'--port' / '-p'" given)) (fun n => .ok (some n))

def servingOf (c : Config) (a : Arguments) (port : Option Int) (configPath : String) : Serving where
  host := ((a.value? "host").filter (fun h => !h.isEmpty)).getD c.web.host
  port := (port.filter (· != 0)).getD c.web.port
  reload := (a.value? "reload").elim c.web.debug (· == "yes")
  configPath := configPath

def serve (s : Surroundings) (a : Arguments) (configPath : String) : Outcome :=
  match portOption a with
  | .error fault => .misused s.folder fault
  | .ok port =>
    match a.positional,loadConfig s configPath with
    | first :: extra,_ => .misused s.folder (.extraArguments (first :: extra))
    | [],.error fault => configRefused s.folder fault
    | [],.ok c => { Outcome.printed (s.folder.touch (logPath c)) "" with serving := some (servingOf c a port configPath) }

def runOpened (s : Surroundings) (configPath : String) : Command → List Opened → Outcome
  | .fieldTypes,_ => .printed s.folder fieldTypeLines
  | .parse,[source] => .printed s.folder (json (Field.wires (Outline.parse (source.read s.input) s.mint).1.fields))
  | .validate,[fields,payload] =>
    match readBoth s "payload file" fields payload with
    | .error reason => .refused s.folder reason
    | .ok (fields,payload) => validate fields payload s.folder
  | .visible,[fields,values] =>
    match readBoth s "values file" fields values with
    | .error reason => .refused s.folder reason
    | .ok (fields,values) => visible fields values s.folder
  | .initDb,_ => initDb s configPath
  | _,_ => .printed s.folder ""

def runCommand (s : Surroundings) (configPath : String) (c : Command) (given : List String) : Outcome :=
  match scan c.options true .none none given with
  | .error fault => .misused s.folder fault
  | .ok a =>
    if a.has "help" then .printed s.folder c.help
    else if c = .serve then serve s a configPath
    else
      match openFiles s.folder c.arguments a.positional with
      | .error fault => .misused s.folder fault
      | .ok opened => runOpened s configPath c opened

def unknownCommand (folder : Folder) (given : List String) : Outcome :=
  let name := given.headD ""
  match if isOption name then scan groupOptions false .none none given else .ok .none with
  | .error fault => .misused folder fault
  | .ok _ => .misused folder (.noSuchCommand name)

def run (s : Surroundings) (args : List String) : Outcome :=
  if args.isEmpty then { Outcome.printed s.folder "" with exit := 2 }
  else
    match scan groupOptions false .none none args with
    | .error fault => .misused s.folder fault
    | .ok a =>
      if a.has "help" then .printed s.folder groupHelp
      else
        match a.positional with
        | [] => .misused s.folder .noCommand
        | name :: given =>
          match Command.ofName? name with
          | none => unknownCommand s.folder (name :: given)
          | some c =>
            let folder := s.folder.touch Config.defaultLogFile
            runCommand { s with folder } ((a.value? "config").getD defaultConfigPath) c given

end FormBuilder.CommandLine
