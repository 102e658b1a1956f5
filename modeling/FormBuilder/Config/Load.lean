import FormBuilder.Config.Environment
import FormBuilder.Config.Read
import FormBuilder.Toml.Read
/-! Loading the configuration: a TOML document, and over it what environment variables say. -/
namespace FormBuilder

inductive ConfigFault where
  | noFile (path : String)
  | badDocument
  | badVariable
  | zoneIsCollection
  | invalid (faults : List Fault)
  deriving Repr

namespace ConfigFault

def lineOf (f : Fault) : String := "\n  - " ++ " -> ".intercalate (f.path.map Step.text) ++ ": " ++ f.cause.message

def message : ConfigFault → String
  | noFile path => "Configuration file not found: " ++ path
  | badDocument => "The configuration file is not a TOML document"
  | badVariable => "An environment variable is not valid JSON"
  | zoneIsCollection => "The timezone must be a name"
  | invalid faults => "Configuration validation failed:" ++ String.join (faults.map lineOf)

def shown (_ : ConfigFault) : String := "Internal server error"

def status (_ : ConfigFault) : Nat := 500

end ConfigFault

namespace Config

def isCollection : Value → Bool
  | .list _ => true
  | .object _ => true
  | _ => false

def ofSettings (o : Object) : Except ConfigFault Config :=
  if (o.value? "timezone").any isCollection then .error .zoneIsCollection
  else (read o).mapError .invalid

def load (path : String) (document : Option String) (e : Environment) : Except ConfigFault Config :=
  match document with
  | none => .error (.noFile path)
  | some text =>
    match Toml.read text,e.settings with
    | none,_ => .error .badDocument
    | some _,none => .error .badVariable
    | some written,some overrides => ofSettings (Object.merge written overrides)

end Config
end FormBuilder
