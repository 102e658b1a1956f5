import FormBuilder.Time.Zone
import FormBuilder.Value
/-! What an operator decides: where things are kept, how the service is reached, how fast submissions
may come, and who may manage forms. -/
namespace FormBuilder

structure WebConfig where
  host : String
  port : Int
  debug : Bool
  deriving Repr

structure RateLimitConfig where
  enabled : Bool
  maxRequests : Int
  windowSeconds : Int
  deriving Repr

structure EditorConfig where
  autosaveDelay : Double
  textParseDelay : Double
  deriving Repr

structure Config where
  timezone : String
  logFile : String
  databasePath : String
  web : WebConfig
  rateLimit : RateLimitConfig
  editor : EditorConfig
  apiKeys : List (String × String)
  deriving Repr

namespace Config

def defaultLogFile : String := "data/formwright.log"

def default : Config where
  timezone := "UTC"
  logFile := defaultLogFile
  databasePath := "data/formwright.db"
  web := ⟨"0.0.0.0",8000,false⟩
  rateLimit := ⟨true,10,3600⟩
  editor := ⟨.ofInt 2,.ofRatio false 1 2⟩
  apiKeys := []

def zone (c : Config) : Zone := (Zone.find? c.timezone).getD .utc

def owner? (c : Config) (key : Option String) : Option String :=
  match key with
  | none => none
  | some k => if k.isEmpty then none else (c.apiKeys.find? (fun e => e.1 == k)).map (·.2)

def entries (c : Config) : Object :=
  [("timezone",.str c.timezone),("log_file",.str c.logFile),
    ("database",.object [("path",.str c.databasePath)]),
    ("web",.object [("host",.str c.web.host),("port",.int c.web.port),("debug",.bool c.web.debug)]),
    ("rate_limit",.object [("enabled",.bool c.rateLimit.enabled),("max_requests",.int c.rateLimit.maxRequests),
      ("window_seconds",.int c.rateLimit.windowSeconds)]),
    ("editor",.object [("autosave_delay",.float c.editor.autosaveDelay),("text_parse_delay",.float c.editor.textParseDelay)]),
    ("auth",.object [("api_keys",.object (c.apiKeys.map (fun e => (e.1,.str e.2))))])]

end Config
end FormBuilder
