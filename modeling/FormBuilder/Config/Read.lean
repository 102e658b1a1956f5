import FormBuilder.Config.Basic
import FormBuilder.Field.Read
/-! Reading a configuration from data. Every setting has a default; a name that no setting has is a
fault at the top, and passed over inside a section. -/
namespace FormBuilder.Config
open Checked (fault)

def within (least most : Int) (v : Value) : Checked Int :=
  match Scalar.atLeast least v with
  | .ok n => if most < n then fault (.aboveMaximum most) else .ok n
  | .error e => .error e

def delay (v : Value) : Checked Double :=
  match Scalar.double v with
  | .ok x => if Double.le x .zero then fault (.notAbove 0) else .ok x
  | .error e => .error e

def group (name : String) (read : Object → Checked α) : Value → Checked α
  | .object o => read o
  | _ => fault (.notSection name)

def readZoneName (v : Value) : Checked String :=
  let refuse (given : String) : Checked String :=
    fault (.refused ("Invalid timezone configuration: '" ++ given ++ "'. Please use a valid IANA timezone identifier"))
  match v with
  | .str s => if (Zone.find? s).isSome then .ok s else refuse s
  | v => refuse v.inner

def readDatabase (o : Object) : Checked String := o.readAt ["path"] default.databasePath Scalar.text

def readWeb (o : Object) : Checked WebConfig :=
  .part (.part ((o.readAt ["host"] default.web.host Scalar.text).map WebConfig.mk)
    (o.readAt ["port"] default.web.port (within 1 65535))) (o.readAt ["debug"] default.web.debug Scalar.bool)

def readRateLimit (o : Object) : Checked RateLimitConfig :=
  .part (.part ((o.readAt ["enabled"] default.rateLimit.enabled Scalar.bool).map RateLimitConfig.mk)
    (o.readAt ["max_requests"] default.rateLimit.maxRequests (Scalar.atLeast 1)))
    (o.readAt ["window_seconds"] default.rateLimit.windowSeconds (Scalar.atLeast 1))

def readEditor (o : Object) : Checked EditorConfig :=
  .both EditorConfig.mk (o.readAt ["autosave_delay"] default.editor.autosaveDelay delay)
    (o.readAt ["text_parse_delay"] default.editor.textParseDelay delay)

def keyFault? : List (String × String) → Option Cause
  | [] => none
  | (key,owner) :: rest =>
    if Text.allBlank key then some (.refused "API keys cannot be empty")
    else if Text.allBlank owner then some (.refused ("API key " ++ (String.ofList (key.toList.take 2)) ++ "*** has no owner"))
    else keyFault? rest

def readOwners : Object → Checked (List (String × String))
  | [] => .ok []
  | (key,owner) :: rest =>
    .both (fun o rest => (key,o) :: rest) (.under (.name key) (Scalar.text owner)) (readOwners rest)

def readKeys : Value → Checked (List (String × String))
  | .object o =>
    match readOwners o with
    | .error faults => .error faults
    | .ok keys => (keyFault? keys).elim (.ok keys) fault
  | _ => fault .notObject

def readAuth (o : Object) : Checked (List (String × String)) := o.readAt ["api_keys"] default.apiKeys readKeys

def names : List String := ["timezone","log_file","database","web","rate_limit","editor","auth"]

def unexpectedIn (o : Object) : List Fault :=
  (o.filter (fun e => !names.contains e.1)).map (fun e => ⟨.unexpected,[.name e.1]⟩)

def read (o : Object) : Checked Config :=
  let declared : Checked Config :=
    .part (.part (.part (.part (.part (.part ((o.readAt ["timezone"] default.timezone readZoneName).map Config.mk)
      (o.readAt ["log_file"] default.logFile Scalar.text))
      (o.readAt ["database"] default.databasePath (group "DatabaseConfig" readDatabase)))
      (o.readAt ["web"] default.web (group "WebConfig" readWeb)))
      (o.readAt ["rate_limit"] default.rateLimit (group "RateLimitConfig" readRateLimit)))
      (o.readAt ["editor"] default.editor (group "EditorConfig" readEditor)))
      (o.readAt ["auth"] default.apiKeys (group "AuthConfig" readAuth))
  match unexpectedIn o with
  | [] => declared
  | faults => .both (fun c _ => c) declared (.error faults : Checked Unit)

end FormBuilder.Config
