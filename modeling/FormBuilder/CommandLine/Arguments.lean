import FormBuilder.Text.Quoted
/-! Arguments of a command: options under short and long names, and what is left by position. -/
namespace FormBuilder.CommandLine

structure OptionSpec where
  sets : String
  names : List String
  constant : Option String
  deriving Repr

inductive UsageFault where
  | noSuchOption (name : String)
  | optionNeedsValue (name : String)
  | optionTakesNone (name : String)
  | noSuchCommand (name : String)
  | noCommand
  | missingArgument (name : String)
  | unreadable (argument path reason : String)
  | notInteger (option given : String)
  | extraArguments (given : List String)
  deriving DecidableEq, Repr

def UsageFault.message : UsageFault → String
  | noSuchOption name => "No such option " ++ Text.quoted name ++ "."
  | optionNeedsValue name => "Option " ++ Text.quoted name ++ " requires an argument."
  | optionTakesNone name => "Option " ++ Text.quoted name ++ " does not take a value."
  | noSuchCommand name => "No such command " ++ Text.quoted name ++ "."
  | noCommand => "Missing command."
  | missingArgument name => "Missing argument '" ++ name ++ "'."
  | unreadable argument path reason => "Invalid value for '" ++ argument ++ "': '" ++ path ++ "': " ++ reason
  | notInteger option given => "Invalid value for " ++ option ++ ": " ++ Text.quoted given ++ " is not a valid integer."
  | extraArguments [one] => "Got unexpected extra argument (" ++ one ++ ")"
  | extraArguments given => "Got unexpected extra arguments (" ++ " ".intercalate given ++ ")"

structure Arguments where
  options : List (String × String)
  positional : List String
  deriving DecidableEq, Repr

namespace Arguments

def none : Arguments := ⟨[],[]⟩

def set (a : Arguments) (option value : String) : Arguments := { a with options := a.options ++ [(option,value)] }

def place (a : Arguments) (values : List String) : Arguments := { a with positional := a.positional ++ values }

def has (a : Arguments) (option : String) : Bool := a.options.any (fun o => o.1 == option)

def value? (a : Arguments) (option : String) : Option String :=
  (a.options.reverse.find? (fun o => o.1 == option)).map (·.2)

end Arguments

structure Waiting where
  sets : String
  name : String

abbrev Taken := Except UsageFault (Arguments × Option Waiting)

def takeShort (specs : List OptionSpec) (a : Arguments) : List Char → Taken
  | [] => .ok (a,Option.none)
  | c :: rest =>
    let name := String.ofList ['-',c]
    match specs.find? (fun s => s.names.contains name) with
    | Option.none => .error (.noSuchOption name)
    | some spec =>
      match spec.constant with
      | some value => takeShort specs (a.set spec.sets value) rest
      | Option.none => if rest.isEmpty then .ok (a,some ⟨spec.sets,name⟩) else .ok (a.set spec.sets (String.ofList rest),Option.none)

def takeLong (spec : OptionSpec) (a : Arguments) (name : String) (value : Option String) : Taken :=
  match spec.constant,value with
  | some constant,Option.none => .ok (a.set spec.sets constant,Option.none)
  | some _,some _ => .error (.optionTakesNone name)
  | Option.none,some value => .ok (a.set spec.sets value,Option.none)
  | Option.none,Option.none => .ok (a,some ⟨spec.sets,name⟩)

def takeOption (specs : List OptionSpec) (a : Arguments) (given : String) : Taken :=
  let name := String.ofList (given.toList.takeWhile (· != '='))
  let value := if name.length < given.length then some (String.ofList (given.toList.drop (name.length + 1))) else Option.none
  match specs.find? (fun s => s.names.contains name && name.length != 2) with
  | some spec => takeLong spec a name value
  | Option.none => if "--".toList.isPrefixOf given.toList then .error (.noSuchOption name) else takeShort specs a (given.toList.drop 1)

def isOption (given : String) : Bool := given.toList.head? = some '-' && given.length != 1

def scan (specs : List OptionSpec) (interspersed : Bool) (a : Arguments) (waiting : Option Waiting) :
    List String → Except UsageFault Arguments
  | [] => waiting.elim (.ok a) (fun w => .error (.optionNeedsValue w.name))
  | given :: rest =>
    match waiting with
    | some w => scan specs interspersed (a.set w.sets given) Option.none rest
    | Option.none =>
      if given = "--" then .ok (a.place rest)
      else if isOption given then
        match takeOption specs a given with
        | .error e => .error e
        | .ok (a,waiting) => scan specs interspersed a waiting rest
      else if interspersed then scan specs interspersed (a.place [given]) Option.none rest
      else .ok (a.place (given :: rest))

end FormBuilder.CommandLine
