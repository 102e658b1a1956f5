import FormBuilder.CommandLine.Arguments
/-! The commands there are, with their options, their arguments and what they say about themselves. -/
namespace FormBuilder.CommandLine

inductive Command where
  | fieldTypes
  | parse
  | validate
  | visible
  | initDb
  | serve
  deriving DecidableEq, Repr

def helpOption : OptionSpec := ⟨"help",["--help"],some ""⟩

def groupOptions : List OptionSpec := [⟨"config",["--config","-c"],none⟩,helpOption]

def defaultConfigPath : String := "config.toml"

namespace Command

def name : Command → String
  | fieldTypes => "field-types"
  | parse => "parse"
  | validate => "validate"
  | visible => "visible"
  | initDb => "init-db"
  | serve => "serve"

def all : List Command := [fieldTypes,parse,validate,visible,initDb,serve]

def ofName? (name : String) : Option Command := all.find? (fun c => c.name == name)

def arguments : Command → List String
  | parse => ["SOURCE"]
  | validate => ["FIELDS_JSON","PAYLOAD_JSON"]
  | visible => ["FIELDS_JSON","VALUES_JSON"]
  | _ => []

def options : Command → List OptionSpec
  | serve =>
    [⟨"host",["--host","-h"],none⟩,⟨"port",["--port","-p"],none⟩,⟨"reload",["--reload"],some "yes"⟩,
      ⟨"reload",["--no-reload"],some "no"⟩,helpOption]
  | _ => [helpOption]

def about : Command → List String
  | fieldTypes => ["List the available field types."]
  | parse => ["Parse text-builder input from SOURCE ('-' for stdin) into field JSON."]
  | validate =>
    ["Validate a submission payload against a form's fields.","","Exits with status 1 when the payload is rejected."]
  | visible => ["Print the ids of fields shown for the given answers."]
  | initDb => ["Create the database tables."]
  | serve => ["Start the API server."]

def optionLines : Command → List String
  | serve =>
    ["  -h, --host TEXT         Override host from config",
      "  -p, --port INTEGER      Override port from config",
      "  --reload / --no-reload  Reload on code changes (defaults to [web] debug)",
      "  --help                  Show this message and exit."]
  | _ => ["  --help  Show this message and exit."]

end Command

def indented (line : String) : String := if line.isEmpty then line else "  " ++ line

def page (lines : List String) : String := String.join (lines.map (· ++ "\n"))

def Command.help (c : Command) : String :=
  page (["Usage: cli " ++ " ".intercalate (c.name :: "[OPTIONS]" :: c.arguments),""] ++ c.about.map indented ++
    ["","Options:"] ++ c.optionLines)

def groupHelp : String :=
  page ["Usage: cli [OPTIONS] COMMAND [ARGS]...","",
    "  Formwright - form builder and submission validator.","",
    "Options:",
    "  -c, --config TEXT  Configuration file path",
    "  --help             Show this message and exit.","",
    "Commands:",
    "  field-types  List the available field types.",
    "  init-db      Create the database tables.",
    "  parse        Parse text-builder input from SOURCE ('-' for stdin) into...",
    "  serve        Start the API server.",
    "  validate     Validate a submission payload against a form's fields.",
    "  visible      Print the ids of fields shown for the given answers."]

end FormBuilder.CommandLine
