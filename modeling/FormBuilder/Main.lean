import FormBuilder.CommandLine.Run
/-! The program: it reads the files that its arguments name, runs the command and prints what it says. -/
namespace FormBuilder.CommandLine

def pathsIn (given : String) : List String :=
  let cs := given.toList
  [given,String.ofList (cs.drop 2),String.ofList ((cs.dropWhile (· != '=')).drop 1)]

def readIfThere (path : String) : IO (List (String × String)) := do
  try
    return [(path,← IO.FS.readFile path)]
  catch _ => return []

def readFolder (args : List String) : IO Folder := do
  let paths := (defaultConfigPath :: args.flatMap pathsIn).eraseDups
  return ⟨(← paths.mapM readIfThere).flatten⟩

def variableNames : List String :=
  Environment.shapes.flatMap fun s =>
    let name := "FORMWRIGHT_" ++ s.1.toUpper
    name :: s.2.members.map (fun m => name ++ "__" ++ m.1.toUpper)

def readEnvironment : IO Environment := do
  let given ← variableNames.mapM (fun name => do return (← IO.getEnv name).map (fun v => (name,v)))
  return given.filterMap id

def makeFile (path : String) : IO Unit := do
  let parts := (partsOf? path).getD []
  IO.FS.createDirAll ("/".intercalate ("." :: parts.dropLast))
  IO.FS.writeFile path ""

def report (o : Outcome) : IO Unit := do
  match o.error,o.crash with
  | some reason,_ => IO.eprintln ("Error: " ++ reason)
  | none,some (.config fault) => IO.eprintln fault.message
  | none,some (.store _) => IO.eprintln "unable to open the store"
  | none,none => pure ()
  match o.serving with
  | some s => IO.eprintln ("Starting server on http://" ++ s.host ++ ":" ++ toString s.port)
  | none => pure ()

end FormBuilder.CommandLine

open FormBuilder FormBuilder.CommandLine in
def main (args : List String) : IO UInt32 := do
  let folder ← readFolder args
  let input ← if args.contains "-" then (← IO.getStdin).readToEnd else pure ""
  let milliseconds ← IO.monoMsNow
  let outcome := run ⟨folder,input,← readEnvironment,.atSeconds (milliseconds / 1000)⟩ args
  IO.print outcome.output
  (outcome.folder.newIn folder).forM makeFile
  report outcome
  return outcome.exit.toUInt32
