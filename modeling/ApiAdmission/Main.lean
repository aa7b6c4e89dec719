import ApiAdmission.CommandLine.Demand
import ApiAdmission.CommandLine.Run

/-!
# The program

Takes the part of the file system that a run needs into its surroundings, runs, and prints.  No
network is reached from here.
-/

namespace ApiAdmission.Program

set_option autoImplicit false

/-- How many directories inside one another are looked into. -/
def depthLimit : Nat := 40

/-- The entry at a place below a working directory, with what is in it so many levels deep. -/
def readEntry : Nat → String → IO (Option Entry)
  | 0, _ => return none
  | depth + 1, place => do
    let path := (← IO.currentDir) / place
    if ← path.isDir then
      let mut entries := []
      for found in ← path.readDir do
        if let some entry ← readEntry depth (place ++ "/" ++ found.fileName) then
          entries := (found.fileName, entry) :: entries
      return some (.directory entries)
    else if ← path.pathExists then
      return some (.file (← IO.FS.readBinFile path).toList)
    else return none

/-- A world that knows what is at paths, those that nothing can be read from left out. -/
def lookAt (world : World) : List Path → IO World
  | [] => return world
  | path :: rest => do
    let names := if path.isAbsolute then path.names else world.files.workingDirectory ++ path.names
    let entry ← try readEntry depthLimit path.text catch _ => pure none
    match entry with
    | some entry => lookAt { world with files := world.files.store names entry } rest
    | none => lookAt world rest

/-- A world that knows the files that documents at paths refer to, and what those refer to, so many
rounds long. -/
def lookAfter (world : World) : Nat → List Path → IO World
  | 0, _ => return world
  | rounds + 1, paths => do
    let referred := paths.flatMap (CommandLine.referredPaths world)
    let unknown := referred.eraseDups.filter fun path => (world.files.entryAt path).toBool == false
    if unknown.isEmpty then return world
    lookAfter (← lookAt world unknown) rounds unknown

/-- The variables of the environment that matter. -/
def variableNames : List String :=
  ["HOME", "XDG_CONFIG_HOME", "XDG_CACHE_HOME", "XDG_DATA_HOME", "NO_COLOR", "TERM",
    "OASGATE_LEVEL", "OASGATE_REMOTE_REFS", "OASGATE_REMOTE_TIMEOUT"]

/-- The environment, as far as it matters. -/
def environment : IO (List (String × String)) := do
  let values ← variableNames.mapM fun name => return (name, ← IO.getEnv name)
  return values.filterMap fun (name, value) => value.map (name, ·)

/-- The surroundings of a run with arguments. -/
def surroundings (arguments : List String) : IO World := do
  let here := (Path.ofText (← IO.currentDir).toString).names
  let empty : FileSystem := ⟨Entry.store (.directory []) here (.directory []), here⟩
  let input ← if CommandLine.readsInput arguments then (← IO.getStdin).readToEnd else pure ""
  let world : World := {
    files := empty
    environment := ← environment
    network := []
    standardInput := input
    terminal := ← (← IO.getStdout).isTty
    systemName := "Linux"
    homes := [] }
  let world ← lookAt world (CommandLine.firstPaths world arguments)
  let known := world.locations.map Path.ofText
  lookAfter world depthLimit known

/-- Writes the log that a run leaves. -/
def writeLog (log : CommandLine.Log) : IO Unit := do
  IO.FS.createDirAll log.path.parent.text
  IO.FS.writeFile log.path.text log.text

/-- Runs the program with arguments and gives its exit code. -/
def run (arguments : List String) : IO UInt32 := do
  let world ← surroundings arguments
  match CommandLine.run world (toString (← IO.monoMsNow)) arguments with
  | .error breakdown =>
    IO.eprintln (breakdown.message?.getD "The run has broken down.")
    return 1
  | .ok ending =>
    IO.print ending.printed.output
    IO.eprint ending.printed.errors
    ending.log.forM writeLog
    return ending.exitCode.toNat.toUInt32

end ApiAdmission.Program

/-- Runs the program. -/
def main (arguments : List String) : IO UInt32 :=
  ApiAdmission.Program.run arguments
