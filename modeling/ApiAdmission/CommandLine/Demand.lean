import ApiAdmission.CommandLine.Arguments
import ApiAdmission.Document.Parse
import ApiAdmission.Reference.Location
import ApiAdmission.Reference.Scan
import ApiAdmission.Settings.Directory
import ApiAdmission.Source.Walk

/-!
# What a run needs of the file system

A run looks at its settings, at the location that its target names, and at the files that documents
refer to.  Whoever prepares the surroundings of a run can ask here for the paths.
-/

namespace ApiAdmission.CommandLine

set_option autoImplicit false

/-- The paths of the settings. -/
def settingsPaths (world : World) : List Path :=
  let project := (Path.ofText "").child (programName ++ ".json")
  match world.directoryFor .settings with
  | .ok directory => [directory.child "config.json", project]
  | .error _ => [project]

/-- The path of the location that a target names. -/
def locationPath? (world : World) (target : String) : Option Path := do
  let location ← Text.dropPrefix? Source.locationMark.toList target.toList
  (world.expandHome (Path.ofText (String.ofList location))).toOption

/-- The paths that a run with arguments begins with. -/
def firstPaths (world : World) (arguments : List String) : List Path :=
  match Task.ofArguments arguments with
  | .ok (.check check) => settingsPaths world ++ (locationPath? world check.target).toList
  | _ => []

/-- Whether a run with arguments reads the standard input. -/
def readsInput (arguments : List String) : Bool :=
  match Task.ofArguments arguments with
  | .ok (.check check) => check.target == Source.standardInputTarget
  | _ => false

/-- The paths of the files that the document at a path refers to. -/
def referredPaths (world : World) (path : Path) : List Path :=
  let text := (world.files.readText path).toOption
  let tree := text.bind fun text => (parse text).toOption
  let references := (tree.map Reference.remoteReferences).getD []
  references.filterMap fun reference => do
    let part := String.ofList (Text.cutAt '#' reference.toList).1
    let location ← (Reference.locate world.files (some path.text) part).toOption
    if isWebAddress location then none else some (Path.ofText location)

end ApiAdmission.CommandLine
