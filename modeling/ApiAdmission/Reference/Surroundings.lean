import ApiAdmission.Reference.Resolution

/-!
# The world around references

References are located in the file system of a world and loaded from its files and its network.
-/

namespace ApiAdmission

set_option autoImplicit false

namespace Entry

mutual
/-- The names that lead to the regular files below an entry. -/
def fileNames (here : List String) : Entry → List (List String)
  | .file _ => [here]
  | .directory entries => fileNamesIn here entries
  | .link _ => []
termination_by structural entry => entry

/-- The names that lead to the regular files in a list of named entries. -/
def fileNamesIn (here : List String) : List (String × Entry) → List (List String)
  | [] => []
  | (name, entry) :: rest => fileNames (here ++ [name]) entry ++ fileNamesIn here rest
termination_by structural entries => entries
end

end Entry

/-- The locations in a world where there may be something to load. -/
def World.locations (world : World) : List String :=
  world.network.map Prod.fst ++
    (world.files.root.fileNames []).map fun names => Path.text ⟨"/", names⟩

/-- What work on references asks of a world; loading may be disabled. -/
def World.surroundings (world : World) (enabled : Bool) : Reference.Surroundings where
  locate := Reference.locate world.files
  load := Reference.load world enabled

end ApiAdmission
