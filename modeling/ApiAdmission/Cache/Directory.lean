import ApiAdmission.Settings.Directory

/-!
# The directory of kept documents

The shelf of kept documents is a directory of its own with an index, which is a file like any other
for whoever walks through the directories above it.
-/

namespace ApiAdmission

set_option autoImplicit false

/-- The name of the directory of the shelf. -/
def shelfName : String := "remote-refs"

/-- The name of the index of the shelf. -/
def indexName : String := "cache.db"

/-- The content of a new index, which is no text. -/
def indexContent : List UInt8 := [0xFF]

/-- A file system with the index in the directory at a path, if there is none yet. -/
def FileSystem.withIndex (files : FileSystem) (path : Path) : FileSystem :=
  match files.lookup path with
  | .ok (names, .directory entries) =>
    if (Entry.lookup? indexName entries).isSome then files
    else files.store (names ++ [indexName]) (.file indexContent)
  | _ => files

/-- The world where the shelf is set up. -/
def World.openShelf (world : World) : Except Breakdown World := do
  let (directory, world) ← world.openDirectory .keeping
  let path := directory.child shelfName
  return { world with files := (← world.files.makeDirectories path).withIndex path }

end ApiAdmission
