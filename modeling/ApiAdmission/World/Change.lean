import ApiAdmission.World.FileSystem

/-!
# Changing a file system

Storing an entry under names makes the directories on the way.  Making a directory is refused when
something stands in the way; making one with its parents accepts a directory that is there already.
-/

namespace ApiAdmission

set_option autoImplicit false

namespace Entry

/-- Stores an entry under a name in a list of entries: in place when the name is present, at the end
otherwise. -/
def insert (name : String) (entry : Entry) : List (String × Entry) → List (String × Entry)
  | [] => [(name, entry)]
  | (other, old) :: rest =>
    if other == name then (other, entry) :: rest else (other, old) :: insert name entry rest

/-- Stores an entry under names below another one, making the directories on the way. -/
def store (entry : Entry) : List String → Entry → Entry
  | [], _ => entry
  | name :: rest, parent =>
    let below := (lookup? name parent.entries).getD (.directory [])
    .directory (insert name (store entry rest below) parent.entries)

end Entry

namespace FileSystem

/-- Stores an entry under names from the root. -/
def store (files : FileSystem) (names : List String) (entry : Entry) : FileSystem :=
  { files with root := Entry.store entry names files.root }

/-- Makes the directory at a path whose parent exists. -/
def makeDirectory (files : FileSystem) (path : Path) : Except Breakdown FileSystem :=
  let refuse (cause : RefusalCause) : Except Breakdown FileSystem :=
    .error (.refused ⟨cause, path.text⟩)
  if path.text.toList.contains '\x00' then .error nullInPath
  else
    match path.names.getLast? with
    | none => refuse .alreadyExists
    | some name =>
      match files.lookup path.parent with
      | .error cause => refuse cause
      | .ok (parent, .directory entries) =>
        if name == Path.above then refuse .alreadyExists
        else if longestName < name.utf8ByteSize then refuse .nameTooLong
        else
          match Entry.lookup? name entries with
          | some _ => refuse .alreadyExists
          | none => .ok (files.store (parent ++ [name]) (.directory []))
      | .ok _ => refuse .notDirectory

/-- Makes the directory at a path and those on the way, so many of them at most; one that is there
already is accepted. -/
def makeDirectoriesWithin (files : FileSystem) : Nat → Path → Except Breakdown FileSystem
  | 0, path => files.makeDirectory path
  | depth + 1, path =>
    let accept (files : FileSystem) (breakdown : Breakdown) : Except Breakdown FileSystem := do
      if ← files.isDirectory path then return files else throw breakdown
    match files.makeDirectory path with
    | .ok files => .ok files
    | .error (.refused ⟨.notFound, shown⟩) => do
      if path.parent = path then throw (.refused ⟨.notFound, shown⟩)
      let files ← makeDirectoriesWithin files depth path.parent
      match files.makeDirectory path with
      | .ok files => return files
      | .error (.refused refusal) => accept files (.refused refusal)
      | .error breakdown => throw breakdown
    | .error (.refused refusal) => accept files (.refused refusal)
    | .error breakdown => .error breakdown

/-- Makes the directory at a path and those on the way. -/
def makeDirectories (files : FileSystem) (path : Path) : Except Breakdown FileSystem :=
  files.makeDirectoriesWithin (path.names.length + 1) path

end FileSystem

end ApiAdmission
