import ApiAdmission.Breakdown
import ApiAdmission.World.Path

/-!
# Files, directories and symbolic links

A file system is a tree of named entries together with the working directory.  Looking up a path
follows symbolic links, at most forty of them in one look-up, and a pair of dots leads to the
directory that really contains the one reached.  A look-up is refused for the causes that the file
system gives: a missing entry, a file where a directory is needed, a name or path that is too long,
and too many links.
-/

namespace ApiAdmission

set_option autoImplicit false

/-- What is stored under a name. -/
inductive Entry where
  /-- A regular file with its bytes. -/
  | file (content : List UInt8)
  /-- A directory with its entries. -/
  | directory (entries : List (String × Entry))
  /-- A symbolic link with the path that it holds. -/
  | link (target : String)
deriving Inhabited

namespace Entry

/-- The entry of a name in a list of entries. -/
def lookup? (name : String) : List (String × Entry) → Option Entry
  | [] => none
  | (other, entry) :: rest => if other == name then some entry else lookup? name rest

/-- The entries of a directory, and none of anything else. -/
def entries : Entry → List (String × Entry)
  | .directory entries => entries
  | _ => []

/-- The entry at names below an entry, without following links. -/
def descend? (entry : Entry) : List String → Option Entry
  | [] => some entry
  | name :: rest =>
    match entry with
    | .directory entries => (lookup? name entries).bind (descend? · rest)
    | _ => none

/-- Whether an entry is a directory. -/
def isDirectory : Entry → Bool
  | .directory _ => true
  | _ => false

/-- Whether an entry is a regular file. -/
def isFile : Entry → Bool
  | .file _ => true
  | _ => false

mutual
/-- The number of entries below and including an entry. -/
def count : Entry → Nat
  | .directory entries => 1 + countIn entries
  | .file _ | .link _ => 1
termination_by structural entry => entry

/-- The number of entries in a list of named entries and below them. -/
def countIn : List (String × Entry) → Nat
  | [] => 0
  | (_, entry) :: rest => count entry + countIn rest
termination_by structural entries => entries
end

end Entry

/-- A file system. -/
structure FileSystem where
  /-- The directory at the root. -/
  root : Entry
  /-- The names that lead from the root to the working directory. -/
  workingDirectory : List String

/-- The longest name of an entry, in bytes. -/
def longestName : Nat := 255

/-- A path must be shorter than this, in bytes. -/
def pathLimit : Nat := 4096

/-- How many symbolic links one look-up follows. -/
def linkLimit : Nat := 40

namespace FileSystem

/-- Where the names of a path are looked up from. -/
def startOf (files : FileSystem) (path : Path) : List String :=
  if path.isAbsolute then [] else files.workingDirectory

/-- Looks up names from a directory that is given by its own names, following links. -/
def lookupFrom (files : FileSystem) (links : Nat) (here : List String) (names : List String) :
    Except RefusalCause (List String × Entry) :=
  match names with
  | [] =>
    match files.root.descend? here with
    | some entry => .ok (here, entry)
    | none => .error .notFound
  | name :: rest =>
    match files.root.descend? here with
    | some (.directory entries) =>
      if name == Path.above then lookupFrom files links here.dropLast rest
      else if longestName < name.utf8ByteSize then .error .nameTooLong
      else
        match Entry.lookup? name entries with
        | none => .error .notFound
        | some (.link target) =>
          match links with
          | 0 => .error .tooManyLinks
          | links + 1 =>
            let path := Path.ofText target
            lookupFrom files links (if path.isAbsolute then [] else here) (path.names ++ rest)
        | some _ => lookupFrom files links (here ++ [name]) rest
    | some _ => .error .notDirectory
    | none => .error .notFound
termination_by (links, names.length)

/-- The names that really lead to what a path names, and what is there. -/
def lookup (files : FileSystem) (path : Path) : Except RefusalCause (List String × Entry) :=
  if pathLimit ≤ path.text.utf8ByteSize then .error .nameTooLong
  else files.lookupFrom linkLimit (files.startOf path) path.names

/-- What a path with a null character does to an operation. -/
def nullInPath : Breakdown := .illegalValue "embedded null byte"

/-- What is stored at a path. -/
def entryAt (files : FileSystem) (path : Path) : Except Breakdown Entry :=
  if path.text.toList.contains '\x00' then .error nullInPath
  else
    match files.lookup path with
    | .ok (_, entry) => .ok entry
    | .error cause => .error (.refused ⟨cause, path.text⟩)

/-- Whether a condition holds of what is stored at a path.  A path that leads nowhere satisfies
none, but one that is too long is refused. -/
def satisfies (files : FileSystem) (condition : Entry → Bool) (path : Path) :
    Except Breakdown Bool :=
  match files.entryAt path with
  | .ok entry => .ok (condition entry)
  | .error (.refused ⟨.nameTooLong, shown⟩) => .error (.refused ⟨.nameTooLong, shown⟩)
  | .error _ => .ok false

/-- Whether a path leads to a directory. -/
def isDirectory (files : FileSystem) (path : Path) : Except Breakdown Bool :=
  files.satisfies Entry.isDirectory path

/-- Whether a path leads to a regular file. -/
def isFile (files : FileSystem) (path : Path) : Except Breakdown Bool :=
  files.satisfies Entry.isFile path

/-- The bytes of the file at a path. -/
def readBytes (files : FileSystem) (path : Path) : Except Breakdown (List UInt8) := do
  match ← files.entryAt path with
  | .file content => return content
  | _ => throw (.refused ⟨.isDirectory, path.text⟩)

/-- The names of the entries of the directory at a path. -/
def entryNames (files : FileSystem) (path : Path) : Except Breakdown (List String) := do
  match ← files.entryAt path with
  | .directory entries => return entries.map Prod.fst
  | _ => throw (.refused ⟨.notDirectory, path.text⟩)

end FileSystem

end ApiAdmission
