import ApiAdmission.Text.Search

/-!
# Paths

A path is an anchor and a list of names.  The anchor is empty for a relative path, one slash for an
absolute one, and two slashes where a path begins with exactly two.  Empty names and single dots
vanish when a path is read; double dots stay, because what they mean depends on symbolic links.
-/

namespace ApiAdmission

set_option autoImplicit false

/-- A path. -/
structure Path where
  /-- The slashes at the front. -/
  anchor : String
  /-- The names on the way, in order. -/
  names : List String
deriving DecidableEq, Repr

namespace Path

/-- The name of the directory above. -/
def above : String := ".."

/-- The names in a text, without the empty ones and the single dots. -/
def namesOf (text : String) : List String :=
  (Text.split '/' text).filter fun name => name != "" && name != "."

/-- The anchor of a text. -/
def anchorOf (text : String) : String :=
  match (text.toList.takeWhile (· == '/')).length with
  | 0 => ""
  | 2 => "//"
  | _ => "/"

/-- Reads a path. -/
def ofText (text : String) : Path := ⟨anchorOf text, namesOf text⟩

/-- The text of a path; the empty path is a dot. -/
def text (path : Path) : String :=
  let shown := path.anchor ++ Text.join "/" path.names
  if shown == "" then "." else shown

/-- Whether a path starts at the root. -/
def isAbsolute (path : Path) : Bool := path.anchor != ""

/-- The path that a second one means from the directory that is the first; an absolute one means
itself. -/
def join (directory path : Path) : Path :=
  if path.isAbsolute then path else { directory with names := directory.names ++ path.names }

/-- The path of an entry of a directory. -/
def child (directory : Path) (name : String) : Path :=
  { directory with names := directory.names ++ [name] }

/-- The directory that a path is in. -/
def parent (path : Path) : Path := { path with names := path.names.dropLast }

end Path

end ApiAdmission
