import ApiAdmission.Ignore.Pattern
import ApiAdmission.Source.Basic

/-!
# The sources that a target names

A target is a location, a hyphen for the standard input, or a document itself.  A location that is a
directory stands for the files in it and below it, in the order of their names; hidden entries are
left out, and so is what the ignore patterns describe.  A directory is entered once, however many
links lead to it.
-/

namespace ApiAdmission

set_option autoImplicit false

namespace Source

/-- How far a walk has come. -/
structure Trail where
  /-- The sources found. -/
  sources : List Source
  /-- The real paths of the directories entered. -/
  entered : List Path

/-- A walk, which may break down; the sources found before that stay found. -/
abbrev Walk (α : Type) := ExceptT Breakdown (StateM Trail) α

/-- Passes on a result that breaks down or not. -/
def orStop {α : Type} : Except Breakdown α → Walk α
  | .ok value => pure value
  | .error breakdown => throw breakdown

/-- Whether a name is hidden. -/
def isHidden (name : String) : Bool := Text.startsWith name "."

/-- Names in their order. -/
def inOrder (names : List String) : List String :=
  names.mergeSort fun a b => decide (a ≤ b)

/-- Visits the entries of a directory with the given names. -/
def walkEntries (files : FileSystem) (patterns : List Ignore.Pattern)
    (enter : Path → List String → Walk Unit) (directory : Path) (below : List String) :
    List String → Walk Unit
  | [] => pure ()
  | name :: rest => do
    let path := directory.child name
    let names := below ++ [name]
    let shown := Text.join "/" names
    if !isHidden name then
      if ← orStop (files.isDirectory path) then
        if !Ignore.ignores patterns (shown ++ "/") then
          let real ← orStop (files.realPath path)
          if !(← get).entered.contains real then
            modify fun trail => { trail with entered := real :: trail.entered }
            enter path names
      else if ← orStop (files.isFile path) then
        if !Ignore.ignores patterns shown then
          modify fun trail => { trail with sources := trail.sources ++ [file path] }
    walkEntries files patterns enter directory below rest

/-- Walks through a directory, entering at most so many inside one another. -/
def walkWithin (files : FileSystem) (patterns : List Ignore.Pattern) :
    Nat → Path → List String → Walk Unit
  | 0, _, _ => throw .endless
  | depth + 1, directory, below => do
    let names ← orStop (files.entryNames directory)
    walkEntries files patterns (walkWithin files patterns depth) directory below (inOrder names)

/-- The name of the file whose lines are further patterns. -/
def ignoreFileName : String := ".oasgateignore"

/-- The patterns for a directory: the given ones and those of its ignore file. -/
def patternsFor (files : FileSystem) (directory : Path) (given : List String) :
    Except Breakdown (List Ignore.Pattern) := do
  let path := directory.child ignoreFileName
  let more ← if ← files.isFile path then do pure (Text.lines (← files.readTolerantly path))
    else pure []
  Ignore.Pattern.ofLines (given ++ more)

/-- Walks through the location that a path names.  Directories that are entered are different, so
they are no more than the file system has entries. -/
def walkLocation (world : World) (excluded : List String) (location : Path) : Walk Unit := do
  let files := world.files
  let path ← orStop (world.expandHome location)
  if ← orStop (files.isDirectory path) then
    let patterns ← orStop (patternsFor files path excluded)
    let real ← orStop (files.realPath path)
    modify fun trail => { trail with entered := [real] }
    walkWithin files patterns (files.root.count + 1) path []
  else modify fun trail => { trail with sources := [file path] }

/-- What a target begins with when it is a location. -/
def locationMark : String := "location:"

/-- The target that is the standard input. -/
def standardInputTarget : String := "-"

/-- The sources that a target names, and the breakdown that ends their list early, if there is
one. -/
def ofTarget (world : World) (target : String) (excluded : List String) :
    List Source × Option Breakdown :=
  if target == standardInputTarget then ([standardInput], none)
  else
    match Text.dropPrefix? locationMark.toList target.toList with
    | none => ([given target], none)
    | some location =>
      let walk := walkLocation world excluded (Path.ofText (String.ofList location))
      let (outcome, trail) := walk.run.run ⟨[], []⟩
      match outcome with
      | .ok _ => (trail.sources, none)
      | .error breakdown => (trail.sources, some breakdown)

end Source

end ApiAdmission
