import ApiAdmission.Ignore.Glob
import ApiAdmission.Text.Blank
import ApiAdmission.Text.Search

/-!
# Ignore patterns

A pattern describes paths below a directory, and the last pattern of a list that describes a path
decides whether the path is ignored; an exclamation mark in front of a pattern keeps what it
describes.  A path of a directory ends in a slash.

A pattern of one name describes entries of that name at any depth, and a longer one, or one that
starts with a slash, is bound to the directory.  Two stars stand for any directories.  A pattern
describes what it names and everything below, except that a star at the end of a bound pattern
describes the entries themselves only; a pattern that ends in a slash describes directories.
-/

namespace ApiAdmission.Ignore

set_option autoImplicit false

/-- A part of a pattern between slashes. -/
inductive Segment where
  /-- Any directories. -/
  | anyDepth
  /-- Any one name. -/
  | anyName
  /-- A name that a glob describes. -/
  | named (glob : Glob)
deriving DecidableEq, Repr

/-- The paths that a pattern describes. -/
inductive Scope where
  /-- Every path. -/
  | everything
  /-- Every path with a slash in it. -/
  | everythingBelow
  /-- The paths that segments describe. -/
  | segments (segments : List Segment)
deriving DecidableEq, Repr

/-- A pattern. -/
structure Pattern where
  /-- Whether the paths that it describes are ignored or kept. -/
  ignores : Bool
  /-- The paths that it describes. -/
  scope : Scope
deriving DecidableEq, Repr

/-! ## Reading -/

/-- The texts between the slashes of a pattern, without an anchor.  A single name may be at any
depth, and a slash at the end stands for everything below. -/
def boundParts (parts : List String) : List String :=
  let bound := match parts with
    | "" :: rest => rest
    | [name] => ["**", name]
    | [name, ""] => ["**", name, ""]
    | parts => parts
  if bound.getLast? == some "" then bound.dropLast ++ ["**"] else bound

/-- Parts with one double star for several in a row. -/
def mergeDepths : List String → List String
  | [] => []
  | part :: rest =>
    match part, mergeDepths rest with
    | "**", "**" :: rest => "**" :: rest
    | part, rest => part :: rest

/-- The segment that a part of a pattern is. -/
def segmentOf (part : String) : Except Breakdown (Option Segment) :=
  if part == "**" then .ok (some .anyDepth)
  else if part == "*" then .ok (some .anyName)
  else do return (← Glob.ofText part.toList).map .named

/-- The segments that the parts of a pattern are. -/
def segmentsOf : List String → Except Breakdown (Option (List Segment))
  | [] => .ok (some [])
  | part :: rest => do
    match ← segmentOf part with
    | none => return none
    | some segment => return (← segmentsOf rest).map (segment :: ·)

/-- The paths that a pattern without its exclamation mark describes; there is none where the pattern
means nothing. -/
def scopeOf (text : String) : Except Breakdown (Option Scope) :=
  let parts := Text.split '/' text
  let onDirectories := parts.getLast? == some ""
  if text == "/" then .ok (some .everything)
  else
    match mergeDepths (boundParts parts) with
    | [] => .ok none
    | ["**"] | ["**", "*", "**"] =>
      .ok (some (if onDirectories then .everythingBelow else .everything))
    | ["**", "*"] => .ok (some .everything)
    | parts => do return (← segmentsOf parts).map .segments

/-- A line without the blanks at its end, unless the last one is escaped. -/
def trimLine (line : String) : String :=
  if Text.endsWith line "\\ " then line
  else String.ofList (Text.trimEnd Text.isBlank line.toList)

/-- Reads a line; blank lines and comments are no patterns. -/
def Pattern.ofLine (line : String) : Except Breakdown (Option Pattern) :=
  let text := trimLine line
  if text == "" || Text.startsWith text "#" then .ok none
  else
    let keeps := Text.startsWith text "!"
    let bare := if keeps then String.ofList (text.toList.drop 1) else text
    do
      match ← scopeOf bare with
      | some scope => return some ⟨!keeps, scope⟩
      | none => throw (.meaninglessPattern line)

/-- Reads lines. -/
def Pattern.ofLines : List String → Except Breakdown (List Pattern)
  | [] => .ok []
  | line :: rest => do
    let first ← Pattern.ofLine line
    return first.toList ++ (← Pattern.ofLines rest)

/-! ## Matching -/

/-- Whether a test holds of some ending of a list, the whole of it and the empty one included. -/
def someRest (test : List String → Bool) : List String → Bool
  | [] => test []
  | name :: rest => test (name :: rest) || someRest test rest

/-- Whether segments describe a path, given by what stands between its slashes. -/
def describesNames : List Segment → List String → Bool
  | [], _ => true
  | [.anyDepth], names => !names.isEmpty
  | .anyDepth :: rest, names => someRest (describesNames rest) names
  | [.anyName], names =>
    match names with
    | [name] | [name, ""] => name != ""
    | _ => false
  | .anyName :: rest, names =>
    match names with
    | name :: names => name != "" && describesNames rest names
    | [] => false
  | .named glob :: rest, names =>
    match names with
    | name :: names => glob.describes name.toList && describesNames rest names
    | [] => false

/-- Whether a pattern describes a path. -/
def Pattern.describes (pattern : Pattern) (path : String) : Bool :=
  match pattern.scope with
  | .everything => path != ""
  | .everythingBelow => path.toList.contains '/'
  | .segments segments => describesNames segments (Text.split '/' path)

/-- Whether patterns ignore a path: the last one that describes it decides. -/
def ignores (patterns : List Pattern) (path : String) : Bool :=
  patterns.foldl (fun ignored pattern =>
    if pattern.describes path then pattern.ignores else ignored) false

end ApiAdmission.Ignore
