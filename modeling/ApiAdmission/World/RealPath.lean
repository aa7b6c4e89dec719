import ApiAdmission.World.FileSystem

/-!
# Real paths

The real path of a path is absolute and contains neither dots nor symbolic links.  What does not
exist is kept as it is written.  Each link is followed once and its meaning remembered; a link that
leads back to itself stays in the result together with what follows it, and if the result then
cannot be reached because of it, there is no real path.
-/

namespace ApiAdmission

set_option autoImplicit false

/-- The links met so far, each with its meaning once that is known. -/
abbrev KnownLinks := List (List String × Option (List String))

/-- The outcome of following names. -/
structure RealNames where
  /-- The names reached. -/
  names : List String
  /-- Whether every link on the way had a meaning. -/
  complete : Bool
  /-- The links met. -/
  known : KnownLinks

namespace FileSystem

/-- What is known about a link. -/
def knownLink? (known : KnownLinks) (names : List String) : Option (Option (List String)) :=
  (known.find? fun entry => entry.1 == names).map Prod.snd

/-- Follows names from real names on; at most so many links are followed inside one another. -/
def realFrom (files : FileSystem) (nesting : Nat) (here : List String) (names : List String)
    (known : KnownLinks) : RealNames :=
  match names with
  | [] => ⟨here, true, known⟩
  | name :: rest =>
    if name == Path.above then realFrom files nesting here.dropLast rest known
    else
      let next := here ++ [name]
      match files.root.descend? next with
      | some (.link target) =>
        match knownLink? known next with
        | some (some meaning) => realFrom files nesting meaning rest known
        | some none => ⟨next ++ rest, false, known⟩
        | none =>
          match nesting with
          | 0 => ⟨next ++ rest, false, known⟩
          | nesting + 1 =>
            let path := Path.ofText target
            let start := if path.isAbsolute then [] else here
            let inner := realFrom files nesting start path.names ((next, none) :: known)
            if inner.complete then
              realFrom files (nesting + 1) inner.names rest
                ((next, some inner.names) :: inner.known)
            else ⟨inner.names ++ rest, false, inner.known⟩
      | _ => realFrom files nesting next rest known
termination_by (nesting, names.length)

/-- Names with the pairs of dots removed together with the names before them. -/
def collapse (names : List String) : List String :=
  names.foldl (fun here name => if name == Path.above then here.dropLast else here ++ [name]) []

/-- The real path of a path. -/
def realPath (files : FileSystem) (path : Path) : Except Breakdown Path :=
  if path.text.toList.contains '\x00' then .error nullInPath
  else
    let reached := files.realFrom files.root.count (files.startOf path) path.names []
    let result : Path := ⟨"/", collapse reached.names⟩
    match files.lookup result with
    | .error .tooManyLinks => .error .lostPath
    | _ => .ok result

end FileSystem

end ApiAdmission
