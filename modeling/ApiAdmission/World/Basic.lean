import ApiAdmission.Text.Blank
import ApiAdmission.World.RealPath

/-!
# The surroundings of a run

Everything that a run can observe: the file system, the environment, what the network answers, the
standard input, whether the standard output is a terminal, the name of the operating system and the
home directories of the users.
-/

namespace ApiAdmission

set_option autoImplicit false

/-- What the network answers to a request. -/
inductive NetworkAnswer where
  /-- A response with its status and body. -/
  | response (status : Int) (body : String)
  /-- No response, and why. -/
  | unreachable (reason : String)

/-- Everything that a run can observe. -/
structure World where
  /-- The files, directories and links. -/
  files : FileSystem
  /-- The variables of the environment. -/
  environment : List (String × String)
  /-- What the network answers for each address. -/
  network : List (String × NetworkAnswer)
  /-- The text of the standard input. -/
  standardInput : String
  /-- Whether the standard output is a terminal. -/
  terminal : Bool
  /-- The name of the operating system. -/
  systemName : String
  /-- The home directories of the users, that of the present user under the empty name. -/
  homes : List (String × String)

namespace World

/-- The value of a variable of the environment. -/
def environmentValue? (world : World) (name : String) : Option String :=
  (world.environment.find? fun entry => entry.1 == name).map Prod.snd

/-- The home directory of a user; the variable `HOME` names that of the present one. -/
def homeOf? (world : World) (user : String) : Option String :=
  let known := (world.homes.find? fun entry => entry.1 == user).map Prod.snd
  if user == "" then (world.environmentValue? "HOME").or known else known

/-- A path with a tilde at its front replaced by a home directory. -/
def expandHome (world : World) (path : Path) : Except Breakdown Path :=
  match path.names with
  | first :: rest =>
    if path.isAbsolute then .ok path
    else
      match first.toList with
      | '~' :: user =>
        match world.homeOf? (String.ofList user) with
        | none => .error .lostPath
        | some home =>
          let trimmed := String.ofList (Text.trimEnd (· == '/') home.toList)
          let directory := Path.ofText (if trimmed == "" then "/" else trimmed)
          .ok { directory with names := directory.names ++ rest }
      | _ => .ok path
  | [] => .ok path

/-- The home directory of the present user. -/
def home (world : World) : Except Breakdown Path := world.expandHome (Path.ofText "~")

/-- What the network answers for an address; nothing listens where nothing is listed. -/
def ask (world : World) (address : String) : NetworkAnswer :=
  ((world.network.find? fun entry => entry.1 == address).map Prod.snd).getD
    (.unreachable "connection refused")

end World

end ApiAdmission
