import ApiAdmission.Level
import ApiAdmission.Number.Reader
import ApiAdmission.Text.Search

/-!
# The command line

A command line holds a target, possibly the number of a level behind it, and options anywhere
before, between and after them.  Most options are switches.  A switch with one letter may share its
hyphen with others, and the option that takes a value takes the rest of its own argument or all of
the next one.  Everything behind a bare double hyphen is taken as it stands.
-/

namespace ApiAdmission.CommandLine

set_option autoImplicit false

/-- An option without a value. -/
inductive Switch where
  | version
  | help
  | json
  | plain
  | noColour
  | quiet
  | verbose
  | noRemote
deriving DecidableEq, Repr

/-- An option. -/
inductive Choice where
  /-- An option without a value. -/
  | switch (switch : Switch)
  /-- The option whose value is an ignore pattern. -/
  | exclude
deriving DecidableEq, Repr

namespace Choice

/-- The option with a long name. -/
def ofLongName? : String → Option Choice
  | "--version" => some (.switch .version)
  | "--help" => some (.switch .help)
  | "--json" => some (.switch .json)
  | "--plain" => some (.switch .plain)
  | "--no-color" => some (.switch .noColour)
  | "--quiet" => some (.switch .quiet)
  | "--verbose" => some (.switch .verbose)
  | "--no-remote-refs" => some (.switch .noRemote)
  | "--exclude" => some .exclude
  | _ => none

/-- The option with a letter. -/
def ofLetter? : Char → Option Choice
  | 'q' => some (.switch .quiet)
  | 'v' => some (.switch .verbose)
  | 'e' => some .exclude
  | _ => none

end Choice

/-- Why a command line means nothing. -/
inductive UsageFault where
  /-- There are no arguments. -/
  | noArguments
  /-- There is no such option. -/
  | unknownOption (option : String)
  /-- An option with a value has none. -/
  | missingValue (option : String)
  /-- A switch has a value. -/
  | unexpectedValue (option : String)
  /-- There is no target. -/
  | missingTarget
  /-- The second argument is no level. -/
  | badLevel (text : String)
  /-- There is a third argument. -/
  | unexpectedArgument (text : String)
deriving DecidableEq, Repr

/-- The message of a usage fault. -/
def UsageFault.message : UsageFault → String
  | .noArguments => "Missing arguments."
  | .unknownOption option => "No such option: " ++ option
  | .missingValue option => "Option '" ++ option ++ "' requires an argument."
  | .unexpectedValue option => "Option '" ++ option ++ "' does not take a value."
  | .missingTarget => "Missing argument 'TARGET'."
  | .badLevel text => "Invalid value for '[LEVEL]': '" ++ text ++ "' is no level from 0 to 2."
  | .unexpectedArgument text => "Got unexpected extra argument (" ++ text ++ ")"

/-! ## Single arguments -/

/-- What one argument says. -/
inductive Item where
  /-- It is no option. -/
  | argument (text : String)
  /-- It gives switches. -/
  | switches (switches : List Switch)
  /-- It gives switches and an ignore pattern. -/
  | excluding (switches : List Switch) (pattern : String)
  /-- It gives switches and an option whose value comes next. -/
  | expecting (switches : List Switch) (option : String)
  /-- It ends the options. -/
  | endOfOptions
deriving DecidableEq, Repr

namespace Item

/-- An item with one more switch. -/
def withSwitch (switch : Switch) : Item → Item
  | .switches others => .switches (switch :: others)
  | .excluding others pattern => .excluding (switch :: others) pattern
  | .expecting others option => .expecting (switch :: others) option
  | item => item

/-- What an option with a long name says, with the value behind its equals sign. -/
def ofLong (name : String) (value : Option String) : Except UsageFault Item :=
  match Choice.ofLongName? name, value with
  | none, _ => .error (.unknownOption name)
  | some (.switch switch), none => .ok (.switches [switch])
  | some (.switch _), some _ => .error (.unexpectedValue name)
  | some .exclude, some value => .ok (.excluding [] value)
  | some .exclude, none => .ok (.expecting [] name)

/-- What letters behind one hyphen say. -/
def ofLetters : List Char → Except UsageFault Item
  | [] => .ok (.switches [])
  | letter :: rest =>
    let name := String.ofList ['-', letter]
    match Choice.ofLetter? letter with
    | none => .error (.unknownOption name)
    | some (.switch switch) => (ofLetters rest).map (withSwitch switch)
    | some .exclude =>
      .ok (if rest.isEmpty then .expecting [] name else .excluding [] (String.ofList rest))

/-- What an argument says. -/
def ofArgument (text : String) : Except UsageFault Item :=
  match text.toList with
  | ['-', '-'] => .ok .endOfOptions
  | '-' :: '-' :: _ =>
    let (name, value) := Text.cutAt '=' text.toList
    ofLong (String.ofList name) (value.map String.ofList)
  | '-' :: letter :: letters => ofLetters (letter :: letters)
  | _ => .ok (.argument text)

end Item

/-! ## All arguments -/

/-- What all arguments say. -/
structure Given where
  /-- The switches, in order. -/
  switches : List Switch
  /-- The ignore patterns, in order. -/
  excluded : List String
  /-- The arguments that are no options, in order. -/
  arguments : List String
deriving DecidableEq, Repr

namespace Given

/-- Nothing. -/
def nothing : Given := ⟨[], [], []⟩

/-- Puts switches in front. -/
def withSwitches (switches : List Switch) (given : Given) : Given :=
  { given with switches := switches ++ given.switches }

/-- Puts an ignore pattern in front. -/
def withPattern (pattern : String) (given : Given) : Given :=
  { given with excluded := pattern :: given.excluded }

/-- Puts an argument in front. -/
def withArgument (text : String) (given : Given) : Given :=
  { given with arguments := text :: given.arguments }

/-- What arguments say, where the value of an option may be expected first. -/
def read : Option String → List String → Except UsageFault Given
  | none, [] => .ok nothing
  | some option, [] => .error (.missingValue option)
  | some _, value :: rest => (read none rest).map (withPattern value)
  | none, text :: rest => do
    match ← Item.ofArgument text with
    | .argument text => return withArgument text (← read none rest)
    | .switches switches => return withSwitches switches (← read none rest)
    | .excluding switches pattern =>
      return withSwitches switches (withPattern pattern (← read none rest))
    | .expecting switches option => return withSwitches switches (← read (some option) rest)
    | .endOfOptions => return { nothing with arguments := rest }

/-- Whether a switch is given. -/
def has (given : Given) (switch : Switch) : Bool := given.switches.contains switch

end Given

/-! ## Tasks -/

/-- What a check is asked to do. -/
structure Check where
  /-- What names the documents. -/
  target : String
  /-- The level, if one is said. -/
  level : Option Level
  /-- What else is said. -/
  given : Given
deriving DecidableEq, Repr

/-- What the program is asked to do. -/
inductive Task where
  /-- To tell its version. -/
  | version
  /-- To tell how it is used. -/
  | help
  /-- To check documents. -/
  | check (check : Check)
deriving DecidableEq, Repr

/-- The level whose number an argument is. -/
def levelOf (text : String) : Except UsageFault Level :=
  match (Number.integer? text).bind Level.ofNumber? with
  | some level => .ok level
  | none => .error (.badLevel text)

/-- The check that is asked for. -/
def Check.ofGiven (given : Given) : Except UsageFault Check :=
  match given.arguments with
  | [] => .error .missingTarget
  | [target] => .ok ⟨target, none, given⟩
  | [target, level] => do return ⟨target, some (← levelOf level), given⟩
  | _ :: _ :: extra :: _ => .error (.unexpectedArgument extra)

/-- The task that arguments set; telling something comes before any check. -/
def Task.ofArguments (arguments : List String) : Except UsageFault Task := do
  if arguments.isEmpty then throw .noArguments
  let given ← Given.read none arguments
  match given.switches.find? fun switch => switch == .version || switch == .help with
  | some .version => return .version
  | some _ => return .help
  | none => return .check (← Check.ofGiven given)

end ApiAdmission.CommandLine
