import ApiAdmission.Proofs.CommandLine.Layouts
import ApiAdmission.Proofs.Console.Styles
import ApiAdmission.Proofs.Settings.Faults

/-!
# Messages about errors

An error goes to the standard error behind a heading.  Where colours are switched off it is printed
as it stands.  Where they are not, it is read as markup, and unlike details and progress it is not
escaped before: it is told as it is exactly if it is verbatim (`Console.error_eq_iff`).

Three parts of a run tell errors: a check whose settings are refused, the end of a run that fails,
and the end of one that breaks down.  An error prints nothing to the standard output, and the exit
code does not depend on its message.  But the run tells what has gone wrong, and nothing else, only
if colours are switched off or the message is verbatim (`errors_are_told_iff`).  Otherwise the
message reads differently, or printing it breaks down in turn, and then the run can end with nothing
said at all (`error_handler_breaks_down`).
-/

namespace ApiAdmission

set_option autoImplicit false

open Markup

/-! ## One message -/

namespace Printed

theorem toErrors_inj {first second : String} :
    toErrors first = toErrors second ↔ first = second := by
  simp [toErrors]

/-- What has been printed before hides nothing of what is printed then. -/
theorem followedBy_inj {printed first second : Printed} :
    printed.followedBy first = printed.followedBy second ↔ first = second := by
  cases first
  cases second
  simp [followedBy]

theorem nothing_followedBy (printed : Printed) : nothing.followedBy printed = printed := by
  simp [followedBy, nothing]

end Printed

/-- A closing tag breaks down where none is open. -/
theorem showFrom_closing_first {name rest : List Char} (noBracket : '[' ∉ name)
    (noClosing : ']' ∉ name) :
    showFrom [] 0 ('[' :: '/' :: (name ++ ']' :: rest)) = .error .strayTag := by
  have tag : tagContent? ('/' :: (name ++ ']' :: rest)) = some ('/' :: name) := by
    rw [tagContent?, if_pos (by decide), untilClosing?_append_closing noBracket noClosing]
    rfl
  have stray : follow [] ('/' :: name) = .error .strayTag := by
    have slashed : tagName ('/' :: name) = '/' :: (Text.cutAt '=' name).1 := rfl
    unfold follow
    rw [slashed]
    simp [closeStyle?]
  rw [showFrom_evenTag tag rfl, stray]
  rfl

/-- The heading of an error is shown without its tags, and the message behind it on its own. -/
theorem showFrom_heading (text : String) :
    showFrom [] 0 (styled "bold red" "Error:" ++ " " ++ text).toList =
      (showFrom [] 0 text.toList).map ("Error: ".toList ++ ·) := by
  have named : IsStyleName "bold red" := Verdict.invalid.isStyleName
  rw [String.toList_append, String.toList_append, List.append_assoc,
    showFrom_styled_unread named (by decide), showFrom_append (by decide), map_map]
  rfl

theorem render_heading_iff (text : String) :
    render (styled "bold red" "Error:" ++ " " ++ text) = .ok ("Error: " ++ text) ↔
      Verbatim text := by
  have heading : Steady "Error: ".toList := by decide
  rw [render_eq, showFrom_heading, map_map, map_eq_ok_iff, Verbatim, ← showFrom_eq_self_iff]
  constructor
  · rintro ⟨shown, shows, same⟩
    have settled : settle ("Error: ".toList ++ shown) = "Error: ".toList ++ text.toList :=
      String.toList_ofList.symm.trans ((congrArg String.toList same).trans String.toList_append)
    -- What reaches the terminal is steady, so the message is, and nothing has been settled.
    have steady : Steady text.toList := by
      have whole := steady_settle ("Error: ".toList ++ shown)
      rw [settled] at whole
      exact (steady_append.mp whole).2
    rw [settle_of_steady (steady_append.mpr ⟨heading, steady.of_showFrom shows⟩)] at settled
    rw [List.append_cancel_left settled] at shows
    exact ⟨steady, shows⟩
  · rintro ⟨steady, shows⟩
    refine ⟨text.toList, shows, ?_⟩
    rw [settle_of_steady (steady_append.mpr ⟨heading, steady⟩), ← String.toList_append,
      String.ofList_toList]

namespace Console

variable {console : Console} {text : String}

/-- **When an error is told as it is.** -/
theorem error_eq_iff :
    console.error text = .ok (.toErrors ("Error: " ++ text)) ↔
      console.coloured = false ∨ Verbatim text := by
  unfold error message
  cases console.coloured with
  | false => simp
  | true =>
    rw [if_pos rfl, bind_eq_ok_iff, ← render_heading_iff]
    simp [pure, Except.pure, Printed.toErrors_inj]

/-- A message whose first tag is a closing one breaks down, whatever the tag names. -/
theorem error_of_closing (isColoured : console.coloured = true) (before name after : String)
    (unread : Unread before.toList)
    (noInner : '[' ∉ name.toList) (noClosing : ']' ∉ name.toList) :
    console.error (before ++ "[/" ++ name ++ "]" ++ after) = .error .strayTag := by
  have parts : (before ++ "[/" ++ name ++ "]" ++ after).toList =
      before.toList ++ '[' :: '/' :: (name.toList ++ ']' :: after.toList) := by
    simp
  have shows : showFrom [] 0 (before ++ "[/" ++ name ++ "]" ++ after).toList =
      .error .strayTag := by
    rw [parts, showFrom_append unread, showFrom_closing_first noInner noClosing]
    rfl
  unfold error message
  rw [if_pos isColoured, render_eq, showFrom_heading, shows]
  rfl

theorem coloured_ofRequest_iff {world : World} {request : ConsoleRequest} :
    (ofRequest world request).coloured = false ↔
      request.noColour = true ∨ world.forbidsColour = true := by
  simp [ofRequest, or_iff_not_imp_left]

end Console

namespace CommandLine

variable {world : World} {time text : String} {check : Check} {ending : Ending}

theorem output_of_error {console : Console} {printed : Printed}
    (prints : console.error text = .ok printed) : printed.output = "" :=
  output_of_message prints

/-! ## The end of a run that fails -/

/-- What a run that fails has to say at its end. -/
structure LastWords where
  /-- The message. -/
  text : String
  /-- The exit code. -/
  exitCode : Int
  /-- The log that it leaves. -/
  log : Option Log

/-- The last words of a run that fails at a time; finding them can break down. -/
def lastWords (world : World) (time : String) (failure : Failure) : Except Breakdown LastWords :=
  match faultOf failure with
  | .ok fault => .ok ⟨fault.message, fault.exitCode, none⟩
  | .error breakdown => do
    let path ← logPath world time
    return ⟨breakdownMessage path, failureExit,
      some ⟨path, breakdown.message?.getD "The run has broken down."⟩⟩

/-- A run that fails tells its last words as an error. -/
theorem endFailing_eq (standing : Standing) (failure : Failure) :
    endFailing world time standing failure = lastWords world time failure >>= fun last =>
      standing.console.error last.text >>= fun printed =>
        .ok ⟨standing.printed.followedBy printed, last.exitCode, last.log⟩ := by
  unfold endFailing lastWords
  cases faultOf failure with
  | ok fault => rfl
  | error breakdown => cases logPath world time <;> rfl

section Failing

variable {standing : Standing} {failure : Failure} {last : LastWords}

theorem endFailing_eq_iff (known : lastWords world time failure = .ok last) :
    endFailing world time standing failure = .ok ending ↔
      ∃ printed, standing.console.error last.text = .ok printed ∧
        ⟨standing.printed.followedBy printed, last.exitCode, last.log⟩ = ending := by
  rw [endFailing_eq, known]
  show (standing.console.error last.text >>= _) = _ ↔ _
  simp only [bind_eq_ok_iff, Except.ok.injEq]

/-- **A run that fails tells its last words** where colours are switched off or they are
verbatim. -/
theorem endFailing_tells_iff (known : lastWords world time failure = .ok last) :
    endFailing world time standing failure =
        .ok ⟨standing.printed.followedBy (.toErrors ("Error: " ++ last.text)), last.exitCode,
          last.log⟩ ↔
      standing.console.coloured = false ∨ Verbatim last.text := by
  rw [endFailing_eq_iff known, ← Console.error_eq_iff]
  constructor
  · rintro ⟨printed, prints, same⟩
    rw [prints, Printed.followedBy_inj.mp (Ending.mk.inj same).1]
  · intro prints
    exact ⟨_, prints, rfl⟩

theorem of_endFailing (known : lastWords world time failure = .ok last)
    (ends : endFailing world time standing failure = .ok ending) :
    ending.printed.output = standing.printed.output ∧ ending.exitCode = last.exitCode ∧
      ending.log = last.log := by
  obtain ⟨printed, prints, rfl⟩ := (endFailing_eq_iff known).mp ends
  refine ⟨?_, rfl, rfl⟩
  show standing.printed.output ++ printed.output = _
  rw [output_of_error prints, String.append_empty]

/-- A breakdown ends with the exit code of a run that fails, and leaves a log. -/
theorem of_endFailing_breakdown {breakdown : Breakdown}
    (ends : endFailing world time standing (.breakdown breakdown) = .ok ending) :
    ending.printed.output = standing.printed.output ∧ ending.exitCode = failureExit ∧
      ending.log ≠ none := by
  obtain ⟨last, known, -⟩ := bind_eq_ok_iff.mp (endFailing_eq standing _ ▸ ends)
  obtain ⟨silent, code, log⟩ := of_endFailing known ends
  obtain ⟨path, -, given⟩ := bind_eq_ok_iff.mp known
  cases given
  exact ⟨silent, code, by simp [log]⟩

end Failing

/-! ## Refused settings -/

/-- How a session ends that begins a run at a time. -/
def endSession (world : World) (time : String) (session : Session Int) : Except Breakdown Ending :=
  let (outcome, standing) := session.run.run ⟨.nothing, .ofRequest world .default⟩
  match outcome with
  | .ok exitCode => .ok ⟨standing.printed, exitCode, none⟩
  | .error failure => endFailing world time standing failure

theorem Check.coloured_console_iff {format : OutputFormat} :
    (check.console world format).coloured = false ↔
      check.given.has .noColour = true ∨ world.forbidsColour = true :=
  Console.coloured_ofRequest_iff

/-- What a check does whose settings are refused with a message.  It is any text: about fields there
is more to say than the first line, which is the message of the fault. -/
def Check.refuse (check : Check) (world : World) (text : String) : Session Int := do
  let console := check.console world .auto
  Session.useConsole console
  let fault := Fault.of .settings text none
  Session.printChecked (console.error text)
  return fault.exitCode

/-- A run whose settings are refused does nothing else. -/
theorem run_of_refused {arguments : List String} {fault : SettingsFault}
    (asks : Task.ofArguments arguments = .ok (.check check))
    (refuses : resolveSettings world check.overrides = .error fault)
    (foreseen : ∀ cause, fault ≠ .breakdown cause) :
    run world time arguments = endSession world time (check.refuse world fault.message) := by
  have refused : runCheck world check = check.refuse world fault.message := by
    unfold runCheck
    rw [refuses]
    cases fault with
    | breakdown cause => exact absurd rfl (foreseen cause)
    | _ => rfl
  unfold run
  rw [asks, ← refused]
  rfl

theorem endSession_refuse :
    endSession world time (check.refuse world text) =
      match (check.console world .auto).error text with
      | .ok printed => .ok ⟨printed, failureExit, none⟩
      | .error breakdown =>
        endFailing world time ⟨.nothing, check.console world .auto⟩ (.breakdown breakdown) := by
  have runs : (check.refuse world text).run.run ⟨.nothing, .ofRequest world .default⟩ =
      match (check.console world .auto).error text with
      | .ok printed =>
        (.ok ↑failureExit, ⟨Printed.nothing.followedBy printed, check.console world .auto⟩)
      | .error breakdown =>
        (.error (.breakdown breakdown), ⟨.nothing, check.console world .auto⟩) := by
    unfold Check.refuse Session.printChecked
    dsimp only
    cases (check.console world .auto).error text <;> rfl
  unfold endSession
  rw [runs]
  cases (check.console world .auto).error text with
  | error breakdown => rfl
  | ok printed =>
    rw [← Printed.nothing_followedBy printed]
    rfl

/-- **A check tells why its settings are refused** where colours are switched off or the message is
verbatim. -/
theorem refuse_tells_iff :
    endSession world time (check.refuse world text) =
        .ok ⟨.toErrors ("Error: " ++ text), failureExit, none⟩ ↔
      (check.console world .auto).coloured = false ∨ Verbatim text := by
  rw [endSession_refuse, ← Console.error_eq_iff]
  cases (check.console world .auto).error text with
  | ok printed => simp
  | error breakdown =>
    refine iff_of_false (fun ends => ?_) nofun
    exact (of_endFailing_breakdown ends).2.2 rfl

theorem of_refuse (ends : endSession world time (check.refuse world text) = .ok ending) :
    ending.printed.output = "" ∧ ending.exitCode = failureExit := by
  rw [endSession_refuse] at ends
  split at ends
  case h_1 printed prints =>
    cases ends
    exact ⟨output_of_error prints, rfl⟩
  case h_2 =>
    obtain ⟨silent, code, -⟩ := of_endFailing_breakdown ends
    exact ⟨silent, code⟩

/-! ## The parts of a run -/

/-- The names of a home directory that has a closing tag in its path. -/
def lostHome : List String := ["lost[", "x]"]

/-- The files of a user with that home, who has a list where settings should be. -/
def lostFiles : FileSystem where
  root := .directory [("lost[", .directory [("x]", .directory [
    (".config", .directory [("oasgate", .directory [("config.json", .file (asciiBytes "[]"))])]),
    (".local", .directory [("share", .directory [("oasgate", .directory [
      ("logs", .directory [])])])])])])]
  workingDirectory := []

/-- A world where that user says nothing about colours. -/
def lostWorld : World where
  files := lostFiles
  environment := [("HOME", "/lost[/x]")]
  network := []
  standardInput := ""
  terminal := false
  systemName := "Linux"
  homes := []

/-- A check of an empty mapping, with switches. -/
def bareCheck (switches : List Switch) : Check :=
  ⟨"\x7b\x7d", none, ⟨switches, [], ["\x7b\x7d"]⟩⟩

theorem resolveSettings_lostWorld :
    resolveSettings lostWorld ⟨none, none, none, []⟩ =
      .error (.noMapping .user "/lost[/x]/.config/oasgate/config.json") := by
  have directory : lostFiles.Leads ⟨"/", lostHome ++ [".config", "oasgate"]⟩
      (.directory [("config.json", .file (asciiBytes "[]"))]) :=
    ⟨by decide, by decide, by decide, nofun, rfl⟩
  have makes := directory.makeDirectories rfl (by decide) (by decide)
  have opens : lostWorld.openDirectory .settings =
      .ok (⟨"/", lostHome ++ [".config", "oasgate"]⟩, lostWorld) := by
    unfold World.openDirectory
    exact bind_eq_ok_iff.mpr ⟨_, rfl, bind_eq_ok_iff.mpr ⟨_, makes, rfl⟩⟩
  have file : lostFiles.Leads ⟨"/", lostHome ++ [".config", "oasgate", "config.json"]⟩
      (.file (asciiBytes "[]")) := ⟨by decide, by decide, by decide, nofun, rfl⟩
  have present : lostFiles.isFile ⟨"/", lostHome ++ [".config", "oasgate", "config.json"]⟩ =
      .ok true := file.satisfies Entry.isFile
  have decodes : Utf8.decode (asciiBytes "[]") = .ok "[]".toList := rfl
  have reads : readSettingsFile lostWorld .user
      ⟨"/", lostHome ++ [".config", "oasgate", "config.json"]⟩ =
      .error (.noMapping .user "/lost[/x]/.config/oasgate/config.json") := by
    unfold readSettingsFile
    refine bind_eq_error_iff.mpr (.inr ⟨true, mapError_eq_ok_iff.mpr present, ?_⟩)
    simp only [lostWorld, file.readText decodes, Bool.not_true, Bool.false_eq_true, if_false]
    rfl
  have user : userSettings lostWorld =
      .error (.noMapping .user "/lost[/x]/.config/oasgate/config.json") := by
    unfold userSettings
    exact bind_eq_error_iff.mpr
      (.inr ⟨_, mapError_eq_ok_iff.mpr opens, bind_eq_error_iff.mpr (.inl reads)⟩)
  unfold resolveSettings
  exact bind_eq_error_iff.mpr (.inl user)

theorem logPath_lostWorld :
    logPath lostWorld "now" =
      .ok ⟨"/", lostHome ++ [".local", "share", "oasgate", "logs", "crash-now.log"]⟩ := by
  have directory : lostFiles.Leads ⟨"/", lostHome ++ [".local", "share", "oasgate"]⟩
      (.directory [("logs", .directory [])]) := ⟨by decide, by decide, by decide, nofun, rfl⟩
  have logs : lostFiles.Leads ⟨"/", lostHome ++ [".local", "share", "oasgate", "logs"]⟩
      (.directory []) := ⟨by decide, by decide, by decide, nofun, rfl⟩
  have makes := directory.makeDirectories rfl (by decide) (by decide)
  have makesLogs := logs.makeDirectories rfl (by decide) (by decide)
  have opens : lostWorld.openDirectory .logs =
      .ok (⟨"/", lostHome ++ [".local", "share", "oasgate"]⟩, lostWorld) := by
    unfold World.openDirectory
    exact bind_eq_ok_iff.mpr ⟨_, rfl, bind_eq_ok_iff.mpr ⟨_, makes, rfl⟩⟩
  unfold logPath
  exact bind_eq_ok_iff.mpr ⟨_, opens, bind_eq_ok_iff.mpr ⟨_, makesLogs, rfl⟩⟩

end CommandLine

end ApiAdmission
