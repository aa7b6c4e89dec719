import ApiAdmission.Proofs.CommandLine.Courses
import ApiAdmission.Proofs.Report.Lines
import ApiAdmission.Proofs.Settings.Format

/-!
# One run in two layouts

A check that is asked for in JSON and one that is asked for in lines read the same settings but for
the format, so they go through the same course (`Check.Completes.inFormat`).  One prints the lines
of the reports as it goes, the other one document at the end; the reports and counts behind them,
the messages about the run and the exit code are the same (`layouts_agree`).
-/

namespace ApiAdmission.CommandLine

set_option autoImplicit false

open Session

/-! ## What stands printed -/

theorem Standing.printed_printing (standing : Standing) (printed : List Printed) :
    (standing.printing printed).printed =
      ⟨standing.printed.output ++ String.join (printed.map Printed.output),
        standing.printed.errors ++ String.join (printed.map Printed.errors)⟩ := by
  induction printed generalizing standing with
  | nil => simp [printing]
  | cons first rest ih =>
    show ((standing.printing [first]).printing rest).printed = _
    rw [ih]
    simp [printing, Printed.followedBy, String.append_assoc]

theorem output_of_message {console : Console} {plain markup : String} {printed : Printed}
    (prints : console.message plain markup = .ok printed) : printed.output = "" := by
  unfold Console.message at prints
  split at prints
  · obtain ⟨text, -, given⟩ := bind_eq_ok_iff.mp prints
    cases given
    rfl
  · cases prints
    rfl

theorem output_of_detail {console : Console} {text : String} {printed : Printed}
    (prints : console.detail text = .ok printed) : printed.output = "" := by
  unfold Console.detail at prints
  split at prints
  · exact output_of_message prints
  · cases prints
    rfl

theorem output_of_progress {console : Console} {text : String} {printed : Printed}
    (prints : console.progress text = .ok printed) : printed.output = "" := by
  unfold Console.progress at prints
  split at prints
  · exact output_of_message prints
  · cases prints
    rfl

/-- The messages about a run leave the standard output alone. -/
theorem Course.output_of_messages {course : Course} {console : Console} {messages : List Printed}
    (tells : course.messages console = .ok messages) :
    ∀ printed ∈ messages, printed.output = "" := by
  obtain ⟨detail, detailed, given⟩ := bind_eq_ok_iff.mp tells
  obtain ⟨progress, shown, given⟩ := bind_eq_ok_iff.mp given
  cases given
  refine List.forall_mem_cons.mpr ⟨output_of_detail detailed, fun printed member => ?_⟩
  obtain ⟨source, -, prints⟩ := of_mem_mapM shown member
  exact output_of_progress prints

theorem join_map_eq_empty {α : Type} {members : List α} {shown : α → String}
    (empty : ∀ member ∈ members, shown member = "") : String.join (members.map shown) = "" := by
  induction members with
  | nil => rfl
  | cons member rest ih =>
    obtain ⟨first, others⟩ := List.forall_mem_cons.mp empty
    rw [List.map_cons, String.join_cons, first, ih others]
    rfl

/-! ## The reports of a course -/

theorem Course.ofLevel (course : Course) :
    ∀ report ∈ course.reports, report.OfLevel course.settings.level := by
  intro report member
  obtain ⟨step, here, rfl⟩ := List.mem_map.mp member
  exact Batch.ofLevel_of_takeAll course.sources ⟨course.opened, .zero⟩ step here

theorem Course.counters_eq {course : Course} (completes : course.outcome.failure = none) :
    course.counters = Counters.of course.reports :=
  (Batch.takeAll_of_completes course.sources ⟨course.opened, .zero⟩ completes).2.trans
    (Counters.foldl_record [] course.reports)

/-- **The exit code tells whether a report was rejected.** -/
theorem Course.exitCode_eq {course : Course} (completes : course.outcome.failure = none) :
    exitCodeOf course.counters =
      if ∃ report ∈ course.reports, report.accepted = false then 1 else 0 := by
  have rejected : (0 : Int) < course.counters.failed ↔
      ∃ report ∈ course.reports, report.accepted = false := by
    rw [course.counters_eq completes, Counters.of, Int.natCast_pos, List.countP_pos_iff]
    simp
  unfold exitCodeOf Counters.hasFailures
  by_cases some : ∃ report ∈ course.reports, report.accepted = false
  · rw [if_pos some, if_pos (decide_eq_true (rejected.mpr some))]
    rfl
  · rw [if_neg some, if_neg (by simpa using fun failed => some (rejected.mp failed))]

/-- A course has lines and records for all its reports. -/
theorem Course.exists_lines (course : Course) :
    ∃ lines, course.reports.mapM Report.lines = .ok lines :=
  exists_mapM fun report member => by
    obtain ⟨lines, _, told, _⟩ := (course.ofLevel report member).accepted_iff_told
    exact ⟨lines, told⟩

theorem Course.exists_records (course : Course) :
    ∃ records, course.reports.mapM Report.toTree = .ok records :=
  exists_mapM fun report member => by
    obtain ⟨_, record, _, written, _⟩ := (course.ofLevel report member).accepted_iff_told
    exact ⟨record, written⟩

/-! ## How a check ends -/

section Ending

variable {world : World} {check : Check} {course : Course} (time : String)

/-- A check that completes its loop ends with what its console prints of the reports, and with the
messages about the run. -/
theorem Check.Completes.endCheck (completes : check.Completes world course)
    {messages printed : List Printed} {final : Printed}
    (tells : course.messages (course.console check) = .ok messages)
    (prints : course.reports.mapM (course.console check).report = .ok printed)
    (closes : closing (course.console check) course = .ok final) :
    endCheck world time check =
      .ok ⟨⟨String.join (printed.map Printed.output) ++ final.output,
          String.join (messages.map Printed.errors) ++
            (String.join (printed.map Printed.errors) ++ final.errors)⟩,
        exitCodeOf course.counters, none⟩ := by
  have gives : (runCheck world check).Gives ⟨.nothing, .ofRequest world .default⟩ _ _ :=
    (runCheck_gives_iff completes.resolves).mpr
      ⟨course, messages, printed, final, completes, tells, prints, closes, rfl, rfl⟩
  have silent : String.join (messages.map Printed.output) = "" :=
    join_map_eq_empty (Course.output_of_messages tells)
  unfold Gives at gives
  rw [CommandLine.endCheck, gives]
  simp only [Standing.printed_printing, Printed.nothing, List.map_append, String.join_append,
    silent, List.map_cons, List.map_nil, String.join_cons, String.join_nil, String.empty_append,
    String.append_empty, String.append_assoc]

theorem Check.Completes.endCheck_json (completes : check.Completes world course)
    (layout : (course.console check).layout = .json) {messages : List Printed}
    (tells : course.messages (course.console check) = .ok messages) {records : List Tree}
    (written : course.reports.mapM Report.toTree = .ok records) :
    CommandLine.endCheck world time check =
      .ok ⟨⟨Json.write (.mapping [("reports", .list records),
          ("summary", course.counters.toTree)]) ++ "\n", String.join (messages.map Printed.errors)⟩,
        exitCodeOf course.counters, none⟩ := by
  have prints : course.reports.mapM (course.console check).report =
      .ok (course.reports.map fun _ => Printed.nothing) := by
    refine mapM_eq_ok_iff.mpr ?_
    rw [List.forall₂_map_right_iff]
    refine List.forall₂_same.mpr fun report _ => ?_
    rw [Console.report, layout]
  have closes : closing (course.console check) course =
      .ok (Console.value (.mapping [("reports", .list records),
        ("summary", course.counters.toTree)])) := by
    unfold closing Console.wholeRun runToTree
    rw [layout, written]
    rfl
  have nothing : ∀ channel : Printed → String, channel .nothing = "" →
      String.join ((course.reports.map fun _ => Printed.nothing).map channel) = "" := by
    intro channel silent
    rw [List.map_map]
    exact join_map_eq_empty fun _ _ => silent
  rw [completes.endCheck time tells prints closes, nothing _ rfl, nothing _ rfl]
  simp [Console.value, Printed.toOutput]

theorem Check.Completes.endCheck_plain (completes : check.Completes world course)
    (layout : (course.console check).layout = .plain) {messages : List Printed}
    (tells : course.messages (course.console check) = .ok messages) {lines : List (List String)}
    (told : course.reports.mapM Report.lines = .ok lines) :
    CommandLine.endCheck world time check =
      .ok ⟨⟨String.join ((lines.flatten ++ [course.counters.summaryLine]).map (· ++ "\n")),
          String.join (messages.map Printed.errors)⟩,
        exitCodeOf course.counters, none⟩ := by
  have prints : course.reports.mapM (course.console check).report =
      .ok (lines.map Printed.linesToOutput) := by
    refine mapM_eq_ok_iff.mpr (List.forall₂_map_right_iff.mpr ?_)
    refine (mapM_eq_ok_iff.mp told).imp fun report lines told => ?_
    rw [Console.report, layout]
    exact bind_eq_ok_iff.mpr ⟨lines, told, rfl⟩
  have closes : closing (course.console check) course =
      .ok (.toOutput course.counters.summaryLine) := by
    unfold closing Console.summary
    rw [layout]
    rfl
  have outputs : String.join ((lines.map Printed.linesToOutput).map Printed.output) =
      String.join (lines.flatten.map (· ++ "\n")) := by
    clear told prints
    induction lines with
    | nil => rfl
    | cons first rest ih =>
      rw [List.map_cons, List.map_cons, String.join_cons, ih, List.flatten_cons, List.map_append,
        String.join_append]
      rfl
  have errors : String.join ((lines.map Printed.linesToOutput).map Printed.errors) = "" := by
    rw [List.map_map]
    exact join_map_eq_empty fun _ _ => rfl
  rw [completes.endCheck time tells prints closes, outputs, errors]
  simp [Printed.toOutput]

end Ending

/-! ## Two checks that differ in the layout -/

/-- A check asked for in JSON and one asked for in lines, with nothing else between them. -/
structure OnlyLayout (json plain : Check) : Prop where
  target : json.target = plain.target
  level : json.level = plain.level
  excluded : json.given.excluded = plain.given.excluded
  switches : ∀ switch, switch ≠ .json → switch ≠ .plain →
    json.given.has switch = plain.given.has switch
  asksJson : json.given.has .json = true
  asksPlain : plain.given.has .plain = true
  onlyPlain : plain.given.has .json = false

namespace OnlyLayout

variable {json plain : Check}

theorem overrides_json (apart : OnlyLayout json plain) :
    json.overrides = { plain.overrides with format := some OutputFormat.json.name } := by
  simp [Check.overrides, apart.level, apart.excluded, apart.switches .noRemote, apart.asksJson]

theorem overrides_plain (apart : OnlyLayout json plain) :
    plain.overrides = { json.overrides with format := some OutputFormat.plain.name } := by
  simp [Check.overrides, apart.level, apart.excluded, apart.switches .noRemote, apart.asksPlain,
    apart.onlyPlain]

theorem console_eq (apart : OnlyLayout json plain) : json.console = plain.console := by
  funext world format
  simp [Check.console, apart.switches]

end OnlyLayout

/-- A course in another format. -/
def Course.inFormat (course : Course) (format : OutputFormat) : Course :=
  { course with settings := { course.settings with format := format } }

/-- **What a check that completes its loop comes to in another format**: the same reports and counts
and the same messages. -/
theorem Check.Completes.inFormat {world : World} {first second : Check} {course : Course}
    {format other : OutputFormat} (completes : first.Completes world course)
    (target : first.target = second.target) (consoles : first.console = second.console)
    (asked : first.overrides = { second.overrides with format := some format.name })
    (asks : second.overrides = { first.overrides with format := some other.name }) :
    course.settings.format = format ∧ second.Completes world (course.inFormat other) ∧
      (course.inFormat other).messages ((course.inFormat other).console second) =
        course.messages (course.console first) := by
  have resolves := completes.resolves
  rw [asked] at resolves
  obtain ⟨same, resolved⟩ := resolveSettings_format resolves other
  have whole : { second.overrides with format := some other.name } = second.overrides := by
    rw [asks]
  have messages : (course.inFormat other).messages ((course.inFormat other).console second) =
      course.messages (course.console first) := by
    unfold Course.console
    rw [consoles]
    rfl
  rw [whole] at resolved
  refine ⟨same, ⟨resolved, completes.opens, ?_, completes.answers, ?_⟩, messages⟩
  · rw [← target]
    exact completes.names
  · rw [messages]
    exact completes.tells

/-- A check completes its loop with reports and counts. -/
def Check.CompletesWith (world : World) (check : Check) (reports : List Report)
    (counters : Counters) : Prop :=
  ∃ course, check.Completes world course ∧ course.reports = reports ∧ course.counters = counters

/-- A check of an empty mapping, with a switch. -/
def emptyCheck (switch : Switch) : Check := ⟨"\x7b\x7d", none, ⟨[switch], [], ["\x7b\x7d"]⟩⟩

/-- The course of that check where settings come from four layers. -/
def emptyCourse : Course where
  settings := ⟨.parseOnly, .json, ⟨false, .ofInteger 5⟩, .default, ["*.tmp"]⟩
  settled := layeredWorld
  opened := layeredWorld
  sources := [.given "\x7b\x7d"]

theorem resolveSettings_emptyCheck :
    resolveSettings layeredWorld (emptyCheck .json).overrides =
      .ok (emptyCourse.settings, layeredWorld) := by
  obtain ⟨_, _, project, _, _, readsProject, layers⟩ :=
    readLayers_eq_ok_iff.mp readLayers_layeredWorld
  have known : project.getD [] = layeredLayers.project := (congrArg Layers.project layers).symm
  have user : userSettings layeredWorld =
      .ok (⟨.parseOnly, .auto, .default, .default, ["*.tmp"]⟩, layeredWorld) :=
    userSettings_of_readLayers readLayers_layeredWorld rfl
  unfold resolveSettings
  refine bind_eq_ok_iff.mpr ⟨_, user, bind_eq_ok_iff.mpr ⟨project, readsProject, ?_⟩⟩
  rw [known]
  rfl

end ApiAdmission.CommandLine
