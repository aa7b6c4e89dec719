import ApiAdmission.Proofs.Console.Styles

/-!
# Reports in markup and in plain text

The rich layout prints the lines of a report as markup, in which titles, paths and messages are
escaped.  Printing never breaks down, unless the plain layout does so too, and what is shown are the
lines of the plain layout, the source without its label, exactly if all these texts come through
unspoiled (`rich_agrees_iff`): they are steady, each of their brackets behind a backslash begins a
tag, a source ends with at most one backslash, and a message does not end with exactly one.

Lines are compared from the first on (`Tells`): each is shown unspoiled, or what is shown departs
from it before it ends, and then nothing that follows makes up for it.
-/

namespace ApiAdmission

set_option autoImplicit false

open Markup

variable {style : String} {markups lines others more : List String} {right also : Prop}
  {shown : List Char}

/-! ## Line for line -/

/-- The characters of lines, each with its end. -/
def written (lines : List String) : List Char := lines.flatMap fun line => line.toList ++ ['\n']

theorem written_append_lines (lines more : List String) :
    written (lines ++ more) = written lines ++ written more :=
  List.flatMap_append

theorem toList_linesToOutput (lines : List String) :
    (Printed.linesToOutput lines).output.toList = written lines := by
  induction lines with
  | nil => rfl
  | cons line rest ih =>
    simp only [Printed.linesToOutput] at ih
    simp [Printed.linesToOutput, written, ih]

/-- Pieces of markup show lines, each one its own, exactly on a condition.  Where the condition
fails, what is shown departs from the lines before they end. -/
def Tells (markups lines : List String) (right : Prop) : Prop :=
  ∃ shown, markups.mapM render = .ok shown ∧ shown.length = lines.length ∧
    Steady (written shown) ∧ (right → shown = lines) ∧
    ∀ after behind, Steady after → written shown ++ after = written lines ++ behind →
      right ∧ after = behind

namespace Tells

theorem nil : Tells [] [] True :=
  ⟨[], rfl, rfl, nofun, fun _ => rfl, fun _ _ _ same => ⟨trivial, same⟩⟩

theorem append (first : Tells markups lines right) (second : Tells others more also) :
    Tells (markups ++ others) (lines ++ more) (right ∧ also) := by
  obtain ⟨shown, shows, length, steady, exact, departs⟩ := first
  obtain ⟨shownMore, showsMore, lengthMore, steadyMore, exactMore, departsMore⟩ := second
  refine ⟨shown ++ shownMore, ?_, by simp [length, lengthMore], ?_, ?_, ?_⟩
  · exact mapM_eq_ok_iff.mpr
      (List.rel_append (mapM_eq_ok_iff.mp shows) (mapM_eq_ok_iff.mp showsMore))
  · rw [written_append_lines]
    exact steady_append.mpr ⟨steady, steadyMore⟩
  · rintro ⟨here, there⟩
    rw [exact here, exactMore there]
  · intro after behind still same
    rw [written_append_lines, written_append_lines, List.append_assoc, List.append_assoc] at same
    obtain ⟨here, onward⟩ := departs _ _ (steady_append.mpr ⟨steadyMore, still⟩) same
    obtain ⟨there, rest⟩ := departsMore _ _ still onward
    exact ⟨⟨here, there⟩, rest⟩

/-- A line that is told is what its markup shows. -/
theorem shows_line {markup line : String} (tells : Tells [markup] [line] right) (here : right) :
    render markup = .ok line := by
  obtain ⟨shown, shows, -, -, exact, -⟩ := tells
  rw [exact here] at shows
  cases mapM_eq_ok_iff.mp shows with
  | cons shows _ => exact shows

theorem congr (tells : Tells markups lines right) (same : right ↔ also) :
    Tells markups lines also := by
  rwa [propext same] at tells

/-- One line, by what its markup shows before it reaches the terminal. -/
theorem of_showFrom {markup line : String} (shows : showFrom [] 0 markup.toList = .ok shown)
    (keeps : Steady line.toList → Steady shown)
    (agrees : ∀ after behind, shown ++ '\n' :: after = line.toList ++ '\n' :: behind ↔
      right ∧ after = behind) :
    Tells [markup] [line] (Steady line.toList ∧ right) := by
  have exact : right → shown = line.toList := fun here =>
    List.append_cancel_right ((agrees [] []).mpr ⟨here, rfl⟩)
  refine ⟨[String.ofList (settle shown)], ?_, rfl, ?_, ?_, ?_⟩
  · rw [List.mapM_cons, render_eq, shows]
    rfl
  · exact steady_append.mpr ⟨steady_append.mpr ⟨by
      rw [String.toList_ofList]
      exact steady_settle shown, by decide⟩, nofun⟩
  · rintro ⟨steady, here⟩
    rw [settle_of_steady (keeps steady), exact here, String.ofList_toList]
  · intro after behind still same
    simp only [written, List.flatMap_cons, List.flatMap_nil, List.append_nil, List.append_assoc,
      List.singleton_append, String.toList_ofList] at same
    -- What reaches the terminal is steady, so the line that it agrees with is.
    have steady : Steady line.toList := by
      have whole : Steady (settle shown ++ '\n' :: after) :=
        steady_append.mpr ⟨steady_settle shown, steady_cons.mpr ⟨by decide, still⟩⟩
      rw [same] at whole
      exact (steady_append.mp whole).1
    rw [settle_of_steady (keeps steady), agrees] at same
    exact ⟨⟨steady, same.1⟩, same.2⟩

/-- **An escaped text in a style.** -/
theorem of_styled (named : IsStyleName style) (text : String) :
    Tells [styled style (escape text)] [text]
      (Steady text.toList ∧ Guarded text.toList ∧ ¬ ['\\', '\\'] <:+ text.toList) := by
  refine of_showFrom (showFrom_styled_escape named text)
    (fun steady => steady_append.mpr ⟨steady_seenFrom steady, steady_shownClosing named _⟩) ?_
  intro after behind
  have ends : EndsWith (trailing 0 text.toList) text.toList := endsWith_trailing
  have agrees := @seenFrom_append_iff 0 text.toList
    (shownClosing style (trailing 0 text.toList) ++ '\n' :: after) ('\n' :: behind)
  rw [shownClosing_append_iff] at agrees
  rw [List.append_assoc, ends.two_iff, Nat.not_le, and_assoc]
  exact agrees

/-- A harmless text in a style. -/
theorem of_harmless (named : IsStyleName style) {text : String} (harmless : Harmless text.toList) :
    Tells [styled style (escape text)] [text] True :=
  (of_styled named text).congr (iff_of_true ⟨harmless.1, guarded_of_unread harmless.2, fun ends =>
    harmless.2.noBackslash (ends.subset List.mem_cons_self)⟩ trivial)

end Tells

/-! ## Fixed texts -/

theorem of_mem_replaceFrom {pattern replacement text : List Char} {skip : Nat} {c : Char}
    (member : c ∈ Text.replaceFrom pattern replacement skip text) :
    c ∈ replacement ∨ c ∈ text := by
  induction text generalizing skip with
  | nil =>
    cases skip <;> cases member
  | cons first rest ih =>
    cases skip with
    | succ skip => exact (ih member).imp_right (List.mem_cons_of_mem _)
    | zero =>
      rw [Text.replaceFrom] at member
      split at member
      · rcases List.mem_append.mp member with new | old
        · exact .inl new
        · exact (ih old).imp_right (List.mem_cons_of_mem _)
      · rcases List.mem_cons.mp member with rfl | later
        · exact .inr List.mem_cons_self
        · exact (ih later).imp_right (List.mem_cons_of_mem _)

/-- A sentence has no other characters when the label of a family is filled in than it and the label
have. -/
theorem of_mem_fillLabel {family : Family} {sentence : String} {c : Char}
    (member : c ∈ (fillLabel family sentence).toList) :
    c ∈ family.label.toList ∨ c ∈ sentence.toList := by
  rw [fillLabel, Text.replaceAll, String.toList_ofList] at member
  exact of_mem_replaceFrom member

theorem Family.label_harmless (family : Family) : Harmless family.label.toList := by
  cases family <;> decide

theorem Verdict.sentence_harmless (verdict : Verdict) : Harmless verdict.sentence.toList := by
  cases verdict <;> decide

theorem Level.acceptance_harmless (level : Level) : Harmless level.acceptance.toList := by
  cases level <;> decide

theorem Severity.capitalName_harmless (severity : Severity) :
    Harmless severity.capitalName.toList := by
  cases severity <;> decide

theorem Code.name_harmless (code : Code) : Harmless code.name.toList := by
  cases code <;> decide

theorem fillLabel_harmless (family : Family) {sentence : String}
    (harmless : Harmless sentence.toList) : Harmless (fillLabel family sentence).toList := by
  obtain ⟨steady, unread⟩ := family.label_harmless
  constructor <;> intro c member
  · exact (of_mem_fillLabel member).elim (steady c) (harmless.1 c)
  · exact (of_mem_fillLabel member).elim (unread c) (harmless.2 c)

/-- A digit moves nothing, and it is no bracket and no backslash. -/
theorem digit_harmless {c : Char} (digit : c.isDigit = true) :
    (movesCursor c = false ∧ c ≠ '\t') ∧ c ≠ '\\' ∧ c ≠ '[' := by
  refine ⟨⟨?_, ?_⟩, ?_, ?_⟩
  · have atLeast : 48 ≤ c.toNat := by
      simp only [Char.isDigit, Bool.and_eq_true, decide_eq_true_eq] at digit
      exact UInt32.le_iff_toNat_le.mp digit.1
    simp only [movesCursor, List.contains_eq_mem, decide_eq_false_iff_not, List.mem_cons,
      List.not_mem_nil, or_false]
    omega
  all_goals
    rintro rfl
    cases digit

theorem number_harmless (number : Nat) : Harmless (toString number).toList := by
  have digits : ∀ c ∈ (toString number).toList, c.isDigit = true := by
    intro c member
    refine Nat.isDigit_of_mem_toDigits (by decide) (le_refl 10) (n := number) ?_
    simpa using member
  exact ⟨fun c member => (digit_harmless (digits c member)).1,
    fun c member => (digit_harmless (digits c member)).2⟩

/-! ## The lines of a report -/

namespace Report

/-- **The opening and the closing line** are unspoiled if the name of the document is. -/
theorem tells_marker (report : Report) (event : String) (known : event ∈ ["Started", "Complete"]) :
    Tells [styled "bold" (escape (report.marker event))] [report.marker event]
      (Steady report.name.toList ∧ Guarded report.name.toList) := by
  have parts : (report.marker event).toList =
      (dashes ++ " Parsing " ++ event ++ " " ++ report.family.label ++ " \"").toList ++
        (report.name.toList ++ ("\" " ++ dashes).toList) := by
    simp [marker]
  have event_harmless : Harmless event.toList := by
    simp only [List.mem_cons, List.not_mem_nil, or_false] at known
    rcases known with rfl | rfl <;> decide
  have front : Harmless
      (dashes ++ " Parsing " ++ event ++ " " ++ report.family.label ++ " \"").toList := by
    simp only [String.toList_append, harmless_append]
    exact ⟨⟨⟨⟨⟨by decide, by decide⟩, event_harmless⟩, by decide⟩, report.family.label_harmless⟩,
      by decide⟩
  have back : Harmless ("\" " ++ dashes).toList := by decide
  have last : ¬ ['\\', '\\'] <:+ (report.marker event).toList := by
    rintro ⟨before, same⟩
    have ends := congrArg List.getLast? same
    have closes : ("\" " ++ dashes).toList.getLast? = some '-' := by decide
    rw [parts, ← List.append_assoc, List.getLast?_append, List.getLast?_append, closes] at ends
    simp at ends
  refine (Tells.of_styled (isStyleName_of_mem (by decide)) _).congr ?_
  rw [and_iff_left last, parts, steady_append, steady_append, guarded_append_left front.2,
    guarded_append_right back.2 (by decide), and_iff_left back.1, and_iff_right front.1]

/-- The line of a finding up to its message. -/
def findingHead (number : Nat) (diagnostic : Diagnostic) : String :=
  toString number ++ ". " ++ diagnostic.severity.capitalName ++ " " ++ diagnostic.code.name ++ ": "

theorem toList_findingLine (number : Nat) (diagnostic : Diagnostic) :
    (findingLine number diagnostic).toList =
      (findingHead number diagnostic).toList ++ diagnostic.message.toList :=
  String.toList_append

theorem steady_findingHead (number : Nat) (diagnostic : Diagnostic) :
    Steady (findingHead number diagnostic).toList := by
  simp only [findingHead, String.toList_append, steady_append]
  exact ⟨⟨⟨⟨⟨(number_harmless number).1, by decide⟩, diagnostic.severity.capitalName_harmless.1⟩,
    by decide⟩, diagnostic.code.name_harmless.1⟩, by decide⟩

/-- What is shown of a finding: behind its message comes nothing, so the backslashes at its end stay
as they are, except that a single one has been doubled. -/
theorem showFrom_findingMarkup (number : Nat) (diagnostic : Diagnostic) :
    showFrom [] 0 (findingMarkup number diagnostic).toList =
      .ok ((findingHead number diagnostic).toList ++ (seenFrom 0 diagnostic.message.toList ++
        backslashes (doubled (trailing 0 diagnostic.message.toList)))) := by
  have message : showFrom [] 0 (escape diagnostic.message).toList = _ :=
    List.append_nil (escape diagnostic.message).toList ▸
      showFrom_escape diagnostic.message (quiet_of_notMem List.not_mem_nil)
  rw [showFrom_nil] at message
  simp only [findingMarkup, findingHead, String.toList_append, List.append_assoc]
  rw [showFrom_append (number_harmless number).2, showFrom_append (by decide),
    showFrom_styled_unread diagnostic.severity.isStyleName
      diagnostic.severity.capitalName_harmless.2,
    showFrom_append (by decide),
    showFrom_styled_unread (isStyleName_of_mem (by decide)) diagnostic.code.name_harmless.2,
    showFrom_append (by decide), message]
  rfl

/-- The message of a finding is steady, its brackets are guarded, and it does not end with a single
backslash. -/
def FindingUnspoiled (diagnostic : Diagnostic) : Prop :=
  Steady diagnostic.message.toList ∧ Guarded diagnostic.message.toList ∧
    endsWithOneBackslash diagnostic.message.toList = false

/-- **The line of a finding** is unspoiled if its message is. -/
theorem tells_finding (number : Nat) (diagnostic : Diagnostic) :
    Tells [findingMarkup number diagnostic] [findingLine number diagnostic]
      (FindingUnspoiled diagnostic) := by
  have head := steady_findingHead number diagnostic
  have ends : EndsWith (trailing 0 diagnostic.message.toList) diagnostic.message.toList :=
    endsWith_trailing
  have lineSteady : Steady (findingLine number diagnostic).toList ↔
      Steady diagnostic.message.toList := by
    rw [toList_findingLine, steady_append, and_iff_right head]
  have single : endsWithOneBackslash diagnostic.message.toList = false ↔
      doubled (trailing 0 diagnostic.message.toList) = trailing 0 diagnostic.message.toList := by
    rw [← Bool.not_eq_true, ends.one_iff, doubled_eq_self_iff]
  have agrees : ∀ after behind,
      (findingHead number diagnostic).toList ++ (seenFrom 0 diagnostic.message.toList ++
          backslashes (doubled (trailing 0 diagnostic.message.toList))) ++ '\n' :: after =
        (findingLine number diagnostic).toList ++ '\n' :: behind ↔
      (Guarded diagnostic.message.toList ∧
        endsWithOneBackslash diagnostic.message.toList = false) ∧ after = behind := by
    intro after behind
    have iff := @seenFrom_append_iff 0 diagnostic.message.toList
      (backslashes (doubled (trailing 0 diagnostic.message.toList)) ++ '\n' :: after)
      ('\n' :: behind)
    rw [backslashes_append_cons_iff (by decide) (by decide), ← single] at iff
    simpa [toList_findingLine, and_assoc, backslashes] using iff
  refine (Tells.of_showFrom (showFrom_findingMarkup number diagnostic) (fun steady => ?_)
    agrees).congr (and_congr_left fun _ => lineSteady)
  exact steady_append.mpr ⟨head, steady_append.mpr
    ⟨steady_seenFrom (lineSteady.mp steady), steady_backslashes _⟩⟩

theorem tells_findings (number : Nat) (diagnostics : List Diagnostic) :
    Tells (findingMarkups number diagnostics) (findingLines number diagnostics)
      (∀ diagnostic ∈ diagnostics, FindingUnspoiled diagnostic) := by
  induction diagnostics generalizing number with
  | nil => exact Tells.nil.congr (by simp)
  | cons diagnostic rest ih =>
    exact ((tells_finding number diagnostic).append (ih (number + 1))).congr
      List.forall_mem_cons.symm

/-! ## Whole reports -/

/-- Lines of a report with the bare source in place of the line that tells it. -/
def withBareSource (report : Report) (lines : List String) : List String :=
  if report.tellsSource then lines.set 1 report.source else lines

/-- All texts of a report come through markup unspoiled: they are steady, and each of their brackets
behind a backslash begins a tag.  The source is followed by a tag, so it ends with at most one
backslash; a message is followed by nothing, so it does not end with exactly one. -/
structure Unspoiled (report : Report) : Prop where
  name : Steady report.name.toList ∧ Guarded report.name.toList
  source : report.tellsSource = true → Steady report.source.toList ∧
    Guarded report.source.toList ∧ ¬ ['\\', '\\'] <:+ report.source.toList
  findings : ∀ diagnostic ∈ report.diagnostics, FindingUnspoiled diagnostic

variable {report : Report}

theorem acceptance_harmless {acceptance : Option String}
    (accepts : report.acceptanceLine = .ok acceptance) :
    ∀ line ∈ acceptance, Harmless line.toList := by
  rintro line rfl
  unfold acceptanceLine at accepts
  split at accepts
  · obtain ⟨level, -, given⟩ := bind_eq_ok_iff.mp accepts
    cases given
    exact fillLabel_harmless report.family level.acceptance_harmless
  · cases accepts

theorem tells_source (report : Report) :
    Tells (if report.tellsSource then [styled "dim" (escape report.source)] else [])
      (if report.tellsSource then [report.source] else [])
      (report.tellsSource = true → Steady report.source.toList ∧
        Guarded report.source.toList ∧ ¬ ['\\', '\\'] <:+ report.source.toList) := by
  split
  case isTrue told =>
    exact (Tells.of_styled (isStyleName_of_mem (by decide)) _).congr
      (by rw [forall_prop_of_true told])
  case isFalse untold =>
    exact Tells.nil.congr (iff_of_true trivial fun told => absurd told untold)

theorem tells_acceptance {acceptance : Option String}
    (accepts : report.acceptanceLine = .ok acceptance) :
    Tells (acceptance.toList.map fun line => styled "green" (escape line)) acceptance.toList
      True := by
  cases acceptance with
  | none => exact Tells.nil
  | some line =>
    exact Tells.of_harmless (isStyleName_of_mem (by decide))
      (acceptance_harmless accepts line rfl)

/-- **A report in markup**, line for line. -/
theorem tells_markups {acceptance : Option String}
    (accepts : report.acceptanceLine = .ok acceptance) :
    ∃ markups lines, report.markups = .ok markups ∧ report.lines = .ok lines ∧
      lines.length = (report.withBareSource lines).length ∧
      Tells markups (report.withBareSource lines) report.Unspoiled := by
  unfold markups lines
  rw [accepts]
  refine ⟨_, _, rfl, rfl, by unfold withBareSource; split <;> simp, ?_⟩
  have bare : report.withBareSource ([report.openingLine] ++
        (if report.tellsSource then ["Source: " ++ report.source] else []) ++
        findingLines 1 report.diagnostics ++ [report.verdictLine] ++ acceptance.toList ++
        [report.closingLine]) =
      [report.openingLine] ++ (if report.tellsSource then [report.source] else []) ++
        findingLines 1 report.diagnostics ++ [report.verdictLine] ++ acceptance.toList ++
        [report.closingLine] := by
    unfold withBareSource
    split <;> simp
  have sentence := fillLabel_harmless report.family report.verdict.sentence_harmless
  have tells := (((((report.tells_marker "Started" (by decide)).append
    report.tells_source).append (tells_findings 1 report.diagnostics)).append
    (Tells.of_harmless report.verdict.isStyleName sentence)).append
    (tells_acceptance accepts)).append (report.tells_marker "Complete" (by decide))
  rw [bare]
  refine tells.congr ⟨?_, ?_⟩
  · rintro ⟨⟨⟨⟨⟨name, source⟩, findings⟩, -⟩, -⟩, -⟩
    exact ⟨name, source, findings⟩
  · rintro ⟨name, source, findings⟩
    exact ⟨⟨⟨⟨⟨name, source⟩, findings⟩, trivial⟩, trivial⟩, name⟩

end Report

/-! ## Two layouts -/

/-- A console that prints plain lines, and one that prints markup. -/
def plainConsole : Console := ⟨.plain, false, false, false, false⟩

@[inherit_doc plainConsole]
def richConsole : Console := ⟨.rich, true, true, false, false⟩

/-- A report whose texts are full of tags, and of backslashes before tags and at ends. -/
def taggedReport : Report :=
  ⟨"d/[a].json\\", some "[bold]Pets[/bold]", .openapi3, 2,
    [⟨.generic, .error, "list[0] [/] \\[z] tail\\\\", .parser⟩], .malformed⟩

/-- A report whose message ends with a backslash. -/
def backslashReport : Report :=
  ⟨"<inline>", none, .swagger2, 0, [⟨.generic, .error, "no folder C:\\", .parser⟩], .invalid⟩

end ApiAdmission
