import ApiAdmission.Proofs.Batch.Counting
import ApiAdmission.Proofs.Text.Search
import ApiAdmission.Report.Record

/-!
# Lines and records of reports

A report of a level has lines and a record.  The sentence about acceptance is among the lines
exactly if the record says that the document is accepted (`Report.OfLevel.accepted_iff_told`): no
marker, no finding and no verdict reads like it.
-/

namespace ApiAdmission

set_option autoImplicit false

namespace Report

/-- The sentence about acceptance at a level. -/
def acceptanceAt (report : Report) (level : Level) : String :=
  fillLabel report.family level.acceptance

/-! ## What no other line is -/

/-- A sentence ends as before when the label of a family is filled in. -/
theorem getLast?_fillLabel (family : Family) {sentence : String} {last : Char}
    (ends : sentence.toList.getLast? = some last) (absent : last ∉ "\x7blabel\x7d".toList) :
    (fillLabel family sentence).toList.getLast? = some last := by
  obtain ⟨before, whole⟩ := List.getLast?_eq_some_iff.mp ends
  obtain ⟨after, filled⟩ :=
    Text.exists_replaceFrom_concat (by simp) absent (Nat.zero_le before.length)
  rw [fillLabel, Text.replaceAll, String.toList_ofList, whole, filled, List.getLast?_concat]

theorem acceptanceAt_ne_verdictLine (report : Report) (level : Level) :
    report.acceptanceAt level ≠ report.verdictLine := by
  have told : ∃ last ∈ [')', '0'], level.acceptance.toList.getLast? = some last := by
    cases level <;> simp [Level.acceptance]
  have judged : ∃ last ∈ ['d', 's', 'g'],
      report.verdict.sentence.toList.getLast? = some last := by
    cases report.verdict <;> simp [Verdict.sentence]
  have apart : ∀ last ∈ [')', '0'] ++ ['d', 's', 'g'], last ∉ "\x7blabel\x7d".toList := by
    simp
  obtain ⟨last, known, ends⟩ := told
  obtain ⟨other, knownToo, endsToo⟩ := judged
  have first := getLast?_fillLabel report.family ends (apart last (List.mem_append_left _ known))
  have second := getLast?_fillLabel report.family endsToo
    (apart other (List.mem_append_right _ knownToo))
  have disjoint : ∀ last ∈ [')', '0'], last ∉ ['d', 's', 'g'] := by simp
  intro same
  rw [← acceptanceAt, same, verdictLine, second] at first
  cases first
  exact disjoint _ known knownToo

/-- The sentence about acceptance begins like the label of a family. -/
theorem take_acceptanceAt (report : Report) (level : Level) :
    (report.acceptanceAt level).toList.take 2 ∈ [['S', 'w'], ['O', 'p'], ['O', 'A']] := by
  have begins : "\x7blabel\x7d".toList <+: level.acceptance.toList := by
    cases level <;> simp [Level.acceptance]
  obtain ⟨rest, whole⟩ : report.family.label.toList <+: (report.acceptanceAt level).toList := by
    rw [acceptanceAt, fillLabel, Text.replaceAll, String.toList_ofList]
    exact Text.prefix_replaceFrom (by simp) begins
  rw [← whole]
  cases report.family <;> simp [Family.label]

theorem acceptanceAt_ne {report : Report} {level : Level} {line : String} {beginning : List Char}
    (begins : line.toList.take 2 = beginning)
    (other : beginning ∉ [['S', 'w'], ['O', 'p'], ['O', 'A']]) :
    report.acceptanceAt level ≠ line := by
  rintro rfl
  exact other (begins ▸ report.take_acceptanceAt level)

theorem take_marker (report : Report) (event : String) :
    (report.marker event).toList.take 2 = ['-', '-'] := by
  simp [marker, dashes]

theorem acceptanceAt_notMem_findingLines (report : Report) (level : Level) (number : Nat)
    (findings : List Diagnostic) : report.acceptanceAt level ∉ findingLines number findings := by
  induction findings generalizing number with
  | nil => exact List.not_mem_nil
  | cons finding rest ih =>
    rw [findingLines, List.mem_cons, not_or]
    refine ⟨?_, ih (number + 1)⟩
    -- A finding begins with its number.
    cases digits : Nat.toDigits 10 number with
    | nil => exact absurd digits Nat.toDigits_ne_nil
    | cons digit others =>
      have isDigit : digit.isDigit = true :=
        Nat.isDigit_of_mem_toDigits (by decide) (by decide) (digits ▸ List.mem_cons_self)
      intro same
      have begins := report.take_acceptanceAt level
      rw [same, findingLine] at begins
      simp [digits] at begins
      rcases begins with ⟨rfl, -⟩ | ⟨rfl, -⟩ | ⟨rfl, -⟩ <;> cases isDigit

variable {report : Report} {level : Level}

namespace OfLevel

theorem acceptanceLine_eq (reported : report.OfLevel level) :
    report.acceptanceLine =
      .ok (if report.accepted then some (report.acceptanceAt level) else none) := by
  unfold acceptanceLine
  rw [reported.level_eq]
  by_cases accepted : report.accepted
  · rw [if_pos accepted, if_pos accepted]
    cases level <;> rfl
  · rw [if_neg accepted, if_neg accepted]

/-- **A report of a level has lines and a record**, which agree on acceptance: the record says that
the document is accepted exactly if the sentence about acceptance is among the lines. -/
theorem accepted_iff_told (reported : report.OfLevel level) :
    ∃ lines record, report.lines = .ok lines ∧ report.toTree = .ok record ∧
      record.get? "accepted" = some (.boolean report.accepted) ∧
      (report.accepted = true ↔ report.acceptanceAt level ∈ lines) := by
  unfold lines toTree
  rw [reported.acceptanceLine_eq]
  refine ⟨_, _, rfl, rfl, rfl, ?_⟩
  have opening : report.acceptanceAt level ≠ report.openingLine :=
    acceptanceAt_ne (report.take_marker _) (by decide)
  have closing : report.acceptanceAt level ≠ report.closingLine :=
    acceptanceAt_ne (report.take_marker _) (by decide)
  have told : report.acceptanceAt level ∉
      (if report.tellsSource then ["Source: " ++ report.source] else []) := by
    have begins : ("Source: " ++ report.source).toList.take 2 = ['S', 'o'] := by simp
    have source : report.acceptanceAt level ≠ "Source: " ++ report.source :=
      acceptanceAt_ne begins (by decide)
    split <;> simp [source]
  have findings := report.acceptanceAt_notMem_findingLines level 1 report.diagnostics
  have verdict := report.acceptanceAt_ne_verdictLine level
  by_cases accepted : report.accepted <;>
    simp [accepted, opening, closing, told, findings, verdict]

end OfLevel

end Report

end ApiAdmission
