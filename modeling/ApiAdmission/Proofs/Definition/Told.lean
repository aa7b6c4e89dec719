import ApiAdmission.Definition.Structure
import ApiAdmission.Proofs.Definition.Noted
import ApiAdmission.Proofs.Reference.Scanning

/-!
# What the messages about a definition tell

The messages are those of the violations of the standard and of the findings of the walk, each once
in the order of first appearance, and after them one about a reference that ends the walk, if one
does (`structureMessages_eq_ok_iff`).  Nothing that is wrong goes without a message
(`structureMessages_tell`), since every violation is described and every finding has a message.

The last message is not compared with those before it.  So it is there a second time when the words
of a reference that names nothing are those of a violation (`described_twice`).
-/

namespace ApiAdmission.Definition

set_option autoImplicit false

open Reference (FirstSeen addNew firstSeen_foldl_addNew)
open Schema (describe missingNames missingAttribute)

/-- The violations of a standard by a definition. -/
def violationsOf (standard : Standard) (tree : Tree) : Schema.Found :=
  Schema.validate standard.frame ⟨standard.document, standard.document⟩ tree

/-- What the walk through a definition of a standard finds, and the breakdown that ends it. -/
def walkThrough (standard : Standard) (tree : Tree) : List Finding × Option Breakdown :=
  inspect ⟨tree, standard.family, standard.inner⟩

/-- The messages of violations and findings, as often as they come. -/
def described (standard : Standard) (violations : List Schema.Violation)
    (findings : List Finding) : List String :=
  violations.flatMap (describe standard.frame.dialect) ++ findings.flatMap Finding.messages

/-- The message about a reference that ends the walk. -/
def endMessage : Option Breakdown → List String
  | some (.lostTarget text) => [lostMessage text]
  | _ => []

/-- The walk goes to its end, or to a reference that names nothing. -/
def Settles (breakdown : Option Breakdown) : Prop :=
  breakdown = none ∨ ∃ text, breakdown = some (.lostTarget text)

section Messages

variable {standard : Standard} {tree : Tree} {messages : List String}

/-- **When there are messages, and which.** -/
theorem structureMessages_eq_ok_iff :
    structureMessages standard tree = .ok messages ↔
      ∃ violations, violationsOf standard tree = .ok violations ∧
        Settles (walkThrough standard tree).2 ∧
        messages =
          (described standard violations (walkThrough standard tree).1).foldl addNew [] ++
            endMessage (walkThrough standard tree).2 := by
  unfold structureMessages
  refine bind_eq_ok_iff.trans (exists_congr fun violations => and_congr_right fun _ => ?_)
  rw [show inspect ⟨tree, standard.family, standard.inner⟩ = walkThrough standard tree from rfl]
  rcases walkThrough standard tree with ⟨findings, breakdown⟩
  dsimp only
  split
  · simp [Settles, endMessage, described, pure, Except.pure, eq_comm]
  · simp [Settles, endMessage, described, pure, Except.pure, eq_comm]
  · rename_i other
    refine iff_of_false nofun ?_
    rintro ⟨nothing | ⟨text, lost⟩, _⟩
    · cases nothing
    · exact other text (Option.some.inj lost)

/-- Adding texts one after the other leaves each once, in the order of first appearance. -/
theorem firstSeen_texts (texts : List String) :
    FirstSeen (fun _ => true) texts (texts.foldl addNew []) := by
  simpa using firstSeen_foldl_addNew (fun _ => true) texts

theorem count_endMessage (breakdown : Option Breakdown) (text : String) :
    (endMessage breakdown).count text = if text ∈ endMessage breakdown then 1 else 0 := by
  unfold endMessage
  split
  · simp only [List.count_singleton, List.mem_singleton, beq_iff_eq]
    exact if_congr eq_comm rfl rfl
  · simp

/-- Every finding of the walk has a message. -/
theorem messages_ne_nil {finding : Finding} (found : finding ∈ (walkThrough standard tree).1) :
    finding.messages ≠ [] := by
  cases finding with
  | badDefault dialect violation => exact (raised_of_inspect found).sound.describe_ne_nil
  | _ => exact List.cons_ne_nil _ _

/-- Nothing is described only where nothing is found. -/
theorem described_eq_nil_iff {violations : List Schema.Violation}
    (given : violationsOf standard tree = .ok violations) :
    described standard violations (walkThrough standard tree).1 = [] ↔
      violations = [] ∧ (walkThrough standard tree).1 = [] := by
  rw [described, List.append_eq_nil_iff, List.flatMap_eq_nil_iff, List.flatMap_eq_nil_iff,
    List.eq_nil_iff_forall_not_mem, List.eq_nil_iff_forall_not_mem]
  refine and_congr (forall_congr' fun violation => forall_congr' fun member => ?_)
    (forall_congr' fun finding => forall_congr' fun member => ?_)
  · have raised := Schema.raised_of_validate given violation member
    exact iff_of_false raised.sound.describe_ne_nil id
  · exact iff_of_false (messages_ne_nil member) id

theorem endMessage_eq_nil_iff {breakdown : Option Breakdown} (settles : Settles breakdown) :
    endMessage breakdown = [] ↔ breakdown = none := by
  rcases settles with rfl | ⟨text, rfl⟩ <;> simp [endMessage]

/-- **No structural error is dropped.**  A violation is described whenever the violations of
required names in it, at any depth of alternatives, are about values that lack one of them; and so
they are in all that a validation finds, in every dialect, where one of required names outside of
alternatives is told by exactly the names that are missing.  A definition gets messages where its
validation does not break down and the walk settles.  Then every finding has one, and there are none
exactly if the standard and the walk find nothing.  They are the described texts, each once in the
order of first appearance, and after them the message about a reference that ends the walk; so a
described text is there twice exactly if it is that message. -/
theorem structureMessages_tell (dialect : Schema.Dialect) (frame : Schema.Frame)
    (standard : Standard) (tree : Tree) :
    (∀ violation, Schema.Violation.Sound violation → describe dialect violation ≠ []) ∧
    (∀ located subject violations, Schema.validate frame located subject = .ok violations →
      ∀ violation ∈ violations, violation.Sound ∧
        (violation.keyword = some "required" → describe dialect violation =
          (missingNames violation).map (missingAttribute violation.path))) ∧
    (∀ violations, violationsOf standard tree = .ok violations →
      Settles (walkThrough standard tree).2 →
      ∃ messages, structureMessages standard tree = .ok messages) ∧
    ∀ messages, structureMessages standard tree = .ok messages →
      ∃ violations, violationsOf standard tree = .ok violations ∧
        (∀ finding ∈ (walkThrough standard tree).1, finding.messages ≠ []) ∧
        (messages = [] ↔ violations = [] ∧ walkThrough standard tree = ([], none)) ∧
        (∃ firsts,
          FirstSeen (fun _ => true)
            (described standard violations (walkThrough standard tree).1) firsts ∧
          messages = firsts ++ endMessage (walkThrough standard tree).2) ∧
        ∀ text ∈ described standard violations (walkThrough standard tree).1,
          messages.count text =
            if text ∈ endMessage (walkThrough standard tree).2 then 2 else 1 := by
  refine ⟨fun _ sound => sound.describe_ne_nil, ?_, ?_, ?_⟩
  · intro located subject violations given violation member
    have raised := Schema.raised_of_validate given violation member
    exact ⟨raised.sound, fun keyword =>
      Schema.describe_required (raised.alone keyword).1 keyword⟩
  · intro violations found settles
    exact ⟨_, structureMessages_eq_ok_iff.mpr ⟨violations, found, settles, rfl⟩⟩
  · intro messages given
    obtain ⟨violations, found, settles, rfl⟩ := structureMessages_eq_ok_iff.mp given
    have firsts := firstSeen_texts (described standard violations (walkThrough standard tree).1)
    refine ⟨violations, found, fun _ member => messages_ne_nil member, ?_, ⟨_, firsts, rfl⟩, ?_⟩
    · have none_described : (described standard violations (walkThrough standard tree).1).foldl
          addNew [] = [] ↔ described standard violations (walkThrough standard tree).1 = [] := by
        simp only [List.eq_nil_iff_forall_not_mem, firsts.complete, and_true]
      rw [List.append_eq_nil_iff, none_described, described_eq_nil_iff found,
        endMessage_eq_nil_iff settles, and_assoc, Prod.ext_iff]
    · intro text among
      have first := (firsts.complete text).mpr ⟨among, rfl⟩
      rw [List.count_append, List.count_eq_one_of_mem firsts.nodup first, count_endMessage]
      split <;> rfl

end Messages

/-! ## Missing names, and a message that is told twice -/

/-- A schema that requires two names. -/
def requiringSchema : Tree := .mapping [("required", .list [.text "paths", .text "info"])]

/-- An object with one of them. -/
def halfObject : Tree := .mapping [("info", .null)]

/-- The violation of the schema by the object. -/
def lackingPaths : Schema.Violation :=
  .mk (some "required") (.list [.text "paths", .text "info"]) []
    "'paths' is a required property" halfObject requiringSchema []

/-- The violation of alternatives that are all that schema. -/
def lackingChoice : Schema.Violation :=
  .mk (some "anyOf") (.list [requiringSchema]) [] "" halfObject
    (.mapping [("anyOf", .list [requiringSchema])]) [lackingPaths]

theorem validate_halfObject :
    Schema.validate ⟨.fourth, []⟩ ⟨requiringSchema, requiringSchema⟩ halfObject =
      .ok [lackingPaths] := rfl

/-- The missing name is told, also inside alternatives; and a definition without anything has one
message for each of the names that its standard requires. -/
theorem structureMessages_tell_halfObject :
    describe .fourth lackingChoice ≠ [] ∧
    describe .fourth lackingPaths = ["attribute paths is missing"] ∧
    structureMessages .openApi30 (.mapping []) =
      .ok ["attribute openapi is missing", "attribute info is missing",
        "attribute paths is missing"] ∧
    ∃ violations, violationsOf .openApi30 (.mapping []) = .ok violations ∧ violations ≠ [] := by
  obtain ⟨told, raised, _, messages⟩ :=
    structureMessages_tell .fourth ⟨.fourth, []⟩ .openApi30 (.mapping [])
  obtain ⟨sound, named⟩ := raised _ _ _ validate_halfObject lackingPaths List.mem_cons_self
  have inside : lackingChoice.Sound :=
    .intro nofun fun _ member => List.mem_singleton.mp member ▸ sound
  have given : structureMessages .openApi30 (.mapping []) =
      .ok ["attribute openapi is missing", "attribute info is missing",
        "attribute paths is missing"] := by decide +kernel
  have complete : (walkThrough .openApi30 (.mapping [])).1.length = 0 ∧
      (walkThrough .openApi30 (.mapping [])).2 = none := by decide +kernel
  have empty : walkThrough .openApi30 (.mapping []) = ([], none) :=
    Prod.ext (List.length_eq_zero_iff.mp complete.1) complete.2
  obtain ⟨violations, found, _, nothing, _⟩ := messages _ given
  refine ⟨told _ inside, (named rfl).trans (by decide +kernel), given, violations, found,
    fun clean => ?_⟩
  exact List.cons_ne_nil _ _ (nothing.mpr ⟨clean, empty⟩)

/-- The words of a violation, which are those of a reference too. -/
def doubledWords : String := "5 is less than the minimum of 10"

/-- A definition with a default value whose violation begins like the message about a reference that
names nothing, and with a reference that has the words of that violation. -/
def doublingTree : Tree :=
  .mapping [
    ("openapi", .text "3.0.3"),
    ("info", .mapping [("title", .text "t"), ("version", .text "1")]),
    ("paths", .mapping []),
    ("components", .mapping [("schemas", .mapping [
      ("A", .mapping [
        ("type", .text "object"),
        ("properties", .mapping [
          ("Unable to validate the definition", .mapping [("minimum", .integer 10)])]),
        ("default", .mapping [("Unable to validate the definition", .integer 5)])]),
      ("B", .mapping [("$ref", .text doubledWords)])])])]

/-- The text that describes the violation comes a second time as the last message. -/
theorem described_twice :
    (walkThrough .openApi30 doublingTree).1.flatMap Finding.messages =
      ["Unable to validate the definition: 5 is less than the minimum of 10"] ∧
    structureMessages .openApi30 doublingTree =
      .ok ["Unable to validate the definition: 5 is less than the minimum of 10",
        "Unable to validate the definition: 5 is less than the minimum of 10"] :=
  ⟨by decide +kernel, by decide +kernel⟩

end ApiAdmission.Definition
