import ApiAdmission.Text.Search
import Mathlib.Data.List.Infix

/-!
# Where a pattern occurs

A pattern occurs in a text exactly if it is a piece of it (`occursIn_iff`).  In texts that are put
together of other ones it may also reach over the joints.  Fixed words between two texts keep it
from doing so when it neither occurs in them nor begins or ends in them nor holds them
(`PassesBy`): then it occurs in the whole exactly if it occurs before or after the words
(`contains_around`).

Splitting a text at a character is undone by joining the pieces (`splitAt_append`).  Splitting a
text and replacing parts of it by characters that the pattern does not have makes no new
occurrences.
-/

namespace ApiAdmission.Text

set_option autoImplicit false

variable {pattern text : List Char}

/-- A pattern occurs in a list of characters exactly if it is a piece of it. -/
theorem occursIn_iff : occursIn pattern text = true ↔ pattern <:+: text := by
  induction text with
  | nil => simp [occursIn]
  | cons c rest ih => simp [occursIn, ih, List.infix_cons_iff]

/-- A text contains another one exactly if that is a piece of it. -/
theorem contains_iff {whole part : String} :
    contains whole part = true ↔ part.toList <:+: whole.toList :=
  occursIn_iff

/-! ## Texts that are put together -/

/-- A pattern in two texts together lies in one of them or reaches over the joint. -/
theorem infix_append_iff {before after : List Char} :
    pattern <:+: before ++ after ↔
      pattern <:+: before ∨ pattern <:+: after ∨
        ∃ start rest, pattern = start ++ rest ∧ start ≠ [] ∧ rest ≠ [] ∧
          start <:+ before ∧ rest <+: after := by
  constructor
  · rintro ⟨left, right, whole⟩
    rw [List.append_assoc] at whole
    rcases List.append_eq_append_iff.mp whole with ⟨start, rfl, joint⟩ | ⟨left', rfl, rfl⟩
    · rcases List.append_eq_append_iff.mp joint with ⟨between, rfl, rfl⟩ | ⟨rest, rfl, rfl⟩
      · exact .inl ⟨left, between, by simp⟩
      · by_cases noStart : start = []
        · subst noStart
          exact .inr (.inl ⟨[], right, by simp⟩)
        · by_cases noRest : rest = []
          · subst noRest
            exact .inl ⟨left, [], by simp⟩
          · exact .inr (.inr ⟨start, rest, rfl, noStart, noRest, ⟨left, rfl⟩, ⟨right, rfl⟩⟩)
    · exact .inr (.inl ⟨left', right, by simp⟩)
  · rintro (inside | inside | ⟨start, rest, rfl, _, _, ⟨left, rfl⟩, ⟨right, rfl⟩⟩)
    · exact inside.trans (List.prefix_append _ _).isInfix
    · exact inside.trans (List.suffix_append _ _).isInfix
    · exact ⟨left, right, by simp⟩

/-- A pattern passes by fixed words: it does not occur in them, they do not occur in it, and neither
an ending of it begins them nor a beginning of it ends them. -/
def PassesBy (pattern words : List Char) : Prop :=
  ¬ pattern <:+: words ∧ ¬ words <:+: pattern ∧
    (∀ ending ∈ pattern.tails, ending ≠ [] → ¬ ending <+: words) ∧
    ∀ start ∈ pattern.inits, start ≠ [] → ¬ start <:+ words

instance (pattern words : List Char) : Decidable (PassesBy pattern words) :=
  inferInstanceAs (Decidable (_ ∧ _ ∧ _ ∧ _))

/-- A pattern that passes by the words between two texts lies in one of the texts. -/
theorem PassesBy.infix_iff {words before after : List Char} (passes : PassesBy pattern words) :
    pattern <:+: before ++ words ++ after ↔ pattern <:+: before ∨ pattern <:+: after := by
  obtain ⟨notInside, notAround, notEnding, notStarting⟩ := passes
  constructor
  · intro occurs
    rcases infix_append_iff.mp occurs with inFront | inAfter | ⟨start, rest, rfl, some, _, ends, _⟩
    · rcases infix_append_iff.mp inFront with inBefore | inWords |
        ⟨start, rest, rfl, _, more, _, begins⟩
      · exact .inl inBefore
      · exact absurd inWords notInside
      · exact absurd begins
          (notEnding rest ((List.mem_tails _ _).mpr (List.suffix_append _ _)) more)
    · exact .inr inAfter
    · rcases List.suffix_or_suffix_of_suffix ends (List.suffix_append before words) with
        inWords | covers
      · exact absurd inWords
          (notStarting start ((List.mem_inits _ _).mpr (List.prefix_append _ _)) some)
      · exact absurd (covers.isInfix.trans (List.prefix_append _ _).isInfix) notAround
  · rintro (inBefore | inAfter)
    · rw [List.append_assoc]
      exact inBefore.trans (List.prefix_append _ _).isInfix
    · exact inAfter.trans (List.suffix_append _ _).isInfix

/-- Two texts with words between them that a part passes by contain it exactly if one of them
does. -/
theorem contains_around {part words : String} (passes : PassesBy part.toList words.toList)
    (before after : String) :
    contains (before ++ words ++ after) part = (contains before part || contains after part) := by
  rw [Bool.eq_iff_iff, Bool.or_eq_true, contains_iff, contains_iff, contains_iff,
    String.toList_append, String.toList_append]
  exact passes.infix_iff

/-- A part that passes by some words is not empty. -/
theorem PassesBy.contains_empty {part words : String}
    (passes : PassesBy part.toList words.toList) : contains "" part = false := by
  rw [← Bool.not_eq_true, contains_iff]
  intro inside
  have none : part.toList = [] := List.infix_nil.mp inside
  exact passes.1 (none ▸ List.nil_infix)

/-- Words that a part passes by at the beginning of a text. -/
theorem contains_after {part words : String} (passes : PassesBy part.toList words.toList)
    (rest : String) : contains (words ++ rest) part = contains rest part := by
  have around := contains_around passes "" rest
  rwa [String.empty_append, passes.contains_empty, Bool.false_or] at around

/-- Words that a part passes by at the end of a text. -/
theorem contains_before {part words : String} (passes : PassesBy part.toList words.toList)
    (first : String) : contains (first ++ words) part = contains first part := by
  have around := contains_around passes first ""
  rwa [String.append_empty, passes.contains_empty, Bool.or_false] at around

/-! ## Splitting at a character -/

section Splitting

variable {separator : Char}

theorem splitAt_ne_nil (text : List Char) : splitAt separator text ≠ [] := by
  cases text with
  | nil => exact List.cons_ne_nil _ _
  | cons c rest =>
    rw [splitAt]
    split
    · exact List.cons_ne_nil _ _
    · split <;> exact List.cons_ne_nil _ _

/-- No piece has the separator. -/
theorem separator_notMem {text piece : List Char} (pieceOf : piece ∈ splitAt separator text) :
    separator ∉ piece := by
  induction text generalizing piece with
  | nil =>
    cases List.mem_singleton.mp pieceOf
    exact List.not_mem_nil
  | cons c rest ih =>
    rw [splitAt] at pieceOf
    cases pieces : splitAt separator rest with
    | nil => exact absurd pieces (splitAt_ne_nil rest)
    | cons first others =>
      rw [pieces] at pieceOf ih
      by_cases same : c = separator
      · simp only [same, beq_self_eq_true, if_true, List.mem_cons] at pieceOf
        rcases pieceOf with rfl | member
        · exact List.not_mem_nil
        · exact ih (List.mem_cons.mpr member)
      · simp only [beq_iff_eq, same, if_false, List.mem_cons] at pieceOf
        rcases pieceOf with rfl | member
        · intro member
          rcases List.mem_cons.mp member with rfl | member
          · exact same rfl
          · exact ih List.mem_cons_self member
        · exact ih (List.mem_cons_of_mem _ member)

/-- At a separator the pieces of both sides stand one after the other. -/
theorem splitAt_append (before after : List Char) :
    splitAt separator (before ++ separator :: after) =
      splitAt separator before ++ splitAt separator after := by
  induction before with
  | nil =>
    rw [List.nil_append, splitAt]
    cases pieces : splitAt separator after with
    | nil => exact absurd pieces (splitAt_ne_nil after)
    | cons first others => simp [splitAt, pieces]
  | cons c rest ih =>
    rw [List.cons_append, splitAt, ih, splitAt]
    cases pieces : splitAt separator rest with
    | nil => exact absurd pieces (splitAt_ne_nil rest)
    | cons first others =>
      rw [List.cons_append]
      dsimp only
      split <;> rfl

/-- Without a separator there is one piece. -/
theorem splitAt_of_notMem {text : List Char} (absent : separator ∉ text) :
    splitAt separator text = [text] := by
  induction text with
  | nil => rfl
  | cons c rest ih =>
    rw [List.mem_cons, not_or] at absent
    rw [splitAt, ih absent.2]
    simp [Ne.symm absent.1]

end Splitting

/-! ## Pieces of a text and replaced parts -/

/-- The pieces that a text is split into are pieces of it, and the first one begins it. -/
theorem splitAt_infix (separator : Char) (text : List Char) :
    ∃ first others, splitAt separator text = first :: others ∧ first <+: text ∧
      ∀ piece ∈ others, piece <:+: text := by
  induction text with
  | nil => exact ⟨[], [], rfl, List.prefix_rfl, fun _ member => (List.not_mem_nil member).elim⟩
  | cons c rest ih =>
    obtain ⟨first, others, splits, begins, pieces⟩ := ih
    rw [splitAt, splits]
    dsimp only
    split
    · refine ⟨[], first :: others, rfl, List.nil_prefix, ?_⟩
      intro piece member
      rcases List.mem_cons.mp member with rfl | member
      · exact List.infix_cons begins.isInfix
      · exact List.infix_cons (pieces piece member)
    · refine ⟨c :: first, others, rfl, List.cons_prefix_cons.mpr ⟨rfl, begins⟩, ?_⟩
      intro piece member
      exact List.infix_cons (pieces piece member)

theorem infix_of_mem_splitAt {separator : Char} {piece : List Char}
    (member : piece ∈ splitAt separator text) : piece <:+: text := by
  obtain ⟨first, others, splits, begins, pieces⟩ := splitAt_infix separator text
  rw [splits] at member
  rcases List.mem_cons.mp member with rfl | member
  · exact begins.isInfix
  · exact pieces piece member

/-- What stands before the first separator begins the text, and what stands after it ends it. -/
theorem cutAt_infix (separator : Char) (text : List Char) :
    (cutAt separator text).1 <+: text ∧ (cutAt separator text).2.getD [] <:+ text := by
  induction text with
  | nil => exact ⟨List.prefix_rfl, List.suffix_rfl⟩
  | cons c rest ih =>
    obtain ⟨begins, ends⟩ := ih
    rw [cutAt]
    split
    · exact ⟨List.nil_prefix, List.suffix_cons c rest⟩
    · exact ⟨List.cons_prefix_cons.mpr ⟨rfl, begins⟩, ends.trans (List.suffix_cons c rest)⟩

section Replacing

variable {old : List Char} {new : Char}

theorem prefix_of_replaceFrom (absent : new ∉ pattern)
    (begins : pattern <+: replaceFrom old [new] 0 text) : pattern <+: text := by
  induction text generalizing pattern with
  | nil => exact begins
  | cons c rest ih =>
    cases pattern with
    | nil => exact List.nil_prefix
    | cons d more =>
      rw [replaceFrom] at begins
      split at begins
      · obtain ⟨same, _⟩ := List.cons_prefix_cons.mp begins
        exact absurd (same ▸ List.mem_cons_self) absent
      · obtain ⟨same, begins⟩ := List.cons_prefix_cons.mp begins
        exact List.cons_prefix_cons.mpr
          ⟨same, ih (fun member => absent (List.mem_cons_of_mem _ member)) begins⟩

theorem replaceFrom_cons (old : List Char) (new c : Char) (rest : List Char) :
    ∃ d skip, replaceFrom old [new] 0 (c :: rest) = d :: replaceFrom old [new] skip rest := by
  rw [replaceFrom]
  split
  · exact ⟨_, _, rfl⟩
  · exact ⟨_, _, rfl⟩

/-- Replacing parts of a text by a character that a pattern does not have makes no new
occurrences. -/
theorem infix_of_replaceFrom (absent : new ∉ pattern) {skip : Nat}
    (occurs : pattern <:+: replaceFrom old [new] skip text) : pattern <:+: text := by
  induction text generalizing skip with
  | nil => exact occurs
  | cons c rest ih =>
    cases skip with
    | succ skip => exact List.infix_cons (ih occurs)
    | zero =>
      obtain ⟨d, skip, shape⟩ := replaceFrom_cons old new c rest
      rw [shape] at occurs
      rcases List.infix_cons_iff.mp occurs with begins | later
      · rw [← shape] at begins
        exact (prefix_of_replaceFrom absent begins).isInfix
      · exact List.infix_cons (ih later)

variable {replacement : List Char}

/-- A text that begins with what is replaced begins with the replacement then. -/
theorem prefix_replaceFrom (some_old : old ≠ []) (begins : old <+: text) :
    replacement <+: replaceFrom old replacement 0 text := by
  obtain ⟨rest, rfl⟩ := begins
  cases old with
  | nil => exact absurd rfl some_old
  | cons c more =>
    have occurs : (c :: more).isPrefixOf (c :: (more ++ rest)) = true :=
      List.isPrefixOf_iff_prefix.mpr (List.prefix_append (c :: more) rest)
    rw [List.cons_append, replaceFrom, if_pos occurs]
    exact List.prefix_append _ _

/-- The last character stays when it does not occur in what is replaced. -/
theorem exists_replaceFrom_concat {last : Char} (some_old : old ≠ []) (absent : last ∉ old)
    {skip : Nat} (fits : skip ≤ text.length) :
    ∃ before, replaceFrom old replacement skip (text ++ [last]) = before ++ [last] := by
  have inside : ∀ text : List Char, old.isPrefixOf (text ++ [last]) = true →
      old.length ≤ text.length := by
    intro text occurs
    rcases List.prefix_concat_iff.mp (List.isPrefixOf_iff_prefix.mp occurs) with rfl | begins
    · exact absurd (List.mem_append_right _ List.mem_cons_self) absent
    · exact begins.length_le
  induction text generalizing skip with
  | nil =>
    cases Nat.le_zero.mp fits
    have apart : ¬ old.isPrefixOf [last] = true := fun occurs =>
      some_old (List.eq_nil_of_length_eq_zero (Nat.le_zero.mp (inside [] occurs)))
    exact ⟨[], if_neg apart⟩
  | cons c rest ih =>
    cases skip with
    | succ skip => exact ih (Nat.le_of_succ_le_succ fits)
    | zero =>
      rw [List.cons_append, replaceFrom]
      split
      case isTrue occurs =>
        have short : old.length ≤ rest.length + 1 := inside (c :: rest) occurs
        obtain ⟨before, same⟩ := ih (Nat.sub_le_of_le_add short)
        exact ⟨replacement ++ before, by rw [same, List.append_assoc]⟩
      case isFalse =>
        obtain ⟨before, same⟩ := ih (Nat.zero_le _)
        exact ⟨c :: before, by rw [same, List.cons_append]⟩

end Replacing

/-! ## Replacing two characters -/

section Pairs

variable {first second c : Char} {more replacement rest : List Char}

theorem replaceFrom_of_ne (other : first ≠ c) :
    replaceFrom (first :: more) replacement 0 (c :: rest) =
      c :: replaceFrom (first :: more) replacement 0 rest := by
  have apart : ¬ (first :: more).isPrefixOf (c :: rest) = true := by simp [other]
  rw [replaceFrom, if_neg apart]

/-- A text without the first character of what is replaced stays as it is. -/
theorem replaceFrom_of_notMem (absent : first ∉ text) :
    replaceFrom (first :: more) replacement 0 text = text := by
  induction text with
  | nil => rfl
  | cons c rest ih =>
    obtain ⟨other, onward⟩ := List.ne_and_not_mem_of_not_mem_cons absent
    rw [replaceFrom_of_ne other, ih onward]

theorem replaceFrom_pair :
    replaceFrom [first, second] replacement 0 (first :: second :: rest) =
      replacement ++ replaceFrom [first, second] replacement 0 rest := by
  have occurs : [first, second].isPrefixOf (first :: second :: rest) = true := by simp
  rw [replaceFrom, if_pos occurs]
  rfl

/-- The first character of a pair stays before another character than the second. -/
theorem replaceFrom_half (other : second ≠ c) :
    replaceFrom [first, second] replacement 0 (first :: c :: rest) =
      first :: replaceFrom [first, second] replacement 0 (c :: rest) := by
  have apart : ¬ [first, second].isPrefixOf (first :: c :: rest) = true := by simp [other]
  rw [replaceFrom, if_neg apart]

end Pairs

end ApiAdmission.Text
