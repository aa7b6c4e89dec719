import ApiAdmission.Proofs.Text.Search
import Mathlib.Data.Nat.Init

/-!
# Replacing a part of a text everywhere

A part is replaced from left to right: where it begins the rest of the text it is replaced as a
whole, and elsewhere one character is kept (`Replaces`).  So the text consists of pieces that do not
contain the part, with the part between them, and the result of the same pieces with the replacement
between them (`Replaces.exists_pieces`).

The part may come about anew at a joint of a piece and a replacement.  It does not where its first
character stands nowhere else in it, and the replacement begins with the same character, has it
nowhere else and then goes on differently (`Departs`): such a result contains the part no more
(`Replaces.leaves_none`), and replacing again changes nothing.
-/

namespace ApiAdmission.Text

set_option autoImplicit false

/-- A text becomes another one when a part is replaced from left to right. -/
inductive Replaces (part replacement : List Char) : List Char → List Char → Prop where
  | nil : Replaces part replacement [] []
  /-- The part at the front is replaced. -/
  | occurrence {rest result : List Char} (others : Replaces part replacement rest result) :
      Replaces part replacement (part ++ rest) (replacement ++ result)
  /-- A character that does not begin the part is kept. -/
  | other {c : Char} {rest result : List Char} (apart : ¬ part <+: c :: rest)
      (others : Replaces part replacement rest result) :
      Replaces part replacement (c :: rest) (c :: result)

variable {part replacement text result : List Char}

/-! ## Replacing follows the rules -/

/-- Passing over characters is dropping them. -/
theorem replaceFrom_eq_drop (skip : Nat) (text : List Char) :
    replaceFrom part replacement skip text =
      replaceFrom part replacement 0 (text.drop skip) := by
  induction skip generalizing text with
  | zero => rfl
  | succ skip ih =>
    cases text with
    | nil => simp [replaceFrom]
    | cons c rest => exact ih rest

/-- The result of replacing has a derivation, by induction on the length of the text. -/
theorem replaces_replaceFrom (first : Char) (more text : List Char) :
    Replaces (first :: more) replacement text
      (replaceFrom (first :: more) replacement 0 text) := by
  induction size : text.length using Nat.strong_induction_on generalizing text with
  | _ _ ih =>
    subst size
    cases text with
    | nil => exact .nil
    | cons c rest =>
      rw [replaceFrom]
      split
      case isTrue begins =>
        obtain ⟨onward, whole⟩ := List.isPrefixOf_iff_prefix.mp begins
        have same : more ++ onward = rest := (List.cons.inj whole).2
        have shorter : onward.length < (c :: rest).length := by
          rw [← same, List.length_cons, List.length_append]
          omega
        have after : replaceFrom (first :: more) replacement more.length rest =
            replaceFrom (first :: more) replacement 0 onward := by
          rw [← same, replaceFrom_eq_drop, List.drop_left]
        rw [List.length_cons, Nat.add_sub_cancel, after, ← whole]
        exact .occurrence (ih _ shorter onward rfl)
      case isFalse apart =>
        refine .other (fun begins => apart (List.isPrefixOf_iff_prefix.mpr begins)) ?_
        exact ih _ (Nat.lt_succ_self _) rest rfl

/-! ## The pieces between the occurrences -/

theorem intercalate_cons (separator first : List Char) {others : List (List Char)}
    (some : others ≠ []) :
    separator.intercalate (first :: others) =
      first ++ (separator ++ separator.intercalate others) := by
  obtain ⟨next, more, rfl⟩ := List.exists_cons_of_ne_nil some
  simp [List.intercalate]

/-- **What stands between the occurrences is kept in its order**, and all occurrences are
replaced. -/
theorem Replaces.exists_pieces (some : part ≠ [])
    (replaces : Replaces part replacement text result) :
    ∃ pieces, pieces ≠ [] ∧ text = part.intercalate pieces ∧
      result = replacement.intercalate pieces ∧ ∀ piece ∈ pieces, ¬ part <:+: piece := by
  have free : ¬ part <:+: [] := fun inside => some (List.infix_nil.mp inside)
  induction replaces with
  | nil => exact ⟨[[]], by simp, by simp, by simp, by simpa using some⟩
  | occurrence _ ih =>
    obtain ⟨pieces, more, rfl, rfl, frees⟩ := ih
    refine ⟨[] :: pieces, by simp, ?_, ?_, ?_⟩
    · rw [intercalate_cons part [] more, List.nil_append]
    · rw [intercalate_cons replacement [] more, List.nil_append]
    · exact List.forall_mem_cons.mpr ⟨free, frees⟩
  | @other c rest result apart _ ih =>
    obtain ⟨pieces, more, rfl, rfl, frees⟩ := ih
    obtain ⟨first, others, rfl⟩ := List.exists_cons_of_ne_nil more
    obtain ⟨freeFirst, freeOthers⟩ := List.forall_mem_cons.mp frees
    have joined (separator : List Char) :
        separator.intercalate ((c :: first) :: others) =
          c :: separator.intercalate (first :: others) := by
      cases others <;> simp [List.intercalate]
    have begins : first <+: part.intercalate (first :: others) := by
      cases others with
      | nil => simp
      | cons next rest => simp
    refine ⟨(c :: first) :: others, by simp, (joined part).symm, (joined replacement).symm,
      List.forall_mem_cons.mpr ⟨fun inside => ?_, freeOthers⟩⟩
    rcases List.infix_cons_iff.mp inside with front | later
    · exact apart (front.trans (List.cons_prefix_cons.mpr ⟨rfl, begins⟩))
    · exact freeFirst later

/-! ## Replacing again -/

/-- A text without the part stays as it is. -/
theorem Replaces.eq_of_absent (replaces : Replaces part replacement text result)
    (absent : ¬ part <:+: text) : result = text := by
  induction replaces with
  | nil => rfl
  | occurrence => exact absurd (List.prefix_append _ _).isInfix absent
  | other _ _ ih => rw [ih fun inside => absent (List.infix_cons inside)]

/-- A replacement departs from a part after the character that both begin with, which stands nowhere
else in them. -/
structure Departs (mark : Char) (rest other : List Char) : Prop where
  once : mark ∉ rest
  onceToo : mark ∉ other
  notLonger : ¬ rest <+: other
  notShorter : ¬ other <+: rest

variable {mark : Char} {rest other : List Char}

/-- What lacks the mark and begins the result begins the text. -/
theorem Replaces.prefix_of_prefix {piece : List Char} (absent : mark ∉ piece)
    (replaces : Replaces part (mark :: other) text result) (begins : piece <+: result) :
    piece <+: text := by
  induction replaces generalizing piece with
  | nil => exact begins
  | occurrence =>
    cases piece with
    | nil => exact List.nil_prefix
    | cons first more =>
      obtain ⟨rfl, _⟩ := List.cons_prefix_cons.mp begins
      exact absurd List.mem_cons_self absent
  | other _ _ ih =>
    cases piece with
    | nil => exact List.nil_prefix
    | cons first more =>
      obtain ⟨rfl, onward⟩ := List.cons_prefix_cons.mp begins
      exact List.cons_prefix_cons.mpr
        ⟨rfl, ih (fun member => absent (List.mem_cons_of_mem _ member)) onward⟩

/-- **Where the replacement departs from the part, the result does not contain the part**: neither
what is left nor the joints form a new occurrence. -/
theorem Replaces.leaves_none (departs : Departs mark rest other)
    (replaces : Replaces (mark :: rest) (mark :: other) text result) :
    ¬ mark :: rest <:+: result := by
  have notInside {piece : List Char} (inside : mark :: piece <:+: other) : False :=
    departs.onceToo (inside.subset List.mem_cons_self)
  induction replaces with
  | nil => simp
  | @occurrence _ result _ ih =>
    intro inside
    rcases List.infix_cons_iff.mp inside with front | later
    · have onward := (List.cons_prefix_cons.mp front).2
      rcases List.prefix_or_prefix_of_prefix onward (List.prefix_append other result) with
        longer | shorter
      · exact departs.notLonger longer
      · exact departs.notShorter shorter
    · rcases infix_append_iff.mp later with within | after | ⟨start, _, whole, some, _, ends, _⟩
      · exact notInside within
      · exact ih after
      · obtain ⟨first, more, rfl⟩ := List.exists_cons_of_ne_nil some
        obtain ⟨rfl, _⟩ := List.cons.inj whole
        exact notInside ends.isInfix
  | other apart others ih =>
    intro inside
    rcases List.infix_cons_iff.mp inside with front | later
    · obtain ⟨rfl, onward⟩ := List.cons_prefix_cons.mp front
      exact apart (List.cons_prefix_cons.mpr ⟨rfl, others.prefix_of_prefix departs.once onward⟩)
    · exact ih later

end ApiAdmission.Text
