import ApiAdmission.Proofs.Markup.Shown

/-!
# What is shown of an escaped text

Escaping keeps tags from being read: whatever follows an escaped text, its tags are shown, with the
backslashes before them (`showFrom_escape`).  Two things are lost all the same.  A bracket that
begins no tag is not escaped, and takes a backslash before it away.  And the backslashes at the end
of a text belong to what follows, which may be a tag or nothing; a single one is doubled, as for a
tag.  So what is shown agrees with the text up to its end exactly if each bracket behind a backslash
begins a tag (`seenFrom_append_iff`).
-/

namespace ApiAdmission.Markup

set_option autoImplicit false

variable {opened : List String} {pending count : Nat} {c : Char}
  {content rest tail text : List Char}

/-! ## What ends no tag -/

/-- No tag that begins before a text, or right where it begins, ends in it. -/
structure Quiet (text : List Char) : Prop where
  noEnd : untilClosing? text = none
  noContent : tagContent? text = none

theorem quiet_of_notMem (noClosing : ']' ∉ text) : Quiet text := by
  have noEnd : ∀ rest : List Char, ']' ∉ rest → untilClosing? rest = none := by
    intro rest absent
    induction rest with
    | nil => rfl
    | cons c rest ih =>
      rw [List.mem_cons, not_or] at absent
      rw [untilClosing?, if_neg (by simpa using Ne.symm absent.1), ih absent.2]
      split <;> rfl
  refine ⟨noEnd text noClosing, ?_⟩
  cases text with
  | nil => rfl
  | cons c rest =>
    rw [tagContent?, noEnd rest fun member => noClosing (List.mem_cons_of_mem _ member)]
    split <;> rfl

theorem quiet_bracket (rest : List Char) : Quiet ('[' :: rest) := ⟨rfl, rfl⟩

theorem Quiet.behind_backslash (quiet : Quiet text) : Quiet ('\\' :: text) where
  noEnd := by
    rw [untilClosing?, quiet.noEnd]
    rfl
  noContent := rfl

theorem isSome_untilClosing?_cons (noClosing : c ≠ ']') (noBracket : c ≠ '[') :
    (untilClosing? (c :: text)).isSome = (untilClosing? text).isSome := by
  rw [untilClosing?, if_neg (by simpa using noClosing), if_neg (by simpa using noBracket),
    Option.isSome_map]

theorem isSome_untilClosing?_backslashes_append (count : Nat) :
    (untilClosing? (backslashes count ++ text)).isSome = (untilClosing? text).isSome := by
  induction count with
  | zero => rfl
  | succ count ih =>
    show (untilClosing? ('\\' :: (backslashes count ++ text))).isSome = _
    rw [isSome_untilClosing?_cons (by decide) (by decide), ih]

theorem isSome_untilClosing?_append (quiet : Quiet rest) :
    (untilClosing? (text ++ rest)).isSome = (untilClosing? text).isSome := by
  induction text with
  | nil => rw [List.nil_append, quiet.noEnd, untilClosing?]
  | cons c text ih =>
    by_cases closing : c = ']'
    · subst closing
      rfl
    by_cases bracket : c = '['
    · subst bracket
      rfl
    · rw [List.cons_append, isSome_untilClosing?_cons closing bracket,
        isSome_untilClosing?_cons closing bracket, ih]

theorem isSome_tagContent?_append (quiet : Quiet rest) :
    (tagContent? (text ++ rest)).isSome = (tagContent? text).isSome := by
  cases text with
  | nil => rw [List.nil_append, quiet.noContent, tagContent?]
  | cons c text =>
    rw [List.cons_append, tagContent?, tagContent?]
    by_cases starts : startsTag c = true
    · rw [if_pos starts, if_pos starts, Option.isSome_map, Option.isSome_map,
        isSome_untilClosing?_append quiet]
    · rw [if_neg starts, if_neg starts]

/-! ## Guarded brackets -/

/-- Every bracket right behind a backslash begins a tag. -/
def Guarded (text : List Char) : Prop :=
  ∀ part ∈ text.tails, ['\\', '['] <+: part → beginsTag part.tail = true

instance (text : List Char) : Decidable (Guarded text) :=
  inferInstanceAs (Decidable (∀ part ∈ text.tails, _ → _))

theorem guarded_cons :
    Guarded (c :: text) ↔
      (['\\', '['] <+: c :: text → beginsTag text = true) ∧ Guarded text := by
  rw [Guarded, List.tails_cons, List.forall_mem_cons]
  rfl

theorem guarded_of_ne (noBackslash : c ≠ '\\') : Guarded (c :: text) ↔ Guarded text := by
  rw [guarded_cons]
  simp [Ne.symm noBackslash]

/-- Backslashes in front of a text do no harm unless it begins with a bracket. -/
theorem guarded_backslashes_append (noBracket : text.head? ≠ some '[') :
    Guarded (backslashes count ++ text) ↔ Guarded text := by
  induction count with
  | zero => rfl
  | succ count ih =>
    rw [← ih]
    show Guarded ('\\' :: (backslashes count ++ text)) ↔ _
    rw [guarded_cons]
    refine and_iff_right fun begins => ?_
    obtain ⟨-, begins⟩ := List.cons_prefix_cons.mp begins
    cases count with
    | zero =>
      obtain ⟨after, rfl⟩ := begins
      exact absurd rfl noBracket
    | succ count => cases begins with | intro after same => cases same

theorem guarded_bracket :
    Guarded (backslashes (count + 1) ++ '[' :: text) ↔
      (tagContent? text).isSome = true ∧ Guarded text := by
  rw [backslashes_succ_append]
  have inner : Guarded ('\\' :: '[' :: text) ↔
      (tagContent? text).isSome = true ∧ Guarded text := by
    rw [guarded_cons, guarded_of_ne (by decide)]
    simp [beginsTag]
  rw [guarded_backslashes_append (by simp), inner]

theorem guarded_of_unread (unread : Unread text) : Guarded text := by
  induction text with
  | nil => simp [Guarded]
  | cons c text ih =>
    obtain ⟨⟨noBackslash, -⟩, onward⟩ := unread_cons.mp unread
    exact (guarded_of_ne noBackslash).mpr (ih onward)

theorem guarded_append_left {front : List Char} (unread : Unread front) :
    Guarded (front ++ text) ↔ Guarded text := by
  induction front with
  | nil => rfl
  | cons c front ih =>
    obtain ⟨⟨noBackslash, -⟩, onward⟩ := unread_cons.mp unread
    rw [List.cons_append, guarded_of_ne noBackslash, ih onward]

/-- What stands behind a text makes no difference unless it has brackets or backslashes. -/
theorem guarded_append_right (unread : Unread rest) (noClosing : ']' ∉ rest) :
    Guarded (text ++ rest) ↔ Guarded text := by
  have quiet : Quiet rest := quiet_of_notMem noClosing
  have noHead : ¬ ['['] <+: rest := by
    rintro ⟨after, rfl⟩
    exact (unread _ List.mem_cons_self).2 rfl
  induction text with
  | nil => exact iff_of_true (guarded_of_unread unread) (guarded_of_unread nofun)
  | cons c text ih =>
    rw [List.cons_append, guarded_cons, guarded_cons]
    refine and_congr ?_ ih
    cases text with
    | nil => simp [List.cons_prefix_cons, noHead]
    | cons d text =>
      by_cases bracket : d = '['
      · subst bracket
        simp [List.cons_prefix_cons, beginsTag, isSome_tagContent?_append quiet]
      · simp [List.cons_prefix_cons, Ne.symm bracket]

/-! ## Escaping -/

/-- How many backslashes a text ends with, behind so many. -/
def trailing (pending : Nat) : List Char → Nat
  | [] => pending
  | c :: rest => if c == '\\' then trailing (pending + 1) rest else trailing 0 rest

/-- What is shown of an escaped text behind so many backslashes, without those at its end. -/
def seenFrom (pending : Nat) : List Char → List Char
  | [] => []
  | c :: rest =>
    if c == '\\' then seenFrom (pending + 1) rest
    else if c == '[' && (tagContent? rest).isNone then
      backslashes (pending - 1) ++ '[' :: seenFrom 0 rest
    else backslashes pending ++ c :: seenFrom 0 rest

theorem trailing_of_ne (noBackslash : c ≠ '\\') :
    trailing pending (c :: rest) = trailing 0 rest := by
  rw [trailing, if_neg (by simpa using noBackslash)]

theorem seenFrom_bracket (noTag : tagContent? rest = none) :
    seenFrom pending ('[' :: rest) = backslashes (pending - 1) ++ '[' :: seenFrom 0 rest := by
  rw [seenFrom, if_neg (by decide), if_pos (by simp [noTag])]

theorem seenFrom_tag (tag : tagContent? rest = some content) :
    seenFrom pending ('[' :: rest) = backslashes pending ++ '[' :: seenFrom 0 rest := by
  rw [seenFrom, if_neg (by decide), if_neg (by simp [tag])]

theorem seenFrom_plain (noBackslash : c ≠ '\\') (noBracket : c ≠ '[') :
    seenFrom pending (c :: rest) = backslashes pending ++ c :: seenFrom 0 rest := by
  rw [seenFrom, if_neg (by simpa using noBackslash), if_neg (by simp [noBracket])]

theorem escapeFrom_tag (tag : tagContent? rest = some content) :
    escapeFrom pending ('[' :: rest) =
      backslashes (2 * pending + 1) ++ '[' :: escapeFrom 0 rest := by
  rw [escapeFrom, if_neg (by decide), if_pos (by simp [tag])]

theorem escapeFrom_bracket (noTag : tagContent? rest = none) :
    escapeFrom pending ('[' :: rest) = backslashes pending ++ '[' :: escapeFrom 0 rest := by
  rw [escapeFrom, if_neg (by decide), if_neg (by simp [noTag])]

theorem escapeFrom_plain (noBackslash : c ≠ '\\') (noBracket : c ≠ '[') :
    escapeFrom pending (c :: rest) = backslashes pending ++ c :: escapeFrom 0 rest := by
  rw [escapeFrom, if_neg (by simpa using noBackslash), if_neg (by simp [noBracket])]

/-- The tag that a bracket in front of a text begins ends in the text or nowhere, escaped or not:
escaping adds backslashes before brackets only. -/
theorem isSome_untilClosing?_escapeFrom (quiet : Quiet tail) :
    (untilClosing? (escapeFrom pending text ++ tail)).isSome = (untilClosing? text).isSome := by
  have stops : ∀ count more rest, (untilClosing? (backslashes count ++ '[' :: more)).isSome =
      (untilClosing? ('[' :: rest)).isSome := fun count more rest =>
    isSome_untilClosing?_backslashes_append count
  induction pending, text using markup_induction with
  | nil pending =>
    rw [escapeFrom, isSome_untilClosing?_backslashes_append, quiet.noEnd, untilClosing?]
  | backslash pending rest ih =>
    rw [isSome_untilClosing?_cons (by decide) (by decide)]
    exact ih
  | tag pending rest content found =>
    rw [escapeFrom_tag found, List.append_assoc, List.cons_append, stops]
  | bracket pending rest noTag =>
    rw [escapeFrom_bracket noTag, List.append_assoc, List.cons_append, stops]
  | plain pending c rest noBackslash noBracket ih =>
    rw [escapeFrom_plain noBackslash noBracket, List.append_assoc, List.cons_append,
      isSome_untilClosing?_backslashes_append]
    by_cases closing : c = ']'
    · subst closing
      rfl
    · rw [isSome_untilClosing?_cons closing noBracket,
        isSome_untilClosing?_cons closing noBracket, ih]

theorem exists_escapeFrom_succ (pending : Nat) (text : List Char) :
    ∃ more, escapeFrom (pending + 1) text = '\\' :: more := by
  induction pending, text using markup_induction with
  | nil pending => exact ⟨backslashes pending, rfl⟩
  | backslash pending rest ih => exact ih
  | tag pending rest content found => exact ⟨_, escapeFrom_tag found⟩
  | bracket pending rest noTag => exact ⟨_, escapeFrom_bracket noTag⟩
  | plain pending c rest noBackslash noBracket =>
    exact ⟨_, escapeFrom_plain noBackslash noBracket⟩

/-- A bracket in front of a text begins a tag exactly if it does so in front of the escaped text. -/
theorem isSome_tagContent?_escapeFrom (quiet : Quiet tail) :
    (tagContent? (escapeFrom 0 text ++ tail)).isSome = (tagContent? text).isSome := by
  cases text with
  | nil =>
    show (tagContent? tail).isSome = _
    rw [quiet.noContent, tagContent?]
  | cons c rest =>
    by_cases isBackslash : c = '\\'
    · subst isBackslash
      obtain ⟨more, escaped⟩ := exists_escapeFrom_succ 0 rest
      show (tagContent? (escapeFrom 1 rest ++ tail)).isSome = _
      rw [escaped]
      rfl
    by_cases isBracket : c = '['
    · subst isBracket
      cases tag : tagContent? rest with
      | none =>
        rw [escapeFrom_bracket tag]
        rfl
      | some content =>
        rw [escapeFrom_tag tag]
        rfl
    · rw [escapeFrom_plain isBackslash isBracket]
      show (tagContent? (c :: (escapeFrom 0 rest ++ tail))).isSome = _
      rw [tagContent?, tagContent?]
      split
      · rw [Option.isSome_map, Option.isSome_map, isSome_untilClosing?_escapeFrom quiet]
      · rfl

/-- **What is shown of an escaped text** in front of a quiet one. -/
theorem showFrom_escapeFrom (quiet : Quiet tail) :
    showFrom opened 0 (escapeFrom pending text ++ tail) =
      (showFrom opened (trailing pending text) tail).map (seenFrom pending text ++ ·) := by
  have same : ∀ rest, (tagContent? (escapeFrom 0 rest ++ tail)).isSome =
      (tagContent? rest).isSome := fun rest => isSome_tagContent?_escapeFrom quiet
  induction pending, text using markup_induction with
  | nil pending =>
    rw [escapeFrom, showFrom_backslashes, Nat.zero_add]
    exact (map_nil_append _).symm
  | backslash pending rest ih => exact ih
  | tag pending rest content found ih =>
    obtain ⟨other, again⟩ := Option.isSome_iff_exists.mp ((same rest).trans (by rw [found]; rfl))
    have half : (2 * pending + 1) / 2 = pending := by omega
    rw [trailing_of_ne (by decide), escapeFrom_tag found, seenFrom_tag found, List.append_assoc,
      showFrom_backslashes, Nat.zero_add, List.cons_append, showFrom_oddTag again (by omega), half,
      ih, map_map]
    simp only [List.append_assoc, List.cons_append]
  | bracket pending rest noTag ih =>
    have again : tagContent? (escapeFrom 0 rest ++ tail) = none := by
      rw [← Option.isNone_iff_eq_none, ← Option.isSome_eq_false_iff, same rest, noTag]
      rfl
    rw [trailing_of_ne (by decide), escapeFrom_bracket noTag, seenFrom_bracket noTag,
      List.append_assoc, showFrom_backslashes, Nat.zero_add, List.cons_append,
      showFrom_bracket again, ih, map_map]
    simp only [List.append_assoc, List.cons_append]
  | plain pending c rest noBackslash noBracket ih =>
    rw [trailing_of_ne noBackslash, escapeFrom_plain noBackslash noBracket,
      seenFrom_plain noBackslash noBracket, List.append_assoc, showFrom_backslashes, Nat.zero_add,
      List.cons_append, showFrom_plain noBackslash noBracket, ih, map_map]
    simp only [List.append_assoc, List.cons_append]

/-- **Where what is shown agrees with the text**: the brackets of the text are guarded, and behind
the backslashes at its end comes the same. -/
theorem seenFrom_append_iff {after behind : List Char} :
    seenFrom pending text ++ after = backslashes pending ++ text ++ behind ↔
      Guarded (backslashes pending ++ text) ∧
        after = backslashes (trailing pending text) ++ behind := by
  induction pending, text using markup_induction with
  | nil pending =>
    have guarded : Guarded (backslashes pending ++ []) :=
      (guarded_backslashes_append (by simp)).mpr (guarded_of_unread nofun)
    rw [and_iff_right guarded, List.append_nil]
    rfl
  | backslash pending rest ih =>
    rw [← backslashes_succ_append]
    exact ih
  | tag pending rest content found ih =>
    have guarded : Guarded (backslashes pending ++ '[' :: rest) ↔ Guarded rest := by
      cases pending with
      | zero => exact guarded_of_ne (by decide)
      | succ pending => rw [guarded_bracket, found, Option.isSome_some, and_iff_right rfl]
    rw [trailing_of_ne (by decide), seenFrom_tag found, guarded]
    simpa [backslashes] using ih
  | bracket pending rest noTag ih =>
    rw [trailing_of_ne (by decide), seenFrom_bracket noTag]
    cases pending with
    | zero => simpa [guarded_of_ne, backslashes] using ih
    | succ pending =>
      -- The bracket is shown where the text has its last backslash.
      refine iff_of_false ?_ ?_
      · rw [backslashes_succ_append]
        simp
      · rw [guarded_bracket, noTag]
        simp
  | plain pending c rest noBackslash noBracket ih =>
    rw [trailing_of_ne noBackslash, seenFrom_plain noBackslash noBracket,
      guarded_backslashes_append (by simpa using noBracket), guarded_of_ne noBackslash]
    simpa [backslashes] using ih

/-! ## The end of a text -/

/-- A text ends with so many backslashes, and no more. -/
def EndsWith (count : Nat) (text : List Char) : Prop :=
  ∃ front, text = front ++ backslashes count ∧ front.getLast? ≠ some '\\'

theorem endsWith_backslashes (count : Nat) : EndsWith count (backslashes count) :=
  ⟨[], rfl, nofun⟩

theorem EndsWith.behind (ends : EndsWith count text) (front : List Char) (noBackslash : c ≠ '\\') :
    EndsWith count (front ++ c :: text) := by
  obtain ⟨before, rfl, last⟩ := ends
  refine ⟨front ++ c :: before, by simp, ?_⟩
  cases before with
  | nil => simpa using noBackslash
  | cons d before => simpa using last

theorem endsWith_trailing :
    EndsWith (trailing pending text) (backslashes pending ++ text) := by
  induction text generalizing pending with
  | nil =>
    rw [List.append_nil]
    exact endsWith_backslashes pending
  | cons c rest ih =>
    by_cases isBackslash : c = '\\'
    · subst isBackslash
      rw [← backslashes_succ_append]
      exact ih
    · rw [trailing_of_ne isBackslash]
      exact EndsWith.behind (@ih 0) _ isBackslash

theorem endsWith_escapeFrom : EndsWith (trailing pending text) (escapeFrom pending text) := by
  induction pending, text using markup_induction with
  | nil pending => exact endsWith_backslashes pending
  | backslash pending rest ih => exact ih
  | tag pending rest content found ih =>
    rw [trailing_of_ne (by decide), escapeFrom_tag found]
    exact ih.behind _ (by decide)
  | bracket pending rest noTag ih =>
    rw [trailing_of_ne (by decide), escapeFrom_bracket noTag]
    exact ih.behind _ (by decide)
  | plain pending c rest noBackslash noBracket ih =>
    rw [trailing_of_ne noBackslash, escapeFrom_plain noBackslash noBracket]
    exact ih.behind _ noBackslash

/-- A text from its end: the backslashes, and behind them no other one. -/
theorem EndsWith.exists_reverse (ends : EndsWith count text) :
    ∃ before, text.reverse = backslashes count ++ before ∧ before.head? ≠ some '\\' := by
  obtain ⟨front, rfl, last⟩ := ends
  refine ⟨front.reverse, ?_, List.head?_reverse ▸ last⟩
  rw [List.reverse_append, backslashes, List.reverse_replicate]

theorem EndsWith.one_iff (ends : EndsWith count text) :
    endsWithOneBackslash text = true ↔ count = 1 := by
  obtain ⟨before, reversed, last⟩ := ends.exists_reverse
  rw [endsWithOneBackslash, reversed]
  match count, before with
  | 0, [] | 1, [] => simp [backslashes]
  | 0, c :: before | 1, c :: before =>
    have noBackslash : c ≠ '\\' := by simpa using last
    simp [backslashes, noBackslash]
  | count + 2, before => simp [backslashes, List.replicate_succ]

theorem EndsWith.two_iff (ends : EndsWith count text) : ['\\', '\\'] <:+ text ↔ 2 ≤ count := by
  obtain ⟨before, reversed, last⟩ := ends.exists_reverse
  rw [← List.reverse_prefix, reversed]
  match count, before with
  | 0, [] | 1, [] => simp [backslashes]
  | 0, c :: before | 1, c :: before =>
    have noBackslash : c ≠ '\\' := by simpa using last
    simp [backslashes, List.cons_prefix_cons, Ne.symm noBackslash]
  | count + 2, before => simp [backslashes, List.replicate_succ, List.cons_prefix_cons]

/-- How many backslashes stand at the end of an escaped text that ends with so many. -/
def doubled (count : Nat) : Nat := if count = 1 then 2 else count

theorem doubled_eq_self_iff : doubled count = count ↔ count ≠ 1 := by
  unfold doubled
  split <;> omega

/-- **What is shown of an escaped text**, in front of a quiet one that follows it. -/
theorem showFrom_escape (text : String) (quiet : Quiet tail) :
    showFrom opened 0 ((escape text).toList ++ tail) =
      (showFrom opened (doubled (trailing 0 text.toList)) tail).map
        (seenFrom 0 text.toList ++ ·) := by
  have ends : endsWithOneBackslash (escapeFrom 0 text.toList) = true ↔
      trailing 0 text.toList = 1 := endsWith_escapeFrom.one_iff
  unfold escape doubled
  rw [String.toList_ofList]
  by_cases single : trailing 0 text.toList = 1
  · rw [if_pos (ends.mpr single), if_pos single, List.append_assoc, List.singleton_append,
      showFrom_escapeFrom quiet.behind_backslash, showFrom_backslash, single]
  · rw [if_neg (mt ends.mp single), if_neg single, showFrom_escapeFrom quiet]

end ApiAdmission.Markup
