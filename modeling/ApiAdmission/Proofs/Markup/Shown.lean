import ApiAdmission.Markup.Render
import ApiAdmission.Proofs.Outcome
import Mathlib.Data.List.Infix

/-!
# What is shown of markup

Markup is read from the front, with a number of backslashes pending.  What it shows follows step by
step from its first character (`showFrom_backslash` and the equations behind it): a tag halves the
backslashes before it and disappears, or is shown if their number is odd; a bracket that begins no
tag takes one backslash away; everything else is shown as it stands.

So markup shows nothing but its own characters in their order (`sublist_of_showFrom`), and it shows
all of them exactly if nothing in it is read in one of these ways (`showFrom_eq_self_iff`).  What
reaches a terminal is free of characters that move the cursor and of tabulators (`steady_settle`),
and a text without them reaches it unchanged.
-/

namespace ApiAdmission.Markup

set_option autoImplicit false

variable {opened : List String} {pending count other : Nat} {c d : Char}
  {content rest text shown after behind : List Char}

/-! ## Step by step -/

theorem map_nil_append (outcome : Except Breakdown (List Char)) :
    outcome.map ([] ++ ·) = outcome := by
  cases outcome <;> rfl

theorem map_map {α β γ : Type} (outcome : Except Breakdown α) (first : α → β) (second : β → γ) :
    (outcome.map first).map second = outcome.map fun value => second (first value) := by
  cases outcome <;> rfl

/-- Markup is read from the front, with the backslashes pending that have been read last: a
character is a backslash, it begins a tag, it is a bracket that begins none, or it is any other
one. -/
@[elab_as_elim]
theorem markup_induction {motive : Nat → List Char → Prop} (nil : ∀ pending, motive pending [])
    (backslash : ∀ pending rest, motive (pending + 1) rest → motive pending ('\\' :: rest))
    (tag : ∀ pending rest content, tagContent? rest = some content → motive 0 rest →
      motive pending ('[' :: rest))
    (bracket : ∀ pending rest, tagContent? rest = none → motive 0 rest →
      motive pending ('[' :: rest))
    (plain : ∀ pending c rest, c ≠ '\\' → c ≠ '[' → motive 0 rest → motive pending (c :: rest))
    (pending : Nat) (text : List Char) : motive pending text := by
  induction text generalizing pending with
  | nil => exact nil pending
  | cons c rest ih =>
    by_cases isBackslash : c = '\\'
    · subst isBackslash
      exact backslash pending rest (ih (pending + 1))
    by_cases isBracket : c = '['
    · subst isBracket
      cases found : tagContent? rest with
      | none => exact bracket pending rest found (ih 0)
      | some content => exact tag pending rest content found (ih 0)
    · exact plain pending c rest isBackslash isBracket (ih 0)

/-- What markup shows behind so many backslashes, while tags are open. -/
def showFrom (opened : List String) (pending : Nat) (markup : List Char) :
    Except Breakdown (List Char) :=
  showPieces opened (piecesFrom pending 0 markup)

theorem piecesFrom_skip (count : Nat) (markup : List Char) :
    piecesFrom 0 count markup = piecesFrom 0 0 (markup.drop count) := by
  induction markup generalizing count with
  | nil => cases count <;> rfl
  | cons c rest ih =>
    cases count with
    | zero => rfl
    | succ count => exact ih count

theorem showPieces_shown (opened : List String) (text : List Char) (rest : List Piece) :
    showPieces opened (.shown text :: rest) = (showPieces opened rest).map (text ++ ·) := by
  rw [showPieces]
  cases showPieces opened rest <;> rfl

theorem showFrom_nil : showFrom opened pending [] = .ok (backslashes pending) := by
  simp [showFrom, piecesFrom, showPieces_shown, showPieces, Except.map]

theorem showFrom_backslash :
    showFrom opened pending ('\\' :: rest) = showFrom opened (pending + 1) rest := rfl

theorem showFrom_plain (noBackslash : c ≠ '\\') (noBracket : c ≠ '[') :
    showFrom opened pending (c :: rest) =
      (showFrom opened 0 rest).map (backslashes pending ++ c :: ·) := by
  unfold showFrom
  rw [piecesFrom, if_neg (by simpa using noBackslash), if_neg (by simpa using noBracket),
    showPieces_shown]
  simp

theorem showFrom_bracket (noTag : tagContent? rest = none) :
    showFrom opened pending ('[' :: rest) =
      (showFrom opened 0 rest).map (backslashes (pending - 1) ++ '[' :: ·) := by
  unfold showFrom
  rw [piecesFrom, if_neg (by decide), if_pos (by decide), noTag, showPieces_shown]
  simp

theorem showFrom_evenTag (tag : tagContent? rest = some content) (even : pending % 2 = 0) :
    showFrom opened pending ('[' :: rest) =
      (follow opened content >>= fun opened =>
        showFrom opened 0 (rest.drop (content.length + 1))).map
          (backslashes (pending / 2) ++ ·) := by
  unfold showFrom
  rw [piecesFrom, if_neg (by decide), if_pos (by decide), tag]
  dsimp only
  rw [if_pos (by simpa using even), showPieces_shown, showPieces, piecesFrom_skip]

theorem showFrom_oddTag (tag : tagContent? rest = some content) (odd : pending % 2 ≠ 0) :
    showFrom opened pending ('[' :: rest) =
      (showFrom opened 0 rest).map (backslashes (pending / 2) ++ '[' :: ·) := by
  unfold showFrom
  rw [piecesFrom, if_neg (by decide), if_pos (by decide), tag]
  dsimp only
  rw [if_neg (by simpa using odd), showPieces_shown]
  simp

theorem showFrom_backslashes (count : Nat) :
    showFrom opened pending (backslashes count ++ rest) =
      showFrom opened (pending + count) rest := by
  induction count generalizing pending with
  | zero => rfl
  | succ count ih =>
    show showFrom opened (pending + 1) (backslashes count ++ rest) = _
    rw [ih, Nat.add_right_comm, Nat.add_assoc]

/-- No character of a text is read as markup: it has no backslashes and no opening brackets. -/
def Unread (text : List Char) : Prop := ∀ c ∈ text, c ≠ '\\' ∧ c ≠ '['

instance (text : List Char) : Decidable (Unread text) :=
  List.decidableBAll (fun c => c ≠ '\\' ∧ c ≠ '[') text

theorem unread_cons : Unread (c :: text) ↔ (c ≠ '\\' ∧ c ≠ '[') ∧ Unread text :=
  List.forall_mem_cons

theorem unread_append : Unread (text ++ rest) ↔ Unread text ∧ Unread rest :=
  List.forall_mem_append

theorem Unread.noBackslash (unread : Unread text) : '\\' ∉ text :=
  fun member => (unread _ member).1 rfl

/-- A text that is not read as markup shows itself. -/
theorem showFrom_append (unread : Unread text) :
    showFrom opened 0 (text ++ rest) = (showFrom opened 0 rest).map (text ++ ·) := by
  induction text with
  | nil => exact (map_nil_append _).symm
  | cons c text ih =>
    obtain ⟨⟨noBackslash, noBracket⟩, onward⟩ := unread_cons.mp unread
    rw [List.cons_append, showFrom_plain noBackslash noBracket, ih onward]
    exact map_map _ _ _

/-! ## Markup that shows itself -/

/-- Whether a tag begins at the front of a text. -/
def beginsTag : List Char → Bool
  | '[' :: rest => (tagContent? rest).isSome
  | _ => false

/-- No tag begins anywhere in a text, and no bracket stands right behind a backslash. -/
def IsLiteral (text : List Char) : Prop :=
  ∀ part ∈ text.tails, beginsTag part = false ∧ ¬ ['\\', '['] <+: part

instance (text : List Char) : Decidable (IsLiteral text) :=
  inferInstanceAs (Decidable (∀ part ∈ text.tails, _ ∧ _))

theorem isLiteral_cons :
    IsLiteral (c :: text) ↔
      beginsTag (c :: text) = false ∧ ¬ ['\\', '['] <+: c :: text ∧ IsLiteral text := by
  rw [IsLiteral, List.tails_cons, List.forall_mem_cons, and_assoc]
  rfl

theorem isLiteral_plain (noBackslash : c ≠ '\\') (noBracket : c ≠ '[') :
    IsLiteral (c :: text) ↔ IsLiteral text := by
  rw [isLiteral_cons]
  simp [beginsTag, noBracket, Ne.symm noBackslash]

theorem isLiteral_bracket :
    IsLiteral ('[' :: text) ↔ tagContent? text = none ∧ IsLiteral text := by
  rw [isLiteral_cons]
  simp [beginsTag]

theorem isLiteral_of_unread (unread : Unread text) : IsLiteral text := by
  induction text with
  | nil => simp [IsLiteral, beginsTag]
  | cons c text ih =>
    obtain ⟨⟨noBackslash, noBracket⟩, onward⟩ := unread_cons.mp unread
    rw [isLiteral_plain noBackslash noBracket]
    exact ih onward

theorem backslashes_succ_append :
    backslashes (count + 1) ++ text = backslashes count ++ '\\' :: text := by
  simp [backslashes, List.replicate_succ']

/-- Backslashes in front of a literal text do no harm unless it begins with a bracket. -/
theorem isLiteral_backslashes_append (noBracket : text.head? ≠ some '[') :
    IsLiteral (backslashes count ++ text) ↔ IsLiteral text := by
  induction count with
  | zero => rfl
  | succ count ih =>
    rw [← ih]
    show IsLiteral ('\\' :: (backslashes count ++ text)) ↔ _
    have harmless : ¬ ['\\', '['] <+: '\\' :: (backslashes count ++ text) := by
      rw [List.cons_prefix_cons]
      rintro ⟨-, begins⟩
      cases count with
      | zero =>
        obtain ⟨after, rfl⟩ := begins
        exact noBracket rfl
      | succ count => cases begins with | intro after same => cases same
    rw [isLiteral_cons]
    simp [beginsTag, harmless]

theorem not_isLiteral_backslash_bracket :
    ¬ IsLiteral (backslashes (count + 1) ++ '[' :: text) := by
  rw [backslashes_succ_append]
  intro literal
  have member : '\\' :: '[' :: text ∈ (backslashes count ++ '\\' :: '[' :: text).tails :=
    (List.mem_tails _ _).mpr (List.suffix_append _ _)
  exact (literal _ member).2 ⟨text, rfl⟩

/-- **A literal text shows itself**, whatever tags are open. -/
theorem showFrom_of_isLiteral (literal : IsLiteral (backslashes pending ++ text)) :
    showFrom opened pending text = .ok (backslashes pending ++ text) := by
  induction pending, text using markup_induction with
  | nil pending => rw [showFrom_nil, List.append_nil]
  | backslash pending rest ih =>
    rw [← backslashes_succ_append] at literal ⊢
    exact ih literal
  | tag pending rest content found =>
    cases pending with
    | zero => cases found.symm.trans (isLiteral_bracket.mp literal).1
    | succ pending => exact absurd literal not_isLiteral_backslash_bracket
  | bracket pending rest noTag ih =>
    cases pending with
    | zero =>
      have shows : showFrom opened 0 rest = .ok rest := ih (isLiteral_bracket.mp literal).2
      rw [showFrom_bracket noTag, shows]
      rfl
    | succ pending => exact absurd literal not_isLiteral_backslash_bracket
  | plain pending c rest noBackslash noBracket ih =>
    rw [isLiteral_backslashes_append (by simpa using noBracket),
      isLiteral_plain noBackslash noBracket] at literal
    have shows : showFrom opened 0 rest = .ok rest := ih literal
    rw [showFrom_plain noBackslash noBracket, shows]
    rfl

theorem backslashes_append_cons_iff (noBackslash : c ≠ '\\') (noOther : d ≠ '\\') :
    backslashes count ++ c :: after = backslashes other ++ d :: behind ↔
      count = other ∧ c = d ∧ after = behind := by
  induction count generalizing other with
  | zero =>
    cases other with
    | zero => simp [backslashes]
    | succ other => simp [backslashes, List.replicate_succ, noBackslash]
  | succ count ih =>
    cases other with
    | zero => simp [backslashes, List.replicate_succ, Ne.symm noOther]
    | succ other =>
      show '\\' :: (backslashes count ++ _) = '\\' :: (backslashes other ++ _) ↔ _
      rw [List.cons.injEq, ih]
      simp

theorem backslashes_sublist {few many : Nat} (fewer : few ≤ many) :
    (backslashes few).Sublist (backslashes many) :=
  (List.replicate_sublist_replicate '\\').mpr fewer

/-- **Markup shows nothing but its own characters**, in their order. -/
theorem sublist_of_showFrom (shows : showFrom opened pending text = .ok shown) :
    shown.Sublist (backslashes pending ++ text) := by
  -- A tag is skipped as a whole, so the induction is on the length.
  induction size : text.length using Nat.strong_induction_on
    generalizing text opened pending shown with
  | _ bound ih =>
  cases text with
  | nil =>
    rw [showFrom_nil] at shows
    cases shows
    simp
  | cons c rest =>
    rw [List.length_cons] at size
    have shorter : rest.length < bound := by omega
    by_cases isBackslash : c = '\\'
    · subst isBackslash
      rw [showFrom_backslash] at shows
      rw [← backslashes_succ_append]
      exact ih rest.length shorter shows rfl
    by_cases isBracket : c = '['
    · subst isBracket
      cases tag : tagContent? rest with
      | none =>
        rw [showFrom_bracket tag] at shows
        obtain ⟨after, showsRest, rfl⟩ := map_eq_ok_iff.mp shows
        have onward := ih rest.length shorter showsRest rfl
        exact (backslashes_sublist (Nat.sub_le pending 1)).append (onward.cons_cons '[')
      | some content =>
        by_cases even : pending % 2 = 0
        · rw [showFrom_evenTag tag even] at shows
          obtain ⟨after, showsRest, rfl⟩ := map_eq_ok_iff.mp shows
          obtain ⟨left, -, showsRest⟩ := bind_eq_ok_iff.mp showsRest
          have fewer : (rest.drop (content.length + 1)).length ≤ rest.length := by simp
          have onward := ih _ (by omega) showsRest rfl
          exact (backslashes_sublist (Nat.div_le_self pending 2)).append
            ((onward.trans (List.drop_sublist _ rest)).cons '[')
        · rw [showFrom_oddTag tag even] at shows
          obtain ⟨after, showsRest, rfl⟩ := map_eq_ok_iff.mp shows
          have onward := ih rest.length shorter showsRest rfl
          exact (backslashes_sublist (Nat.div_le_self pending 2)).append (onward.cons_cons '[')
    · rw [showFrom_plain isBackslash isBracket] at shows
      obtain ⟨after, showsRest, rfl⟩ := map_eq_ok_iff.mp shows
      have onward := ih rest.length shorter showsRest rfl
      exact (List.Sublist.refl _).append (onward.cons_cons c)

/-- Of a tag, or of the backslashes before it, at least one character is not shown. -/
theorem length_of_showFrom_tag (tag : tagContent? rest = some content)
    (shows : showFrom opened pending ('[' :: rest) = .ok shown) :
    shown.length < pending + (rest.length + 1) := by
  by_cases even : pending % 2 = 0
  · rw [showFrom_evenTag tag even] at shows
    obtain ⟨after, showsRest, rfl⟩ := map_eq_ok_iff.mp shows
    obtain ⟨left, -, showsRest⟩ := bind_eq_ok_iff.mp showsRest
    have atMost : after.length ≤ rest.length :=
      ((sublist_of_showFrom showsRest).trans (List.drop_sublist _ rest)).length_le
    rw [List.length_append, backslashes, List.length_replicate]
    omega
  · rw [showFrom_oddTag tag even] at shows
    obtain ⟨after, showsRest, rfl⟩ := map_eq_ok_iff.mp shows
    have atMost : after.length ≤ rest.length := (sublist_of_showFrom showsRest).length_le
    rw [List.length_append, backslashes, List.length_replicate, List.length_cons]
    omega

/-- Only literal text shows itself. -/
theorem isLiteral_of_showFrom
    (shows : showFrom opened pending text = .ok (backslashes pending ++ text)) :
    IsLiteral (backslashes pending ++ text) := by
  induction pending, text using markup_induction with
  | nil pending =>
    rw [isLiteral_backslashes_append (by simp)]
    exact isLiteral_of_unread nofun
  | backslash pending rest ih =>
    rw [← backslashes_succ_append] at shows ⊢
    exact ih shows
  | tag pending rest content found =>
    have less := length_of_showFrom_tag found shows
    rw [List.length_append, backslashes, List.length_replicate, List.length_cons] at less
    exact absurd less (Nat.lt_irrefl _)
  | bracket pending rest noTag ih =>
    rw [showFrom_bracket noTag] at shows
    obtain ⟨after, showsRest, same⟩ := map_eq_ok_iff.mp shows
    obtain ⟨count, -, rfl⟩ := (backslashes_append_cons_iff (by decide) (by decide)).mp same
    obtain rfl : pending = 0 := by omega
    exact isLiteral_bracket.mpr ⟨noTag, ih showsRest⟩
  | plain pending c rest noBackslash noBracket ih =>
    rw [showFrom_plain noBackslash noBracket] at shows
    obtain ⟨after, showsRest, same⟩ := map_eq_ok_iff.mp shows
    obtain ⟨-, -, rfl⟩ := (backslashes_append_cons_iff noBackslash noBackslash).mp same
    rw [isLiteral_backslashes_append (by simpa using noBracket),
      isLiteral_plain noBackslash noBracket]
    exact ih showsRest

/-- **Which markup shows itself**: literal texts, and no others. -/
theorem showFrom_eq_self_iff : showFrom opened 0 text = .ok text ↔ IsLiteral text :=
  ⟨fun shows => isLiteral_of_showFrom shows, fun literal => showFrom_of_isLiteral literal⟩

/-! ## On a terminal -/

/-- No character of a text moves the cursor or leads to another column. -/
def Steady (text : List Char) : Prop := ∀ c ∈ text, movesCursor c = false ∧ c ≠ '\t'

instance (text : List Char) : Decidable (Steady text) :=
  List.decidableBAll (fun c => movesCursor c = false ∧ c ≠ '\t') text

theorem steady_cons : Steady (c :: text) ↔ (movesCursor c = false ∧ c ≠ '\t') ∧ Steady text :=
  List.forall_mem_cons

theorem steady_append : Steady (text ++ rest) ↔ Steady text ∧ Steady rest :=
  List.forall_mem_append

/-- What reaches the terminal of a text. -/
def settle (text : List Char) : List Char := expandTabs 0 (text.filter fun c => !movesCursor c)

theorem render_eq (markup : String) :
    render markup = (showFrom [] 0 markup.toList).map fun text => String.ofList (settle text) := by
  unfold render showFrom pieces
  cases showPieces [] (piecesFrom 0 0 markup.toList) <;> rfl

theorem expandTabs_of_steady (steady : Steady text) (column : Nat) :
    expandTabs column text = text := by
  induction text generalizing column with
  | nil => rfl
  | cons c rest ih =>
    obtain ⟨⟨-, noTab⟩, steady⟩ := steady_cons.mp steady
    rw [expandTabs, ih steady, ih steady, if_neg (by simpa using noTab : ¬ (c == '\t') = true)]
    split <;> rfl

theorem settle_of_steady (steady : Steady text) : settle text = text := by
  rw [settle, List.filter_eq_self.mpr fun c member => by simp [(steady c member).1],
    expandTabs_of_steady steady]

theorem steady_expandTabs (still : ∀ c ∈ text, movesCursor c = false) (column : Nat) :
    Steady (expandTabs column text) := by
  induction text generalizing column with
  | nil => exact nofun
  | cons c rest ih =>
    obtain ⟨first, stillRest⟩ := List.forall_mem_cons.mp still
    rw [expandTabs]
    by_cases newline : c = '\n'
    · subst newline
      exact steady_cons.mpr ⟨by decide, ih stillRest 0⟩
    by_cases tab : c = '\t'
    · subst tab
      refine steady_append.mpr ⟨fun c blank => ?_, ih stillRest _⟩
      rw [List.eq_of_mem_replicate blank]
      decide
    · rw [if_neg (by simpa using newline), if_neg (by simpa using tab)]
      exact steady_cons.mpr ⟨⟨first, tab⟩, ih stillRest _⟩

/-- **What reaches a terminal is steady.** -/
theorem steady_settle (text : List Char) : Steady (settle text) :=
  steady_expandTabs (fun c member => by simpa using (List.mem_filter.mp member).2) 0

theorem steady_backslashes (count : Nat) : Steady (backslashes count) := fun c member => by
  rw [List.eq_of_mem_replicate member]
  decide

/-- What is shown of a steady text is steady. -/
theorem Steady.of_showFrom (steady : Steady text) (shows : showFrom opened 0 text = .ok shown) :
    Steady shown :=
  fun c member => steady c ((sublist_of_showFrom shows).subset member)

/-- A text that markup and a terminal leave as it is, wherever it stands. -/
def Harmless (text : List Char) : Prop := Steady text ∧ Unread text

instance (text : List Char) : Decidable (Harmless text) := inferInstanceAs (Decidable (_ ∧ _))

theorem harmless_append : Harmless (text ++ rest) ↔ Harmless text ∧ Harmless rest := by
  rw [Harmless, steady_append, unread_append, and_and_and_comm]
  rfl

/-- A text that reaches a terminal as it stands, although it is read as markup. -/
def Verbatim (text : String) : Prop := Steady text.toList ∧ IsLiteral text.toList

instance (text : String) : Decidable (Verbatim text) := inferInstanceAs (Decidable (_ ∧ _))

end ApiAdmission.Markup
