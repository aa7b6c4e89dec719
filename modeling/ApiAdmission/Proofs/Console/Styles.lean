import ApiAdmission.Console.Basic
import ApiAdmission.Proofs.Markup.Escaped

/-!
# Texts in styles

A style is put around a text by two tags of the same name.  A text without brackets and backslashes
is shown as it stands (`showFrom_styled_unread`).  An escaped text is followed by a tag there, so
half of the backslashes at its end are shown, and if their number is odd and more than one, then
the closing tag as well (`showFrom_styled_escape`).
-/

namespace ApiAdmission

set_option autoImplicit false

open Markup

variable {opened : List String} {pending count : Nat} {style : String}
  {content rest text after behind : List Char}

/-! ## Tags of styles -/

/-- No character of a text has a meaning in markup. -/
def IsWord (text : List Char) : Prop := ∀ c ∈ text, c ∉ ['[', ']', '\\', '=']

instance (text : List Char) : Decidable (IsWord text) :=
  List.decidableBAll (fun c => c ∉ ['[', ']', '\\', '=']) text

/-- A name of a style is the content of a tag, all of it is a name, and it has no blanks around. -/
structure IsStyleName (style : String) : Prop where
  begins : ∃ c inner, style.toList = c :: inner ∧ startsTag c = true ∧ c ≠ '/'
  plain : IsWord style.toList
  steady : Steady style.toList
  stripped : Text.strip style = style

theorem Severity.isStyleName (severity : Severity) : IsStyleName severity.style := by
  cases severity <;> exact ⟨⟨_, _, rfl, by decide, by decide⟩, by decide, by decide, by decide⟩

theorem Verdict.isStyleName (verdict : Verdict) : IsStyleName verdict.style := by
  cases verdict <;> exact ⟨⟨_, _, rfl, by decide, by decide⟩, by decide, by decide, by decide⟩

theorem isStyleName_of_mem (member : style ∈ ["bold", "dim", "green"]) : IsStyleName style := by
  simp only [List.mem_cons, List.not_mem_nil, or_false] at member
  rcases member with rfl | rfl | rfl <;>
    exact ⟨⟨_, _, rfl, by decide, by decide⟩, by decide, by decide, by decide⟩

theorem untilClosing?_append_closing (noBracket : '[' ∉ content) (noClosing : ']' ∉ content) :
    untilClosing? (content ++ ']' :: rest) = some content := by
  induction content with
  | nil => rfl
  | cons c content ih =>
    rw [List.mem_cons, not_or] at noBracket noClosing
    rw [List.cons_append, untilClosing?, if_neg (by simpa using Ne.symm noClosing.1),
      if_neg (by simpa using Ne.symm noBracket.1), ih noBracket.2 noClosing.2]
    rfl

theorem cutAt_of_notMem {separator : Char} (absent : separator ∉ text) :
    Text.cutAt separator text = (text, none) := by
  induction text with
  | nil => rfl
  | cons c text ih =>
    rw [List.mem_cons, not_or] at absent
    rw [Text.cutAt, if_neg (by simpa using Ne.symm absent.1), ih absent.2]

namespace IsStyleName

variable (named : IsStyleName style)
include named

theorem notMem {c : Char} (special : c ∈ ['[', ']', '\\', '=']) : c ∉ style.toList :=
  fun member => named.plain c member special

theorem unread : Unread style.toList := fun c member => by
  refine ⟨?_, ?_⟩ <;> rintro rfl <;> exact named.plain _ member (by decide)

theorem tagContent? : tagContent? (style.toList ++ ']' :: rest) = some style.toList := by
  obtain ⟨c, inner, whole, starts, -⟩ := named.begins
  have noBracket := named.notMem (c := '[') (by decide)
  have noClosing := named.notMem (c := ']') (by decide)
  rw [whole, List.mem_cons, not_or] at noBracket noClosing
  rw [whole, List.cons_append, Markup.tagContent?, if_pos starts,
    untilClosing?_append_closing noBracket.2 noClosing.2]
  rfl

theorem tagContent?_closing :
    Markup.tagContent? ('/' :: (style.toList ++ ']' :: rest)) = some ('/' :: style.toList) := by
  rw [Markup.tagContent?, if_pos (by decide),
    untilClosing?_append_closing (named.notMem (by decide)) (named.notMem (by decide))]
  rfl

theorem follow_opening :
    follow opened style.toList = .ok (Style.canonical style :: opened) := by
  obtain ⟨c, inner, whole, -, noSlash⟩ := named.begins
  have name : tagName style.toList = style.toList :=
    congrArg Prod.fst (cutAt_of_notMem (named.notMem (by decide)))
  unfold follow
  rw [name]
  split
  case h_1 slashed =>
    rw [whole] at slashed
    exact absurd (List.cons.inj slashed).1 noSlash
  case h_2 => rw [String.ofList_toList]

theorem follow_closing :
    follow (Style.canonical style :: opened) ('/' :: style.toList) = .ok opened := by
  obtain ⟨c, inner, whole, -⟩ := named.begins
  have name : tagName ('/' :: style.toList) = '/' :: style.toList := by
    refine congrArg Prod.fst (cutAt_of_notMem ?_)
    simpa using named.notMem (c := '=') (by decide)
  have some : style ≠ "" := by
    rintro rfl
    cases whole
  unfold follow
  rw [name]
  simp [named.stripped, some, closeStyle?]

/-- An opening tag is not shown, and it opens its style. -/
theorem showFrom_opening :
    showFrom opened 0 ('[' :: (style.toList ++ ']' :: rest)) =
      showFrom (Style.canonical style :: opened) 0 rest := by
  rw [showFrom_evenTag named.tagContent? rfl, named.follow_opening, List.drop_length_add_append]
  exact map_nil_append _

/-- A closing tag behind an even number of backslashes halves them and is not shown. -/
theorem showFrom_closing (even : pending % 2 = 0) :
    showFrom (Style.canonical style :: opened) pending
        ('[' :: '/' :: (style.toList ++ ']' :: rest)) =
      (showFrom opened 0 rest).map (backslashes (pending / 2) ++ ·) := by
  rw [showFrom_evenTag named.tagContent?_closing even, named.follow_closing]
  show (showFrom opened 0 _).map _ = _
  simp

/-- A closing tag behind an odd number of backslashes is shown. -/
theorem showFrom_closing_of_odd (odd : pending % 2 ≠ 0) :
    showFrom opened pending ('[' :: '/' :: (style.toList ++ [']'])) =
      .ok (backslashes (pending / 2) ++ '[' :: '/' :: (style.toList ++ [']'])) := by
  have unread : Unread ('/' :: (style.toList ++ [']'])) :=
    unread_cons.mpr ⟨by decide, unread_append.mpr ⟨named.unread, by decide⟩⟩
  have closing : showFrom opened 0 ('/' :: (style.toList ++ [']'])) =
      .ok ('/' :: (style.toList ++ [']'])) :=
    showFrom_of_isLiteral (isLiteral_of_unread unread)
  rw [showFrom_oddTag named.tagContent?_closing odd, closing]
  rfl

end IsStyleName

/-! ## Styled texts -/

theorem toList_styled (style markup : String) :
    (styled style markup).toList =
      '[' :: (style.toList ++ ']' :: (markup.toList ++
        '[' :: '/' :: (style.toList ++ [']']))) := by
  simp [styled]

theorem showFrom_styled_unread (named : IsStyleName style) {word : String}
    (unread : Unread word.toList) :
    showFrom opened 0 ((styled style word).toList ++ rest) =
      (showFrom opened 0 rest).map (word.toList ++ ·) := by
  rw [toList_styled]
  simp only [List.cons_append, List.append_assoc, List.nil_append]
  rw [named.showFrom_opening, showFrom_append unread,
    named.showFrom_closing rfl, map_map]
  rfl

/-- What is shown behind an escaped text in a style: half of the backslashes that the text ends
with, of which a single one has been doubled, and the closing tag if their number is odd. -/
def shownClosing (style : String) (count : Nat) : List Char :=
  backslashes (doubled count / 2) ++
    if doubled count % 2 = 0 then [] else '[' :: '/' :: (style.toList ++ [']'])

theorem showFrom_styled_escape (named : IsStyleName style) (text : String) :
    showFrom opened 0 (styled style (escape text)).toList =
      .ok (seenFrom 0 text.toList ++ shownClosing style (trailing 0 text.toList)) := by
  rw [toList_styled, named.showFrom_opening, showFrom_escape text (quiet_bracket _)]
  unfold shownClosing
  generalize doubled (trailing 0 text.toList) = pending
  by_cases even : pending % 2 = 0
  · rw [if_pos even, named.showFrom_closing even, showFrom_nil]
    rfl
  · rw [if_neg even, named.showFrom_closing_of_odd even]
    rfl

/-! ## Where what is shown agrees with the text -/

/-- Behind an escaped text in a style comes what it ends with, as long as that is at most one
backslash. -/
theorem shownClosing_append_iff :
    shownClosing style count ++ '\n' :: after = backslashes count ++ '\n' :: behind ↔
      count < 2 ∧ after = behind := by
  unfold shownClosing
  match count with
  | 0 | 1 => simp [doubled, backslashes]
  | count + 2 =>
    rw [doubled_eq_self_iff.mpr (by omega), List.append_assoc]
    refine iff_of_false ?_ (by omega)
    split
    · rw [List.nil_append, backslashes_append_cons_iff (by decide) (by decide)]
      omega
    · rw [List.cons_append, backslashes_append_cons_iff (by decide) (by decide)]
      simp

theorem steady_seenFrom (steady : Steady text) : Steady (seenFrom pending text) := by
  induction text generalizing pending with
  | nil => exact nofun
  | cons c rest ih =>
    obtain ⟨first, onward⟩ := steady_cons.mp steady
    rw [seenFrom]
    split
    · exact ih onward
    · split
      · exact steady_append.mpr ⟨steady_backslashes _, steady_cons.mpr ⟨by decide, ih onward⟩⟩
      · exact steady_append.mpr ⟨steady_backslashes _, steady_cons.mpr ⟨first, ih onward⟩⟩

theorem steady_shownClosing (named : IsStyleName style) (count : Nat) :
    Steady (shownClosing style count) := by
  unfold shownClosing
  refine steady_append.mpr ⟨steady_backslashes _, ?_⟩
  split
  · exact nofun
  · refine steady_cons.mpr ⟨by decide, steady_cons.mpr ⟨by decide, ?_⟩⟩
    exact steady_append.mpr ⟨named.steady, by decide⟩

end ApiAdmission
