import ApiAdmission.Proofs.Text.Quoted
import ApiAdmission.Schema.Assertion
import ApiAdmission.Schema.Describe
import Mathlib.Algebra.Order.BigOperators.Group.List
import Mathlib.Data.List.TakeWhile

/-!
# What stands between apostrophes

The names in a message are found by a search for texts between apostrophes, which knows nothing of
how the message was made.  Literals with commas between them give it their texts as they are
written, if no text has an apostrophe and none is empty (`between_literals`).  So a message gives
the names that it quotes first exactly if they are plain and nothing else is found in it
(`unexpectedNames_perm_iff`): a name that is written in another way gets longer, and nothing makes
up for that.

More literals in a message are found too.  That they are not takes one of three forms
(`between_literals_eq_nil_iff`), of which no list of usual patterns is any but the first.
-/

namespace ApiAdmission.Schema

set_option autoImplicit false

/-! ## The search for quoted texts -/

@[simp] theorem quotedTexts_nil (budget : Nat) : quotedTexts budget [] = [] := by
  cases budget <;> rfl

/-- Two searches that can go through all characters find the same. -/
theorem quotedTexts_congr {characters : List Char} {budget other : Nat}
    (enough : characters.length ≤ budget) (enoughOther : characters.length ≤ other) :
    quotedTexts budget characters = quotedTexts other characters := by
  fun_induction quotedTexts budget characters generalizing other with
  | case1 characters =>
    rw [List.length_eq_zero_iff.mp (Nat.le_zero.mp enough), quotedTexts_nil]
  | case2 budget => rw [quotedTexts_nil]
  | case3 budget rest inside head tail next after later taken =>
    rename_i ih
    obtain ⟨other, rfl⟩ := Nat.exists_eq_add_one_of_ne_zero (Nat.ne_zero_of_lt enoughOther)
    have shorter : after.length < rest.length := by
      have dropped := congrArg List.length later
      rw [List.length_drop, List.length_cons] at dropped
      omega
    rw [List.length_cons] at enough enoughOther
    have same : quotedTexts budget after = quotedTexts other after := ih (by omega) (by omega)
    change rest.takeWhile (· != '\'') = _ at taken
    change rest.drop (rest.takeWhile (· != '\'')).length = _ at later
    change String.ofList (rest.takeWhile (· != '\'')) :: _ = _
    rw [quotedTexts.eq_3, later, taken, same]
  | case4 budget rest inside none =>
    rename_i ih
    obtain ⟨other, rfl⟩ := Nat.exists_eq_add_one_of_ne_zero (Nat.ne_zero_of_lt enoughOther)
    rw [List.length_cons] at enough enoughOther
    rw [quotedTexts.eq_3]
    split
    · rename_i taken later
      exact (none _ _ _ _ taken later).elim
    · exact ih (by omega) (by omega)
  | case5 budget head rest noApostrophe ih =>
    obtain ⟨other, rfl⟩ := Nat.exists_eq_add_one_of_ne_zero (Nat.ne_zero_of_lt enoughOther)
    rw [List.length_cons] at enough enoughOther
    rw [quotedTexts.eq_4 _ _ _ noApostrophe]
    exact ih (by omega) (by omega)

/-- The texts between apostrophes, however many there are. -/
def between (characters : List Char) : List String :=
  quotedTexts characters.length characters

section Between

variable {inside after rest : List Char} {c : Char}

theorem takeWhile_append_apostrophe (free : '\'' ∉ inside) :
    (inside ++ '\'' :: after).takeWhile (· != '\'') = inside := by
  rw [List.takeWhile_append_of_pos]
  · simp
  · intro c member
    rw [bne_iff_ne]
    rintro rfl
    exact free member

@[simp] theorem between_nil : between [] = [] := rfl

theorem between_cons (other : c ≠ '\'') : between (c :: rest) = between rest := by
  rw [between, List.length_cons, quotedTexts.eq_4 _ _ _ other]
  rfl

/-- A text between two apostrophes is found, and the search goes on behind it. -/
theorem between_quoted (inhabited : inside ≠ []) (free : '\'' ∉ inside) :
    between ('\'' :: (inside ++ '\'' :: after)) = String.ofList inside :: between after := by
  obtain ⟨head, tail, same⟩ := List.exists_cons_of_ne_nil inhabited
  rw [between, List.length_cons, quotedTexts.eq_3, takeWhile_append_apostrophe free,
    List.drop_left, same]
  refine congrArg _ (quotedTexts_congr ?_ (Nat.le_refl _))
  rw [← same, List.length_append, List.length_cons]
  omega

/-- Of two apostrophes side by side, the second one may open a text. -/
theorem between_apostrophes : between ('\'' :: '\'' :: rest) = between ('\'' :: rest) := by
  rw [between, List.length_cons, quotedTexts.eq_3]
  simp only [bne_self_eq_false, Bool.false_eq_true, not_false_eq_true, List.takeWhile_cons_of_neg]
  rfl

theorem between_of_not_mem (free : '\'' ∉ rest) : between rest = [] := by
  induction rest with
  | nil => rfl
  | cons c rest ih =>
    rw [List.mem_cons, not_or] at free
    rw [between_cons (Ne.symm free.1), ih free.2]

/-- An apostrophe without another one opens nothing. -/
theorem between_single (free : '\'' ∉ rest) : between ('\'' :: rest) = [] := by
  have all : rest.takeWhile (· != '\'') = rest := by
    refine List.takeWhile_eq_self_iff.mpr fun c member => ?_
    rw [bne_iff_ne]
    rintro rfl
    exact free member
  rw [between, List.length_cons, quotedTexts.eq_3, all, List.drop_length]
  split
  · rename_i none
    cases none
  · exact between_of_not_mem free

theorem between_append (free : '\'' ∉ inside) : between (inside ++ rest) = between rest := by
  induction inside with
  | nil => rfl
  | cons c inside ih =>
    rw [List.mem_cons, not_or] at free
    rw [List.cons_append, between_cons (Ne.symm free.1), ih free.2]

/-- What is found behind some characters is found, or something before it is. -/
theorem between_eq_nil_of_append {before : List Char} (nothing : between (before ++ rest) = []) :
    between rest = [] := by
  induction before with
  | nil => exact nothing
  | cons c before ih =>
    refine ih ?_
    rw [List.cons_append, between, List.length_cons] at nothing
    by_cases apostrophe : c = '\''
    · rw [apostrophe, quotedTexts.eq_3] at nothing
      split at nothing
      · cases nothing
      · exact nothing
    · rwa [quotedTexts.eq_4 _ _ _ apostrophe] at nothing

/-- Two apostrophes with something between them quote it. -/
theorem between_ne_nil {before : List Char} (inhabited : inside ≠ []) (free : '\'' ∉ inside) :
    between (before ++ '\'' :: (inside ++ '\'' :: after)) ≠ [] := by
  intro nothing
  have quoted := between_eq_nil_of_append nothing
  rw [between_quoted inhabited free] at quoted
  cases quoted

/-- Apostrophes in one block quote nothing. -/
theorem between_block {before : List Char} (free : '\'' ∉ before) (freeAfter : '\'' ∉ after)
    (count : Nat) : between (before ++ (List.replicate count '\'' ++ after)) = [] := by
  rw [between_append free]
  induction count with
  | zero => exact between_of_not_mem freeAfter
  | succ count ih =>
    cases count with
    | zero => exact between_single freeAfter
    | succ count =>
      rw [List.replicate_succ, List.cons_append] at ih
      rw [List.replicate_succ, List.replicate_succ, List.cons_append, List.cons_append,
        between_apostrophes]
      exact ih

/-- A text that is found has characters, and no apostrophe. -/
theorem of_mem_between {characters : List Char} {text : String}
    (member : text ∈ between characters) : text ≠ "" ∧ '\'' ∉ text.toList := by
  unfold between at member
  generalize characters.length = budget at member
  fun_induction quotedTexts budget characters with
  | case1 => cases member
  | case2 => cases member
  | case3 budget rest inside head tail next after later taken =>
    rename_i ih
    rcases List.mem_cons.mp member with rfl | further
    · constructor
      · intro empty
        have none := congrArg String.toList empty
        rw [String.toList_ofList, taken] at none
        cases none
      · rw [String.toList_ofList]
        intro apostrophe
        have passed := List.mem_takeWhile_imp apostrophe
        cases passed
    · exact ih further
  | case4 budget rest inside none =>
    rename_i ih
    exact ih member
  | case5 budget head rest noApostrophe ih => exact ih member

end Between

/-! ## Lists of literals -/

theorem toList_literals_singleton (name : String) :
    (literals [name]).toList = (Text.quote name).toList := by
  simp [literals, Text.join]

theorem toList_literals_cons (name next : String) (rest : List String) :
    (literals (name :: next :: rest)).toList =
      (Text.quote name).toList ++ (", ".toList ++ (literals (next :: rest)).toList) := by
  simp [literals, Text.join, String.intercalate_cons_cons]

/-- Names without apostrophes are found as they are written. -/
theorem between_literals {names : List String} (tail : List Char)
    (quotable : ∀ name ∈ names, name ≠ "" ∧ '\'' ∉ name.toList) :
    between ((literals names).toList ++ tail) =
      names.map (fun name => String.ofList (Text.written '\'' name.toList)) ++ between tail := by
  have first {name : String} (inhabited : name ≠ "") (free : '\'' ∉ name.toList)
      (after : List Char) : between ((Text.quote name).toList ++ after) =
        String.ofList (Text.written '\'' name.toList) :: between after := by
    rw [Text.toList_quote, Text.quoteMark_of_not_mem free, List.cons_append, List.append_assoc]
    refine between_quoted (fun empty => inhabited ?_) (Text.apostrophe_not_mem_written _ free)
    have short := Text.length_le_written '\'' name.toList
    rw [empty] at short
    exact String.toList_eq_nil_iff.mp (List.length_eq_zero_iff.mp (Nat.le_zero.mp short))
  induction names with
  | nil => simp [literals, Text.join]
  | cons name rest ih =>
    obtain ⟨⟨inhabited, free⟩, others⟩ := List.forall_mem_cons.mp quotable
    cases rest with
    | nil => rw [toList_literals_singleton, first inhabited free]; rfl
    | cons next rest =>
      have comma : '\'' ∉ ", ".toList := by decide
      rw [toList_literals_cons, List.append_assoc, List.append_assoc, first inhabited free,
        between_append comma, ih others]
      rfl

/-! ## Names that a message gives exactly -/

/-- A name that a message gives as it is: it has characters, and a literal between apostrophes
writes all of them as they are. -/
structure IsPlain (name : String) : Prop where
  inhabited : name ≠ ""
  plain : Text.ArePlain name.toList

theorem IsPlain.quotable {name : String} (plain : IsPlain name) :
    name ≠ "" ∧ '\'' ∉ name.toList :=
  ⟨plain.inhabited, fun member => (plain.plain _ member).1 rfl⟩

section Exact

variable {message : String} {start finish : List Char} {names : List String}

theorem between_plain (plain : ∀ name ∈ names, IsPlain name) :
    between ((literals names).toList ++ finish) = names ++ between finish := by
  have same : names.map (fun name => String.ofList (Text.written '\'' name.toList)) = names := by
    refine (List.map_congr_left fun name member => ?_).trans (List.map_id' names)
    rw [Text.written_of_plain (plain name member).plain, String.ofList_toList]
  rw [between_literals _ fun name member => (plain name member).quotable, same]

theorem unexpectedNames_eq (message : String) :
    unexpectedNames message =
      if between message.toList = [] then ["<unknown>"] else between message.toList := by
  unfold unexpectedNames between
  rw [String.length_toList]
  cases quotedTexts message.length message.toList <;> simp

theorem unexpectedNames_of_ne_nil (found : between message.toList ≠ []) :
    unexpectedNames message = between message.toList :=
  (unexpectedNames_eq message).trans (if_neg found)

/-- Names that are found as they are written, all in all, are plain: otherwise some of them got
longer. -/
theorem plain_of_perm (quotable : ∀ name ∈ names, name ≠ "" ∧ '\'' ∉ name.toList)
    (same : (names.map fun name => String.ofList (Text.written '\'' name.toList)).Perm names) :
    ∀ name ∈ names, IsPlain name := by
  intro name member
  refine ⟨(quotable name member).1, Text.plain_of_length_written_le (quotable name member).2 ?_⟩
  by_contra longer
  have total := (same.map fun name => name.toList.length).sum_nat
  rw [List.map_map] at total
  refine absurd total (ne_of_gt (List.sum_lt_sum _ _ (fun name _ => ?_) ⟨name, member, ?_⟩))
  · rw [Function.comp_apply, String.toList_ofList]
    exact Text.length_le_written _ _
  · rw [Function.comp_apply, String.toList_ofList]
    exact Nat.lt_of_not_le longer

/-- A message gives the names that it quotes first exactly if they are plain and it quotes nothing
else. -/
theorem unexpectedNames_perm_iff (inhabited : names ≠ []) (free : '\'' ∉ start)
    (said : message.toList = start ++ ((literals names).toList ++ finish)) :
    (unexpectedNames message).Perm names ↔
      (∀ name ∈ names, IsPlain name) ∧ between finish = [] := by
  have searched : between message.toList = between ((literals names).toList ++ finish) := by
    rw [said, between_append free]
  constructor
  · intro exactly
    have quotable : ∀ name ∈ names, name ≠ "" ∧ '\'' ∉ name.toList := by
      intro name member
      have given := exactly.mem_iff.mpr member
      by_cases found : between message.toList = []
      · rw [unexpectedNames_eq, if_pos found, List.mem_singleton] at given
        rw [given]
        decide
      · rw [unexpectedNames_of_ne_nil found] at given
        exact of_mem_between given
    have found : between message.toList =
        names.map (fun name => String.ofList (Text.written '\'' name.toList)) ++ between finish :=
      searched.trans (between_literals finish quotable)
    have some : between message.toList ≠ [] := by
      rw [found]
      simp [inhabited]
    rw [unexpectedNames_of_ne_nil some, found] at exactly
    have nothing : between finish = [] := by
      have counted := exactly.length_eq
      rw [List.length_append, List.length_map] at counted
      exact List.length_eq_zero_iff.mp (by omega)
    rw [nothing, List.append_nil] at exactly
    exact ⟨plain_of_perm quotable exactly, nothing⟩
  · rintro ⟨plain, nothing⟩
    have found : between message.toList = names := by
      rw [searched, between_plain plain, nothing, List.append_nil]
    rw [unexpectedNames_of_ne_nil (found ▸ inhabited), found]

end Exact

/-! ## Patterns that a message does not quote -/

/-- Literals between which and in which the search finds nothing: none, that of the empty text, or
one between quotation marks in which all apostrophes stand side by side. -/
inductive Unquoted : List String → Prop where
  | none : Unquoted []
  | empty : Unquoted [""]
  | block {text : String} {before after : List Char} {count : Nat}
      (single : '\'' ∈ text.toList) (double : '"' ∉ text.toList)
      (split : text.toList = before ++ (List.replicate count '\'' ++ after))
      (free : '\'' ∉ before) (freeAfter : '\'' ∉ after) : Unquoted [text]

theorem apostrophe_mem_quote (text : String) : '\'' ∈ (Text.quote text).toList := by
  rw [Text.toList_quote]
  rcases Text.quoteMark_cases text.toList with ⟨mark, _⟩ | ⟨mark, single, _⟩
  · rw [mark]
    exact List.mem_cons_self
  · rw [mark]
    refine List.mem_cons_of_mem _ (List.mem_append_left _ ?_)
    exact List.mem_flatMap.mpr ⟨'\'', single, by decide⟩

/-- Two literals with a comma quote something, if only what is between them. -/
theorem between_literals_ne_nil (first second : String) (rest : List String) :
    between (literals (first :: second :: rest)).toList ≠ [] := by
  obtain ⟨back, front, last, freeBack⟩ :=
    List.eq_append_cons_of_mem (List.mem_reverse.mpr (apostrophe_mem_quote first))
  obtain ⟨start, more, next, freeStart⟩ := List.eq_append_cons_of_mem (apostrophe_mem_quote second)
  have ends : (Text.quote first).toList = front.reverse ++ '\'' :: back.reverse := by
    rw [← List.reverse_reverse (Text.quote first).toList, last]
    simp
  have begins : ∃ after, (literals (second :: rest)).toList = start ++ '\'' :: after := by
    cases rest with
    | nil => exact ⟨more, by rw [toList_literals_singleton, next]⟩
    | cons third rest =>
      exact ⟨_, by rw [toList_literals_cons, next, List.append_assoc, List.cons_append]⟩
  obtain ⟨after, begins⟩ := begins
  have whole : (literals (first :: second :: rest)).toList =
      front.reverse ++ '\'' :: ((back.reverse ++ (", ".toList ++ start)) ++ '\'' :: after) := by
    rw [toList_literals_cons, ends, begins]
    simp
  rw [whole]
  refine between_ne_nil (by simp) ?_
  have comma : '\'' ∉ ", ".toList := by decide
  simp only [List.mem_append, List.mem_reverse, not_or]
  exact ⟨freeBack, comma, freeStart⟩

/-- A literal between apostrophes quotes something, unless it is that of the empty text. -/
theorem between_quote_ne_nil {text : String} (inhabited : text ≠ "")
    (mark : Text.quoteMark text.toList = '\'') : between (Text.quote text).toList ≠ [] := by
  obtain ⟨c, rest, characters⟩ := List.exists_cons_of_ne_nil fun empty =>
    inhabited (String.toList_eq_nil_iff.mp empty)
  obtain ⟨first, more, begins, other⟩ :
      ∃ first more, (Text.quoteCharacter '\'' c).toList = first :: more ∧ first ≠ '\'' := by
    rcases Text.quoteCharacter_cases '\'' c with
      ⟨other, _, _, kept⟩ | ⟨_, marked⟩ | ⟨_, _, _, escaped, _⟩
    · exact ⟨c, [], kept, other⟩
    · exact ⟨_, _, marked, by decide⟩
    · exact ⟨_, _, escaped, by decide⟩
  -- The search takes the text up to the first apostrophe, which may be an escaped one.
  obtain ⟨inside, after, split, free⟩ := List.eq_append_cons_of_mem
    (List.mem_append_right (Text.written '\'' text.toList) (List.mem_singleton.mpr rfl) :
      '\'' ∈ Text.written '\'' text.toList ++ ['\''])
  rw [Text.toList_quote, mark, split]
  show between ([] ++ '\'' :: (inside ++ '\'' :: after)) ≠ []
  refine between_ne_nil (fun empty => ?_) free
  rw [empty, characters, Text.written_cons, begins] at split
  exact other (List.cons.inj split).1

@[simp] theorem written_apostrophe : (Text.quoteCharacter '"' '\'').toList = ['\''] := by decide

theorem written_replicate (count : Nat) :
    Text.written '"' (List.replicate count '\'') = List.replicate count '\'' := by
  induction count with
  | zero => rfl
  | succ count ih => rw [List.replicate_succ, Text.written_cons, ih, written_apostrophe]; rfl

/-- Characters with an apostrophe begin with one block of them; where another apostrophe comes
later, there is something between. -/
theorem exists_block {characters : List Char} (single : '\'' ∈ characters) :
    ∃ before count after, characters = before ++ (List.replicate (count + 1) '\'' ++ after) ∧
      '\'' ∉ before ∧ ('\'' ∈ after →
        ∃ inside tail, after = inside ++ '\'' :: tail ∧ inside ≠ [] ∧ '\'' ∉ inside) := by
  obtain ⟨before, rest, split, free⟩ := List.eq_append_cons_of_mem single
  obtain ⟨count, block⟩ : ∃ count, rest.takeWhile (· == '\'') = List.replicate count '\'' :=
    ⟨_, List.eq_replicate_iff.mpr
      ⟨rfl, fun c member => by simpa using List.mem_takeWhile_imp member⟩⟩
  refine ⟨before, count, rest.dropWhile (· == '\''), ?_, free, fun later => ?_⟩
  · rw [List.replicate_succ, ← block, List.cons_append, List.takeWhile_append_dropWhile, split]
  · obtain ⟨inside, tail, parts, freeInside⟩ := List.eq_append_cons_of_mem later
    refine ⟨inside, tail, parts, ?_, freeInside⟩
    rintro rfl
    have head := List.head_dropWhile_not (· == '\'') (List.ne_nil_of_mem later)
    simp only [parts, List.nil_append, List.head_cons, beq_self_eq_true] at head
    cases head

/-- A literal between quotation marks quotes nothing exactly if its apostrophes are one block. -/
theorem unquoted_of_between {text : String} (mark : Text.quoteMark text.toList = '"')
    (single : '\'' ∈ text.toList) (double : '"' ∉ text.toList)
    (nothing : between (Text.quote text).toList = []) : Unquoted [text] := by
  obtain ⟨before, count, after, split, free, further⟩ := exists_block single
  refine .block single double split free fun later => ?_
  obtain ⟨inside, tail, rfl, inhabited, freeInside⟩ := further later
  have long := Text.length_le_written '"' inside
  have some : Text.written '"' inside ≠ [] := by
    intro empty
    rw [empty] at long
    exact inhabited (List.length_eq_zero_iff.mp (Nat.le_zero.mp long))
  have whole : (Text.quote text).toList =
      ('"' :: (Text.written '"' before ++ List.replicate count '\'')) ++
        '\'' :: (Text.written '"' inside ++ '\'' :: (Text.written '"' tail ++ ['"'])) := by
    rw [Text.toList_quote, mark, split, List.replicate_succ']
    simp [written_replicate]
  rw [whole] at nothing
  exact between_ne_nil some (Text.apostrophe_not_mem_written '"' freeInside) nothing

theorem between_quote_of_block {text : String} {before after : List Char} {count : Nat}
    (single : '\'' ∈ text.toList) (double : '"' ∉ text.toList)
    (split : text.toList = before ++ (List.replicate count '\'' ++ after))
    (free : '\'' ∉ before) (freeAfter : '\'' ∉ after) : between (Text.quote text).toList = [] := by
  have mark : Text.quoteMark text.toList = '"' := by
    rcases Text.quoteMark_cases text.toList with ⟨_, both⟩ | ⟨mark, _⟩
    · exact absurd (both single) double
    · exact mark
  have whole : (Text.quote text).toList = ('"' :: Text.written '"' before) ++
      (List.replicate count '\'' ++ (Text.written '"' after ++ ['"'])) := by
    rw [Text.toList_quote, mark, split]
    simp [written_replicate]
  rw [whole]
  refine between_block ?_ ?_ count
  · rw [List.mem_cons, not_or]
    exact ⟨by decide, Text.apostrophe_not_mem_written '"' free⟩
  · rw [List.mem_append, not_or]
    exact ⟨Text.apostrophe_not_mem_written '"' freeAfter, by decide⟩

/-- Nothing is quoted by literals exactly if there are none, or one as above. -/
theorem between_literals_eq_nil_iff {texts : List String} :
    between (literals texts).toList = [] ↔ Unquoted texts := by
  constructor
  · intro nothing
    rcases texts with _ | ⟨text, _ | ⟨second, rest⟩⟩
    · exact .none
    · rw [toList_literals_singleton] at nothing
      rcases Text.quoteMark_cases text.toList with ⟨mark, _⟩ | ⟨mark, single, double⟩
      · by_cases inhabited : text = ""
        · exact inhabited ▸ .empty
        · exact absurd nothing (between_quote_ne_nil inhabited mark)
      · exact unquoted_of_between mark single double nothing
    · exact absurd nothing (between_literals_ne_nil text second rest)
  · intro unquoted
    cases unquoted with
    | none => simp [literals, Text.join]
    | empty => decide +kernel
    | block single double split free freeAfter =>
      rw [toList_literals_singleton]
      exact between_quote_of_block single double split free freeAfter

end ApiAdmission.Schema
