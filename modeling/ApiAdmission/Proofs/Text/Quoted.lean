import ApiAdmission.Text.Quoted
import Mathlib.Data.List.Flatten
import Mathlib.Data.Nat.Digits.Defs

/-!
# What quoted literals look like

A literal is its mark around the written characters of a text (`toList_quote`), and each character
is written as it is, after a backslash or by an escape (`quoteCharacter_cases`).  Characters are
plain when a literal between apostrophes writes all of them as they are.  Others get longer, so
plain characters can be told by their number (`plain_of_length_written_le`), and an apostrophe comes
up only where the text has one (`apostrophe_not_mem_written`).
-/

namespace ApiAdmission.Text

set_option autoImplicit false

/-- The characters of a text as a literal with a mark writes them. -/
def written (mark : Char) (characters : List Char) : List Char :=
  characters.flatMap fun c => (quoteCharacter mark c).toList

theorem toList_quote (text : String) :
    (quote text).toList =
      quoteMark text.toList :: (written (quoteMark text.toList) text.toList ++
        [quoteMark text.toList]) := by
  simp [quote, written, String.toList_join, List.flatMap_map]

@[simp] theorem written_append (mark : Char) (first second : List Char) :
    written mark (first ++ second) = written mark first ++ written mark second :=
  List.flatMap_append

@[simp] theorem written_cons (mark c : Char) (rest : List Char) :
    written mark (c :: rest) = (quoteCharacter mark c).toList ++ written mark rest :=
  List.flatMap_cons

@[simp] theorem written_nil (mark : Char) : written mark [] = [] := rfl

/-- The mark is an apostrophe where the text has none, or a quotation mark too. -/
theorem quoteMark_cases (characters : List Char) :
    quoteMark characters = '\'' ∧ ('\'' ∈ characters → '"' ∈ characters) ∨
      quoteMark characters = '"' ∧ '\'' ∈ characters ∧ '"' ∉ characters := by
  by_cases single : '\'' ∈ characters <;> by_cases double : '"' ∈ characters <;>
    simp [quoteMark, single, double]

theorem quoteMark_of_not_mem {characters : List Char} (absent : '\'' ∉ characters) :
    quoteMark characters = '\'' := by
  rcases quoteMark_cases characters with ⟨mark, _⟩ | ⟨_, present, _⟩
  · exact mark
  · exact absurd present absent

/-! ## Single characters -/

theorem apostrophe_not_mem_toDigits (number : Nat) : '\'' ∉ Nat.toDigits 16 number := by
  have digits : ∀ digit < 16, '\'' ≠ Nat.digitChar digit := by decide
  induction number using Nat.strong_induction_on with
  | _ number ih =>
    rw [Nat.toDigits_eq_if (by decide)]
    split
    case isTrue small =>
      rw [List.mem_singleton]
      exact digits number small
    case isFalse =>
      rw [List.mem_append, List.mem_singleton, not_or]
      exact ⟨ih _ (by omega), digits _ (Nat.mod_lt _ (by decide))⟩

/-- An escape is a backslash with more after it, and has no apostrophe. -/
theorem exists_escapeCode (code : Nat) :
    ∃ next rest, (escapeCode code).toList = '\\' :: next :: rest ∧ '\'' ∉ next :: rest := by
  have digits (width : Nat) : '\'' ∉ (toHex width code).toList := by
    simp [toHex, apostrophe_not_mem_toDigits, List.mem_replicate]
  have short : "\\x".toList = ['\\', 'x'] := by decide
  have middle : "\\u".toList = ['\\', 'u'] := by decide
  have long : "\\U".toList = ['\\', 'U'] := by decide
  unfold escapeCode
  split_ifs
  · exact ⟨'x', (toHex 2 code).toList, by simp [short], by simp [digits]⟩
  · exact ⟨'u', (toHex 4 code).toList, by simp [middle], by simp [digits]⟩
  · exact ⟨'U', (toHex 8 code).toList, by simp [long], by simp [digits]⟩

/-- A literal writes a character as it is, after a backslash, or by an escape without an
apostrophe. -/
theorem quoteCharacter_cases (mark c : Char) :
    (c ≠ mark ∧ c ≠ '\\' ∧ isPrintable c = true ∧ (quoteCharacter mark c).toList = [c]) ∨
    ((c = mark ∨ c = '\\') ∧ (quoteCharacter mark c).toList = ['\\', c]) ∨
    (isPrintable c = false ∧ ∃ next rest,
      (quoteCharacter mark c).toList = '\\' :: next :: rest ∧ '\'' ∉ next :: rest) := by
  by_cases special : c = mark ∨ c = '\\'
  · exact .inr (.inl ⟨special, by simp [quoteCharacter, special]⟩)
  · have ordinary : (c == mark || c == '\\') = false := by simpa using special
    by_cases named : c = '\n' ∨ c = '\r' ∨ c = '\t'
    · refine .inr (.inr ?_)
      unfold quoteCharacter
      rw [ordinary]
      rcases named with rfl | rfl | rfl <;>
        exact ⟨by decide, _, _, by simp; exact ⟨rfl, rfl⟩, by decide⟩
    · cases visible : isPrintable c with
      | true =>
        simp only [not_or] at special named
        refine .inl ⟨special.1, special.2, rfl, ?_⟩
        simp [quoteCharacter, special, named, visible]
      | false =>
        simp only [not_or] at special named
        refine .inr (.inr ⟨rfl, ?_⟩)
        simpa [quoteCharacter, special, named, visible] using exists_escapeCode c.toNat

/-! ## Whole texts -/

/-- Characters that a literal between apostrophes writes as they are. -/
def ArePlain (characters : List Char) : Prop :=
  ∀ c ∈ characters, c ≠ '\'' ∧ c ≠ '\\' ∧ isPrintable c = true

theorem written_of_plain {characters : List Char} (plain : ArePlain characters) :
    written '\'' characters = characters := by
  induction characters with
  | nil => rfl
  | cons c rest ih =>
    obtain ⟨⟨noApostrophe, noBackslash, visible⟩, others⟩ := List.forall_mem_cons.mp plain
    rw [written_cons, ih others]
    rcases quoteCharacter_cases '\'' c with ⟨_, _, _, kept⟩ | ⟨marked, _⟩ | ⟨hidden, _⟩
    · rw [kept, List.singleton_append]
    · exact absurd marked (not_or.mpr ⟨noApostrophe, noBackslash⟩)
    · cases visible.symm.trans hidden

theorem apostrophe_not_mem_written (mark : Char) {characters : List Char}
    (absent : '\'' ∉ characters) : '\'' ∉ written mark characters := by
  intro member
  obtain ⟨c, here, inside⟩ := List.mem_flatMap.mp member
  have other : '\'' ≠ c := fun same => absent (same ▸ here)
  rcases quoteCharacter_cases mark c with ⟨_, _, _, kept⟩ | ⟨_, marked⟩ | ⟨_, _, _, escaped, free⟩
  · simp [kept, other] at inside
  · simp [marked, other] at inside
  · rw [escaped] at inside
    rcases List.mem_cons.mp inside with same | further
    · cases same
    · exact free further

theorem length_quoteCharacter_pos (mark c : Char) :
    0 < (quoteCharacter mark c).toList.length := by
  rcases quoteCharacter_cases mark c with ⟨_, _, _, kept⟩ | ⟨_, marked⟩ | ⟨_, _, _, escaped, _⟩
  · simp [kept]
  · simp [marked]
  · simp [escaped]

theorem length_le_written (mark : Char) (characters : List Char) :
    characters.length ≤ (written mark characters).length := by
  induction characters with
  | nil => exact Nat.le_refl 0
  | cons c rest ih =>
    have first := length_quoteCharacter_pos mark c
    rw [written_cons, List.length_append, List.length_cons]
    omega

/-- A text that does not get longer is plain, unless it has an apostrophe. -/
theorem plain_of_length_written_le {characters : List Char} (absent : '\'' ∉ characters)
    (short : (written '\'' characters).length ≤ characters.length) : ArePlain characters := by
  induction characters with
  | nil => exact nofun
  | cons c rest ih =>
    rw [List.mem_cons, not_or] at absent
    rw [written_cons, List.length_append, List.length_cons] at short
    have others := length_le_written '\'' rest
    have first := length_quoteCharacter_pos '\'' c
    refine List.forall_mem_cons.mpr ⟨?_, ih absent.2 (by omega)⟩
    rcases quoteCharacter_cases '\'' c with
      ⟨noApostrophe, noBackslash, visible, _⟩ | ⟨_, marked⟩ | ⟨_, _, _, escaped, _⟩
    · exact ⟨noApostrophe, noBackslash, visible⟩
    · rw [marked, List.length_cons, List.length_singleton] at short
      omega
    · rw [escaped, List.length_cons, List.length_cons] at short
      omega

end ApiAdmission.Text
