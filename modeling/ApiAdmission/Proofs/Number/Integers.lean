import ApiAdmission.Number.Reader
import Mathlib.Data.List.TakeWhile

/-!
# How integers may be spelled

The liberal grammar of integers has more than one spelling for a number: blanks may stand around
it, a sign before it, zeros in front, single underscores between the digits, and the digits may be
those of any script (`Spells`).  The reader accepts these spellings and no others
(`integer?_eq_some_iff`).

Digits of ASCII alone are the plain spelling.  They are read as the number that they stand for,
unless there are more of them than are read (`readInteger_of_digits`).
-/

namespace ApiAdmission

set_option autoImplicit false

namespace Text

/-! ## Decimal digits -/

/-- A digit is one of ten characters in a row. -/
theorem exists_of_digitValue? {c : Char} {value : Nat} (digit : digitValue? c = some value) :
    ∃ start ∈ digitZeros, ∃ offset < 10, c = Char.ofNat (start + offset) := by
  obtain ⟨start, found, _⟩ := Option.map_eq_some_iff.mp digit
  have range : start ≤ c.toNat ∧ c.toNat < start + 10 := by simpa using List.find?_some found
  refine ⟨start, List.mem_of_find?_eq_some found, c.toNat - start, by omega, ?_⟩
  rw [Nat.add_sub_cancel' range.1, Char.ofNat_toNat]

/-- A digit is no space, no sign and no underscore. -/
theorem other_of_digitValue? {c : Char} {value : Nat} (digit : digitValue? c = some value) :
    isSpace c = false ∧ c ≠ '+' ∧ c ≠ '-' ∧ c ≠ '_' := by
  have table : ∀ start ∈ digitZeros, ∀ offset < 10,
      isSpace (Char.ofNat (start + offset)) = false ∧ Char.ofNat (start + offset) ≠ '+' ∧
        Char.ofNat (start + offset) ≠ '-' ∧ Char.ofNat (start + offset) ≠ '_' := by
    decide +kernel
  obtain ⟨start, member, offset, small, rfl⟩ := exists_of_digitValue? digit
  exact table start member offset small

/-- The digits of ASCII come first in the table. -/
theorem digitValue?_of_isDigit {c : Char} (digit : c.isDigit = true) :
    digitValue? c = some (c.toNat - '0'.toNat) := by
  have range : 48 ≤ c.toNat ∧ c.toNat ≤ 57 := Char.isDigit_iff_toNat.mp digit
  obtain ⟨others, shape⟩ : ∃ others, digitZeros = 48 :: others := ⟨_, rfl⟩
  rw [digitValue?, shape, List.find?_cons_of_pos (by simp; omega), Option.map_some]
  rfl

/-! ## Spaces around a text -/

/-- What is dropped from the front stops at the first character that is kept. -/
theorem trimStart_append {drops : Char → Bool} {front rest : List Char}
    (dropped : ∀ c ∈ front, drops c = true) (stops : ∀ c ∈ rest.head?, drops c = false) :
    trimStart drops (front ++ rest) = rest := by
  rw [trimStart, List.dropWhile_append_of_pos dropped]
  cases rest with
  | nil => rfl
  | cons c more => exact List.dropWhile_cons_of_neg (by simp [stops c rfl])

/-- The spaces around a text go, and nothing else does. -/
theorem trimSpaces_eq {before middle after : List Char} (some_middle : middle ≠ [])
    (front : ∀ c ∈ before, isSpace c = true) (back : ∀ c ∈ after, isSpace c = true)
    (kept : ∀ c ∈ middle, isSpace c = false) :
    trimSpaces (before ++ middle ++ after) = middle := by
  have starts : trimStart isSpace (before ++ (middle ++ after)) = middle ++ after := by
    obtain ⟨first, more, rfl⟩ := List.exists_cons_of_ne_nil some_middle
    refine trimStart_append front ?_
    rintro c ⟨⟩
    exact kept first List.mem_cons_self
  have ends : trimStart isSpace (after.reverse ++ middle.reverse) = middle.reverse := by
    refine trimStart_append (fun c member => back c (List.mem_reverse.mp member)) fun c last => ?_
    exact kept c (List.mem_reverse.mp (List.mem_of_head? last))
  rw [trimSpaces, List.append_assoc, starts, trimEnd, List.reverse_append]
  exact (congrArg List.reverse ends).trans (List.reverse_reverse middle)

/-- A text is what is left of it with spaces around. -/
theorem exists_trimSpaces (text : List Char) :
    ∃ before after, text = before ++ trimSpaces text ++ after ∧
      (∀ c ∈ before, isSpace c = true) ∧ ∀ c ∈ after, isSpace c = true := by
  have split : ∀ text : List Char, ∃ front, text = front ++ trimStart isSpace text ∧
      ∀ c ∈ front, isSpace c = true := fun text =>
    ⟨text.takeWhile isSpace, (List.takeWhile_append_dropWhile).symm,
      fun c member => List.mem_takeWhile_imp member⟩
  obtain ⟨before, whole, front⟩ := split text
  obtain ⟨ending, rest, back⟩ := split (trimStart isSpace text).reverse
  refine ⟨before, ending.reverse, ?_, front, fun c member => back c (List.mem_reverse.mp member)⟩
  have turned := congrArg List.reverse rest
  rw [List.reverse_reverse, List.reverse_append] at turned
  rw [List.append_assoc]
  exact whole.trans (congrArg (before ++ ·) turned)

end Text

namespace Number

/-! ## The grammar -/

/-- Digits with single underscores allowed between them, and their values. -/
inductive Grouped : List Char → List Nat → Prop where
  | last {c : Char} {value : Nat} (digit : Text.digitValue? c = some value) :
      Grouped [c] [value]
  | next {c : Char} {value : Nat} {rest : List Char} {values : List Nat}
      (digit : Text.digitValue? c = some value) (others : Grouped rest values) :
      Grouped (c :: rest) (value :: values)
  | gap {c : Char} {value : Nat} {rest : List Char} {values : List Nat}
      (digit : Text.digitValue? c = some value) (others : Grouped rest values) :
      Grouped (c :: '_' :: rest) (value :: values)

/-- A sign, and whether it is a minus. -/
inductive IsSign : List Char → Bool → Prop where
  | absent : IsSign [] false
  | plus : IsSign ['+'] false
  | minus : IsSign ['-'] true

/-- The integer with a sign and some digits. -/
def signed (negative : Bool) (digits : List Nat) : Int :=
  if negative then -(Text.ofDigits 10 digits : Int) else Text.ofDigits 10 digits

/-- A spelling of an integer: grouped digits, no more than are read, with a sign or none before
them and spaces around. -/
inductive Spells (text : String) : Int → Prop where
  | intro {before sign body after : List Char} {negative : Bool} {digits : List Nat}
      (characters : text.toList = before ++ (sign ++ body) ++ after)
      (front : ∀ c ∈ before, Text.isSpace c = true) (back : ∀ c ∈ after, Text.isSpace c = true)
      (isSign : IsSign sign negative) (grouped : Grouped body digits)
      (fits : digits.length ≤ digitLimit) :
      Spells text (signed negative digits)

/-! ## The reader keeps to it -/

theorem Grouped.head {body : List Char} {digits : List Nat} (grouped : Grouped body digits) :
    ∃ c rest value, body = c :: rest ∧ Text.digitValue? c = some value := by
  cases grouped with
  | last digit | next digit | gap digit => exact ⟨_, _, _, rfl, digit⟩

theorem Grouped.noSpace {body : List Char} {digits : List Nat} (grouped : Grouped body digits) :
    ∀ c ∈ body, Text.isSpace c = false := by
  induction grouped with
  | last digit => simpa using (Text.other_of_digitValue? digit).1
  | next digit _ ih => exact List.forall_mem_cons.mpr ⟨(Text.other_of_digitValue? digit).1, ih⟩
  | gap digit _ ih =>
    exact List.forall_mem_cons.mpr ⟨(Text.other_of_digitValue? digit).1,
      List.forall_mem_cons.mpr ⟨by decide, ih⟩⟩

/-- Reading groups of digits is reading the first digit and the others. -/
theorem groupedDigits?_next {value? : Char → Option Nat} {c d : Char} {rest : List Char}
    (plain : d ≠ '_') :
    groupedDigits? value? (c :: d :: rest) =
      (value? c).bind fun digit => (groupedDigits? value? (d :: rest)).map (digit :: ·) := by
  rw [groupedDigits?]
  · cases value? c <;> cases groupedDigits? value? (d :: rest) <;> rfl
  all_goals simp [plain]

theorem groupedDigits?_eq_some_iff {body : List Char} {digits : List Nat} :
    groupedDigits? Text.digitValue? body = some digits ↔ Grouped body digits := by
  constructor
  · intro reads
    fun_induction groupedDigits? Text.digitValue? body generalizing digits with
    | case1 => cases reads
    | case2 c =>
      obtain ⟨value, digit, rfl⟩ := Option.map_eq_some_iff.mp reads
      exact .last digit
    | case3 c rest ih =>
      obtain ⟨value, digit, reads⟩ := Option.bind_eq_some_iff.mp reads
      obtain ⟨values, others, same⟩ := Option.bind_eq_some_iff.mp reads
      cases same
      exact .gap digit (ih others)
    | case4 c rest _ _ ih =>
      obtain ⟨value, digit, reads⟩ := Option.bind_eq_some_iff.mp reads
      obtain ⟨values, others, same⟩ := Option.bind_eq_some_iff.mp reads
      cases same
      exact .next digit (ih others)
  · intro grouped
    induction grouped with
    | last digit => rw [groupedDigits?, digit]; rfl
    | next digit others ih =>
      obtain ⟨d, rest, _, rfl, following⟩ := others.head
      rw [groupedDigits?_next (Text.other_of_digitValue? following).2.2.2, digit, ih]
      rfl
    | gap digit _ ih => rw [groupedDigits?, digit, ih]; rfl

/-- A sign is taken off where no other follows. -/
theorem takeSign_append {sign body : List Char} {negative : Bool} (isSign : IsSign sign negative)
    (unsigned : ∀ c ∈ body.head?, c ≠ '+' ∧ c ≠ '-') :
    takeSign (sign ++ body) = (negative, body) := by
  cases isSign with
  | plus | minus => rfl
  | absent =>
    rw [List.nil_append]
    unfold takeSign
    split
    · exact absurd rfl (unsigned '-' rfl).2
    · exact absurd rfl (unsigned '+' rfl).1
    · rfl

theorem exists_takeSign (characters : List Char) :
    ∃ sign, IsSign sign (takeSign characters).1 ∧ characters = sign ++ (takeSign characters).2 := by
  unfold takeSign
  split
  · exact ⟨_, .minus, rfl⟩
  · exact ⟨_, .plus, rfl⟩
  · exact ⟨_, .absent, rfl⟩

/-- An integer is read from its grouped digits, when the spaces and the sign are gone. -/
theorem readInteger_eq (characters : List Char) :
    readInteger characters =
      match groupedDigits? Text.digitValue? (takeSign (Text.trimSpaces characters)).2 with
      | none => .error .invalid
      | some digits =>
        if digitLimit < digits.length then .error (.tooLong digits.length)
        else .ok (signed (takeSign (Text.trimSpaces characters)).1 digits) :=
  rfl

/-- Grouped digits are read with a sign before them and spaces around. -/
theorem readInteger_of_grouped {before sign body after : List Char} {negative : Bool}
    {digits : List Nat} (front : ∀ c ∈ before, Text.isSpace c = true)
    (back : ∀ c ∈ after, Text.isSpace c = true) (isSign : IsSign sign negative)
    (grouped : Grouped body digits) :
    readInteger (before ++ (sign ++ body) ++ after) =
      if digitLimit < digits.length then .error (.tooLong digits.length)
      else .ok (signed negative digits) := by
  obtain ⟨c, rest, value, rfl, digit⟩ := grouped.head
  have noSpace : ∀ d ∈ sign ++ c :: rest, Text.isSpace d = false := by
    refine List.forall_mem_append.mpr ⟨?_, grouped.noSpace⟩
    cases isSign <;> simp <;> decide
  have unsigned : ∀ d ∈ (c :: rest).head?, d ≠ '+' ∧ d ≠ '-' := by
    rintro d ⟨⟩
    exact ⟨(Text.other_of_digitValue? digit).2.1, (Text.other_of_digitValue? digit).2.2.1⟩
  rw [readInteger_eq, Text.trimSpaces_eq (by simp) front back noSpace,
    takeSign_append isSign unsigned, groupedDigits?_eq_some_iff.mpr grouped]

/-- **The integers that are read are those that are spelled.** -/
theorem integer?_eq_some_iff {text : String} {value : Int} :
    integer? text = some value ↔ Spells text value := by
  constructor
  · intro reads
    rw [integer?, readInteger_eq] at reads
    obtain ⟨before, after, whole, front, back⟩ := Text.exists_trimSpaces text.toList
    obtain ⟨sign, isSign, shape⟩ := exists_takeSign (Text.trimSpaces text.toList)
    cases groups : groupedDigits? Text.digitValue? (takeSign (Text.trimSpaces text.toList)).2 with
    | none =>
      rw [groups] at reads
      cases reads
    | some digits =>
      simp only [groups] at reads
      split at reads
      case isTrue => cases reads
      case isFalse fits =>
        cases reads
        exact .intro (shape ▸ whole) front back isSign (groupedDigits?_eq_some_iff.mp groups)
          (Nat.not_lt.mp fits)
  · rintro ⟨characters, front, back, isSign, grouped, fits⟩
    rw [integer?, characters, readInteger_of_grouped front back isSign grouped,
      if_neg (Nat.not_lt.mpr fits)]
    rfl

/-! ## Plain spellings -/

/-- ASCII digits are grouped, without underscores. -/
theorem grouped_of_digits {characters : List Char} (some_digit : characters ≠ [])
    (digits : ∀ c ∈ characters, c.isDigit = true) :
    Grouped characters (characters.map fun c => c.toNat - '0'.toNat) := by
  induction characters with
  | nil => exact absurd rfl some_digit
  | cons c rest ih =>
    obtain ⟨digit, others⟩ := List.forall_mem_cons.mp digits
    have value := Text.digitValue?_of_isDigit digit
    cases rest with
    | nil => exact .last value
    | cons d more => exact .next value (ih (List.cons_ne_nil d more) others)

theorem ofDigits_map (characters : List Char) :
    Text.ofDigits 10 (characters.map fun c => c.toNat - '0'.toNat) =
      Nat.ofDigitChars 10 characters 0 := by
  rw [Text.ofDigits, List.foldl_map, Nat.ofDigitChars_eq_foldl]
  simp only [Nat.mul_comm]

/-- ASCII digits are read as the number that they stand for, unless they are too many. -/
theorem readInteger_of_digits {characters : List Char} (some_digit : characters ≠ [])
    (digits : ∀ c ∈ characters, c.isDigit = true) :
    readInteger characters =
      if digitLimit < characters.length then .error (.tooLong characters.length)
      else .ok (Nat.ofDigitChars 10 characters 0) := by
  have noBlank : ∀ c ∈ ([] : List Char), Text.isSpace c = true := nofun
  have reads := readInteger_of_grouped noBlank noBlank .absent
    (grouped_of_digits some_digit digits)
  rwa [List.nil_append, List.nil_append, List.append_nil, List.length_map, signed,
    if_neg Bool.false_ne_true, ofDigits_map] at reads

/-- A number in decimal notation is read unless it has too many digits. -/
theorem integer?_repr (number : Nat) :
    integer? number.repr =
      if (Nat.toDigits 10 number).length ≤ digitLimit then some (number : Int) else none := by
  have digits : ∀ c ∈ Nat.toDigits 10 number, c.isDigit = true := fun c member =>
    Nat.isDigit_of_mem_toDigits (by decide) (by decide) member
  rw [integer?, Nat.toList_repr, readInteger_of_digits Nat.toDigits_ne_nil digits,
    Nat.ofDigitChars_ten_toDigits]
  by_cases fits : (Nat.toDigits 10 number).length ≤ digitLimit
  · rw [if_neg (Nat.not_lt.mpr fits), if_pos fits]
    rfl
  · rw [if_pos (Nat.not_le.mp fits), if_neg fits]
    rfl

end Number

end ApiAdmission
