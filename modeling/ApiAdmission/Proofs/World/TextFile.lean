import ApiAdmission.Document.Parse
import ApiAdmission.Reference.Surroundings
import ApiAdmission.World.TextFile
import Mathlib.Data.Set.Finite.Lattice

/-!
# What files can be read

Reading a file as text ends in one of three ways: with a text, with a refusal of the file system, or
with a breakdown, and the breakdowns are those of a null character in the path and of bytes that are
no UTF-8 (`readText_eq_error_iff`).

However a path leads there, what is read is stored in a regular file of the tree, so a file system
has only finitely many texts (`finite_texts`), although infinitely many paths lead to them.
-/

namespace ApiAdmission

set_option autoImplicit false

/-! ## The files of a tree -/

namespace Entry

/-- An entry that is found among others has its files among theirs. -/
theorem fileNames_subset {name : String} {entry : Entry} {entries : List (String × Entry)}
    (found : lookup? name entries = some entry) (here : List String) :
    entry.fileNames (here ++ [name]) ⊆ fileNamesIn here entries := by
  induction entries with
  | nil => cases found
  | cons first rest ih =>
    obtain ⟨other, stored⟩ := first
    rw [fileNamesIn]
    rw [lookup?] at found
    split at found
    case isTrue same =>
      cases found
      rw [← eq_of_beq same]
      exact List.subset_append_left _ _
    case isFalse => exact List.subset_append_of_subset_right _ (ih found)

/-- The names that lead to a file are among those of the files. -/
theorem mem_fileNames {entry : Entry} {names : List String} {content : List UInt8}
    (leads : entry.descend? names = some (.file content)) (here : List String) :
    here ++ names ∈ entry.fileNames here := by
  induction names generalizing entry here with
  | nil =>
    cases leads
    simp [fileNames]
  | cons name rest ih =>
    cases entry with
    | file | link => cases leads
    | directory entries =>
      obtain ⟨next, found, further⟩ := Option.bind_eq_some_iff.mp leads
      have member := ih further (here ++ [name])
      rw [List.append_assoc] at member
      exact fileNames_subset found here member

end Entry

namespace FileSystem

variable {files : FileSystem} {path : Path}

/-! ## Looking up -/

/-- What a look-up finds is stored under the names that it gives. -/
theorem descend?_of_lookupFrom {links : Nat} {here names found : List String} {entry : Entry}
    (finds : files.lookupFrom links here names = .ok (found, entry)) :
    files.root.descend? found = some entry := by
  fun_induction files.lookupFrom links here names
  case case1 there =>
    cases finds
    exact there
  case case3 ih | case7 ih | case8 ih => exact ih finds
  all_goals cases finds

/-! ## Reading bytes -/

/-- A null character in a path breaks down every access to a file. -/
theorem readBytes_of_null (null : '\x00' ∈ path.text.toList) :
    files.readBytes path = .error nullInPath := by
  rw [readBytes, entryAt, if_pos (by simpa using null)]
  rfl

/-- Without one, bytes that cannot be had are refused. -/
theorem refused_of_readBytes {breakdown : Breakdown} (plain : '\x00' ∉ path.text.toList)
    (fails : files.readBytes path = .error breakdown) :
    ∃ refusal, breakdown = .refused refusal := by
  rw [readBytes, entryAt, if_neg (by simpa using plain)] at fails
  cases found : files.lookup path with
  | error cause =>
    rw [found] at fails
    cases fails
    exact ⟨_, rfl⟩
  | ok place =>
    obtain ⟨names, entry⟩ := place
    rw [found] at fails
    cases entry <;> cases fails <;> exact ⟨_, rfl⟩

/-- Bytes that can be had are those of a regular file, and the path is not too long. -/
theorem of_readBytes {bytes : List UInt8} (reads : files.readBytes path = .ok bytes) :
    path.text.utf8ByteSize < pathLimit ∧
      ∃ names, files.root.descend? names = some (.file bytes) := by
  by_cases null : '\x00' ∈ path.text.toList
  · cases (readBytes_of_null null).symm.trans reads
  · rw [readBytes, entryAt, if_neg (by simpa using null)] at reads
    cases found : files.lookup path with
    | error cause =>
      rw [found] at reads
      cases reads
    | ok place =>
      obtain ⟨names, entry⟩ := place
      rw [found] at reads
      cases entry with
      | directory | link => cases reads
      | file content =>
        cases reads
        rw [lookup] at found
        split at found
        case isTrue => cases found
        case isFalse short => exact ⟨Nat.lt_of_not_le short, names, descend?_of_lookupFrom found⟩

/-! ## Reading text -/

/-- Bytes that can be had are read as UTF-8. -/
theorem readText_of_bytes {bytes : List UInt8} (accessed : files.readBytes path = .ok bytes) :
    files.readText path =
      match Utf8.decode bytes with
      | .ok characters => .ok (String.ofList (Text.normalizeNewlines characters))
      | .error fault => .error (.undecodable fault) := by
  rw [readText, accessed]
  rfl

/-- Bytes that cannot be had are no text either. -/
theorem readText_of_error {breakdown : Breakdown}
    (fails : files.readBytes path = .error breakdown) :
    files.readText path = .error breakdown := by
  rw [readText, fails]
  rfl

/-- **Why a file cannot be read as text.**  The file system refuses, or the path has a null
character, or the bytes are no UTF-8. -/
theorem readText_eq_error_iff {breakdown : Breakdown} :
    files.readText path = .error breakdown ↔
      (∃ refusal, files.readBytes path = .error (.refused refusal) ∧
        breakdown = .refused refusal) ∨
      ('\x00' ∈ path.text.toList ∧ breakdown = nullInPath) ∨
      ∃ bytes fault, files.readBytes path = .ok bytes ∧ Utf8.decode bytes = .error fault ∧
        breakdown = .undecodable fault := by
  cases accessed : files.readBytes path with
  | error cause =>
    rw [readText_of_error accessed]
    by_cases null : '\x00' ∈ path.text.toList
    · cases accessed.symm.trans (readBytes_of_null null)
      simp [null, nullInPath, eq_comm]
    · obtain ⟨refusal, rfl⟩ := refused_of_readBytes null accessed
      simp [null, eq_comm]
  | ok bytes =>
    have plain : '\x00' ∉ path.text.toList := by
      intro null
      cases accessed.symm.trans (readBytes_of_null null)
    rw [readText_of_bytes accessed]
    cases decoded : Utf8.decode bytes <;> simp [plain, decoded, eq_comm]

/-- A text that can be read is that of a regular file, and the path is not too long. -/
theorem of_readText {text : String} (reads : files.readText path = .ok text) :
    path.text.utf8ByteSize < pathLimit ∧
      ∃ names bytes characters, files.root.descend? names = some (.file bytes) ∧
        Utf8.decode bytes = .ok characters ∧
        text = String.ofList (Text.normalizeNewlines characters) := by
  cases accessed : files.readBytes path with
  | error cause => cases (readText_of_error accessed).symm.trans reads
  | ok bytes =>
    obtain ⟨short, names, leads⟩ := of_readBytes accessed
    rw [readText_of_bytes accessed] at reads
    cases decoded : Utf8.decode bytes with
    | error fault =>
      rw [decoded] at reads
      cases reads
    | ok characters =>
      rw [decoded] at reads
      cases reads
      exact ⟨short, names, bytes, characters, leads, decoded, rfl⟩

/-- The text that names lead to, if they lead to a file that is a text. -/
def textAt? (files : FileSystem) (names : List String) : Option String :=
  match files.root.descend? names with
  | some (.file bytes) =>
    (Utf8.decode bytes).toOption.map fun characters =>
      String.ofList (Text.normalizeNewlines characters)
  | _ => none

/-- A file system has only finitely many texts. -/
theorem finite_texts (files : FileSystem) :
    {text | ∃ path, files.readText path = .ok text}.Finite := by
  refine (List.finite_toSet ((files.root.fileNames []).filterMap files.textAt?)).subset ?_
  rintro text ⟨path, reads⟩
  obtain ⟨_, names, bytes, characters, leads, decoded, rfl⟩ := of_readText reads
  refine List.mem_filterMap.mpr ⟨names, Entry.mem_fileNames leads [], ?_⟩
  simp [textAt?, leads, decoded, Except.toOption]

end FileSystem

end ApiAdmission
