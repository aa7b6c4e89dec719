import ApiAdmission.Proofs.World.TextFile
import ApiAdmission.World.Change

/-!
# Looking up what is there

A look-up takes plain names as they are, as long as there are only directories on the way
(`lookupFrom_of_descend?`).  For a path that leads so to an entry (`FileSystem.Leads`), everything
that asks the file system has a plain answer.
-/

namespace ApiAdmission

set_option autoImplicit false

/-- The bytes of an ASCII text. -/
def asciiBytes (text : String) : List UInt8 := text.toList.map fun c => c.toNat.toUInt8

namespace Entry

theorem descend?_append (entry : Entry) (first second : List String) :
    entry.descend? (first ++ second) = (entry.descend? first).bind (·.descend? second) := by
  induction first generalizing entry with
  | nil => rfl
  | cons name rest ih =>
    cases entry with
    | directory entries =>
      show (lookup? name entries).bind _ = ((lookup? name entries).bind _).bind _
      rw [Option.bind_assoc]
      exact congrArg _ (funext ih)
    | _ => rfl

theorem of_descend?_append {entry below : Entry} {first : List String} {name : String}
    {rest : List String} (found : entry.descend? (first ++ name :: rest) = some below) :
    ∃ entries, entry.descend? first = some (.directory entries) ∧
      ∃ next, lookup? name entries = some next ∧ next.descend? rest = some below := by
  rw [descend?_append] at found
  cases above : entry.descend? first with
  | none => simp [above] at found
  | some parent =>
    rw [above] at found
    cases parent with
    | directory entries => exact ⟨entries, rfl, Option.bind_eq_some_iff.mp found⟩
    | _ => cases found

end Entry

namespace FileSystem

variable {files : FileSystem}

/-- A name that leads down and is not too long. -/
def IsPlain (name : String) : Prop := name ≠ Path.above ∧ name.utf8ByteSize ≤ longestName

instance (name : String) : Decidable (IsPlain name) := inferInstanceAs (Decidable (_ ∧ _))

/-- Along plain names and directories, a look-up goes on from what is stored under the names. -/
theorem lookupFrom_append {links : Nat} {here names : List String} {entry : Entry}
    (plain : ∀ name ∈ names, IsPlain name) (noLink : ∀ target, entry ≠ .link target)
    (found : files.root.descend? (here ++ names) = some entry) (rest : List String) :
    files.lookupFrom links here (names ++ rest) = files.lookupFrom links (here ++ names) rest := by
  induction names generalizing here with
  | nil => rw [List.append_nil, List.nil_append]
  | cons name more ih =>
    obtain ⟨⟨notAbove, short⟩, plainMore⟩ := List.forall_mem_cons.mp plain
    obtain ⟨entries, directory, next, stored, below⟩ := Entry.of_descend?_append found
    have real : ∀ target, next ≠ .link target := by
      rintro target rfl
      cases more with
      | nil => exact noLink target (Option.some.inj below).symm
      | cons => cases below
    have onward : files.lookupFrom links (here ++ [name]) (more ++ rest) =
        files.lookupFrom links (here ++ [name] ++ more) rest :=
      ih plainMore (by rwa [List.append_assoc])
    rw [List.append_assoc] at onward
    rw [List.cons_append, lookupFrom, directory]
    simp only [beq_iff_eq, notAbove, if_false, Nat.not_lt.mpr short, stored]
    cases next with
    | link target => exact absurd rfl (real target)
    | _ => exact onward

/-- So it finds what is stored there. -/
theorem lookupFrom_of_descend? {links : Nat} {here names : List String} {entry : Entry}
    (plain : ∀ name ∈ names, IsPlain name) (noLink : ∀ target, entry ≠ .link target)
    (found : files.root.descend? (here ++ names) = some entry) :
    files.lookupFrom links here names = .ok (here ++ names, entry) := by
  have whole : files.lookupFrom links here (names ++ []) = _ :=
    lookupFrom_append plain noLink found []
  rw [List.append_nil] at whole
  rw [whole, lookupFrom, found]

section Directory

variable {links : Nat} {here rest : List String} {name : String}
  {entries : List (String × Entry)} (notAbove : name ≠ Path.above)
  (directory : files.root.descend? here = some (.directory entries))
include notAbove directory

theorem lookupFrom_tooLong (long : longestName < name.utf8ByteSize) :
    files.lookupFrom links here (name :: rest) = .error .nameTooLong := by
  rw [lookupFrom, directory]
  simp only [beq_iff_eq, notAbove, if_false, long, if_true]

variable (short : name.utf8ByteSize ≤ longestName)
include short

theorem lookupFrom_missing (missing : Entry.lookup? name entries = none) :
    files.lookupFrom links here (name :: rest) = .error .notFound := by
  rw [lookupFrom, directory]
  simp only [beq_iff_eq, notAbove, if_false, Nat.not_lt.mpr short, missing]

theorem lookupFrom_link {target : String}
    (stored : Entry.lookup? name entries = some (.link target)) :
    files.lookupFrom (links + 1) here (name :: rest) =
      files.lookupFrom links (if (Path.ofText target).isAbsolute then [] else here)
        ((Path.ofText target).names ++ rest) := by
  rw [lookupFrom, directory]
  simp only [beq_iff_eq, notAbove, if_false, Nat.not_lt.mpr short, stored]

end Directory

/-- A path that a look-up takes as it is, to what is really stored there. -/
structure Leads (files : FileSystem) (path : Path) (entry : Entry) : Prop where
  short : path.text.utf8ByteSize < pathLimit
  noNull : '\x00' ∉ path.text.toList
  plain : ∀ name ∈ path.names, IsPlain name
  noLink : ∀ target, entry ≠ .link target
  found : files.root.descend? (files.startOf path ++ path.names) = some entry

namespace Leads

variable {path : Path} {entry : Entry}

theorem lookup (leads : files.Leads path entry) :
    files.lookup path = .ok (files.startOf path ++ path.names, entry) := by
  rw [FileSystem.lookup, if_neg (Nat.not_le.mpr leads.short)]
  exact lookupFrom_of_descend? leads.plain leads.noLink leads.found

theorem entryAt (leads : files.Leads path entry) : files.entryAt path = .ok entry := by
  rw [FileSystem.entryAt, if_neg (by simpa using leads.noNull), leads.lookup]

theorem satisfies (leads : files.Leads path entry) (condition : Entry → Bool) :
    files.satisfies condition path = .ok (condition entry) := by
  rw [FileSystem.satisfies, leads.entryAt]

theorem readText {content : List UInt8} {characters : List Char}
    (leads : files.Leads path (.file content)) (decodes : Utf8.decode content = .ok characters) :
    files.readText path = .ok (String.ofList (Text.normalizeNewlines characters)) := by
  have accessed : files.readBytes path = .ok content := by
    rw [readBytes, leads.entryAt]
    rfl
  rw [readText_of_bytes accessed, decodes]

theorem parent {below : List (String × Entry)} {name : String}
    (leads : files.Leads path (.directory below)) (last : path.names.getLast? = some name)
    (short : path.parent.text.utf8ByteSize < pathLimit)
    (noNull : '\x00' ∉ path.parent.text.toList) :
    ∃ entries, files.Leads path.parent (.directory entries) ∧
      Entry.lookup? name entries = some (.directory below) := by
  have names : path.names = path.names.dropLast ++ [name] := by
    obtain ⟨before, names⟩ := List.getLast?_eq_some_iff.mp last
    rw [names, List.dropLast_concat]
  have found := leads.found
  rw [names, ← List.append_assoc] at found
  obtain ⟨entries, directory, next, stored, here⟩ := Entry.of_descend?_append found
  cases here
  exact ⟨entries, ⟨short, noNull, fun other member =>
    leads.plain other (List.dropLast_subset _ member), nofun, directory⟩, stored⟩

/-- A directory that is there is not made again. -/
theorem makeDirectories {below : List (String × Entry)} {name : String}
    (leads : files.Leads path (.directory below)) (last : path.names.getLast? = some name)
    (short : path.parent.text.utf8ByteSize < pathLimit)
    (noNull : '\x00' ∉ path.parent.text.toList) :
    files.makeDirectories path = .ok files := by
  obtain ⟨entries, above, stored⟩ := leads.parent last short noNull
  obtain ⟨notAbove, fits⟩ := leads.plain name (List.mem_of_getLast? last)
  have refused : files.makeDirectory path = .error (.refused ⟨.alreadyExists, path.text⟩) := by
    unfold makeDirectory
    simp only [last, above.lookup, List.contains_eq_mem, leads.noNull, beq_iff_eq, notAbove,
      Nat.not_lt.mpr fits, stored, decide_false, if_false, Bool.false_eq_true]
  have there : files.isDirectory path = .ok true := leads.satisfies Entry.isDirectory
  unfold FileSystem.makeDirectories
  simp only [makeDirectoriesWithin, refused, there]
  rfl

/-- Nothing is true of an entry that a directory does not have. -/
theorem satisfies_missing {below : List (String × Entry)} {name : String}
    (leads : files.Leads path (.directory below)) (plain : IsPlain name)
    (missing : Entry.lookup? name below = none)
    (short : (path.child name).text.utf8ByteSize < pathLimit)
    (noNull : '\x00' ∉ (path.child name).text.toList) (condition : Entry → Bool) :
    files.satisfies condition (path.child name) = .ok false := by
  have lost : files.lookup (path.child name) = .error .notFound := by
    rw [FileSystem.lookup, if_neg (Nat.not_le.mpr short)]
    have onward : files.lookupFrom linkLimit (files.startOf path) (path.names ++ [name]) = _ :=
      lookupFrom_append leads.plain leads.noLink leads.found [name]
    exact onward.trans (lookupFrom_missing plain.1 leads.found plain.2 missing)
  rw [FileSystem.satisfies, FileSystem.entryAt, if_neg (by simpa using noNull), lost]

end Leads

end FileSystem

end ApiAdmission
