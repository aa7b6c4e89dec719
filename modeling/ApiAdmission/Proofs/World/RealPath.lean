import ApiAdmission.Proofs.Text.Search
import ApiAdmission.World.RealPath
import Mathlib.Data.Set.Finite.List
import Mathlib.Data.Fintype.Basic

/-!
# How long real paths are

The names of a real path are those of the working directory, or a beginning of them, followed by
names that were read from a text.  Only the latter are sure to stay when the path is read again, so
a real path may be longer than what is looked up for it, but by no more than the working directory
is long (`size_real_le`).

Since no longer path than a fixed limit can be looked up, there are only finitely many real paths
that lead anywhere (`finite_reals`).
-/

namespace ApiAdmission

set_option autoImplicit false

namespace Path

/-! ## Names -/

/-- A name that a text can have: it is not empty, no single dot, and has no slash. -/
structure IsName (name : String) : Prop where
  notEmpty : name ≠ ""
  noDot : name ≠ "."
  noSlash : '/' ∉ name.toList

theorem isName_of_mem_namesOf {name text : String} (member : name ∈ namesOf text) :
    IsName name := by
  obtain ⟨pieceOf, real⟩ := List.mem_filter.mp member
  obtain ⟨piece, here, rfl⟩ := List.mem_map.mp pieceOf
  have proper : String.ofList piece ≠ "" ∧ String.ofList piece ≠ "." := by simpa using real
  exact ⟨proper.1, proper.2, by simpa using Text.separator_notMem here⟩

theorem namesOf_of_isName {name : String} (proper : IsName name) : namesOf name = [name] := by
  simp [namesOf, Text.split, Text.splitAt_of_notMem proper.noSlash, proper.notEmpty, proper.noDot]

theorem namesOf_append (before after : String) :
    namesOf (before ++ "/" ++ after) = namesOf before ++ namesOf after := by
  have chars : (before ++ "/" ++ after).toList = before.toList ++ '/' :: after.toList := by simp
  rw [namesOf, Text.split, chars, Text.splitAt_append, List.map_append, List.filter_append]
  rfl

theorem namesOf_empty : namesOf "" = [] := by decide +kernel

/-- The names of names that are joined are the names of each. -/
theorem namesOf_join (names : List String) :
    namesOf (Text.join "/" names) = names.flatMap namesOf := by
  match names with
  | [] => exact namesOf_empty
  | [name] => simp [Text.join]
  | first :: second :: rest =>
    have others := namesOf_join (second :: rest)
    rw [Text.join] at others ⊢
    rw [String.intercalate_cons_cons, namesOf_append, others]
    rfl

/-! ## The weight of names -/

/-- The bytes of names, with a slash for each. -/
def weight : List String → Nat
  | [] => 0
  | name :: rest => name.utf8ByteSize + 1 + weight rest

theorem weight_append (before after : List String) :
    weight (before ++ after) = weight before + weight after := by
  induction before with
  | nil => exact (Nat.zero_add _).symm
  | cons name rest ih =>
    rw [List.cons_append, weight, weight, ih]
    exact (Nat.add_assoc _ _ _).symm

/-- Names that are joined weigh as much as their text has bytes, but for one slash. -/
theorem size_join {names : List String} (some_name : names ≠ []) :
    (Text.join "/" names).utf8ByteSize + 1 = weight names := by
  match names with
  | [name] => simp [Text.join, weight]
  | first :: second :: rest =>
    have others := size_join (List.cons_ne_nil second rest)
    have slash : "/".utf8ByteSize = 1 := by decide +kernel
    rw [Text.join] at others ⊢
    rw [String.intercalate_cons_cons, String.utf8ByteSize_append, String.utf8ByteSize_append, slash]
    simp only [weight] at others ⊢
    omega

theorem size_join_le (names : List String) : (Text.join "/" names).utf8ByteSize ≤ weight names := by
  cases names with
  | nil => simp [Text.join]
  | cons name rest =>
    have exact_size := size_join (List.cons_ne_nil name rest)
    omega

theorem weight_le (names : List String) :
    weight names ≤ (Text.join "/" names).utf8ByteSize + 1 := by
  cases names with
  | nil => exact Nat.zero_le _
  | cons name rest => exact (size_join (List.cons_ne_nil name rest)).ge

/-- The names of a path weigh no more than its text. -/
theorem weight_le_text (path : Path) : weight path.names ≤ path.text.utf8ByteSize + 1 := by
  have names := weight_le path.names
  unfold text
  dsimp only
  split
  case isTrue empty =>
    have none : (path.anchor ++ Text.join "/" path.names).utf8ByteSize = 0 := by
      rw [eq_of_beq empty]
      rfl
    rw [String.utf8ByteSize_append] at none
    omega
  case isFalse =>
    rw [String.utf8ByteSize_append]
    omega

end Path

namespace FileSystem

open ApiAdmission.Path

/-! ## The names of a real path -/

/-- Names of which the first ones are light enough, and all others are read from a text. -/
def Rooted (limit : Nat) (names : List String) : Prop :=
  ∃ light proper, names = light ++ proper ∧ weight light ≤ limit ∧ ∀ name ∈ proper, IsName name

namespace Rooted

variable {limit : Nat} {names : List String}

theorem nil (limit : Nat) : Rooted limit [] := ⟨[], [], rfl, Nat.zero_le _, by simp⟩

theorem light (fits : weight names ≤ limit) : Rooted limit names :=
  ⟨names, [], (List.append_nil _).symm, fits, by simp⟩

theorem orRoot (rooted : Rooted limit names) (absolute : Prop) [Decidable absolute] :
    Rooted limit (if absolute then [] else names) := by
  split
  · exact .nil limit
  · exact rooted

theorem append (rooted : Rooted limit names) {more : List String}
    (proper : ∀ name ∈ more, IsName name) : Rooted limit (names ++ more) := by
  obtain ⟨start, others, rfl, fits, named⟩ := rooted
  refine ⟨start, others ++ more, List.append_assoc _ _ _, fits, fun name member => ?_⟩
  rcases List.mem_append.mp member with here | there
  · exact named name here
  · exact proper name there

theorem weight_dropLast_le (names : List String) : weight names.dropLast ≤ weight names := by
  rcases List.eq_nil_or_concat names with rfl | ⟨start, last, rfl⟩
  · exact Nat.le_refl _
  · rw [List.concat_eq_append, List.dropLast_concat, weight_append]
    exact Nat.le_add_right _ _

theorem dropLast (rooted : Rooted limit names) : Rooted limit names.dropLast := by
  obtain ⟨start, others, rfl, fits, named⟩ := rooted
  cases others with
  | nil =>
    rw [List.append_nil]
    exact .light ((weight_dropLast_le start).trans fits)
  | cons name rest =>
    rw [List.dropLast_append_of_ne_nil (List.cons_ne_nil name rest)]
    exact ⟨start, _, rfl, fits, fun other member => named other (List.mem_of_mem_dropLast member)⟩

/-- Working out pairs of dots makes light names no heavier. -/
theorem weight_foldl_le (here names : List String) :
    weight (names.foldl (fun here name =>
      if name == above then here.dropLast else here ++ [name]) here) ≤
      weight here + weight names := by
  induction names generalizing here with
  | nil => exact Nat.le_add_right _ _
  | cons name rest ih =>
    refine (ih _).trans ?_
    have whole : weight (name :: rest) = name.utf8ByteSize + 1 + weight rest := by simp [weight]
    dsimp only
    split
    · have lighter := weight_dropLast_le here
      omega
    · have one : weight [name] = name.utf8ByteSize + 1 := by simp [weight]
      rw [weight_append, one]
      omega

theorem foldl (rooted : Rooted limit names) {more : List String}
    (proper : ∀ name ∈ more, IsName name) :
    Rooted limit (more.foldl (fun here name =>
      if name == above then here.dropLast else here ++ [name]) names) := by
  induction more generalizing names with
  | nil => exact rooted
  | cons name rest ih =>
    obtain ⟨first, others⟩ := List.forall_mem_cons.mp proper
    refine ih ?_ others
    dsimp only
    split
    · exact rooted.dropLast
    · exact rooted.append (List.forall_mem_singleton.mpr first)

theorem collapse (rooted : Rooted limit names) : Rooted limit (FileSystem.collapse names) := by
  obtain ⟨start, others, rfl, fits, named⟩ := rooted
  rw [FileSystem.collapse, List.foldl_append]
  have lighter := weight_foldl_le [] start
  exact .foldl (.light (lighter.trans ((Nat.zero_add _).trans_le fits))) named

end Rooted

/-- Links whose meanings are rooted. -/
def RootedLinks (limit : Nat) (known : KnownLinks) : Prop :=
  ∀ link ∈ known, ∀ meaning, link.2 = some meaning → Rooted limit meaning

theorem RootedLinks.cons {limit : Nat} {known : KnownLinks} (meanings : RootedLinks limit known)
    {link : List String × Option (List String)}
    (first : ∀ meaning, link.2 = some meaning → Rooted limit meaning) :
    RootedLinks limit (link :: known) :=
  List.forall_mem_cons.mpr ⟨first, meanings⟩

theorem RootedLinks.of_knownLink? {limit : Nat} {known : KnownLinks}
    (meanings : RootedLinks limit known) {names meaning : List String}
    (found : knownLink? known names = some (some meaning)) : Rooted limit meaning := by
  obtain ⟨link, stored, means⟩ := Option.map_eq_some_iff.mp found
  exact meanings link (List.mem_of_find?_eq_some stored) meaning means

/-- Following names from rooted ones leads to rooted ones. -/
theorem rooted_realFrom {files : FileSystem} {limit nesting : Nat} {here names : List String}
    {known : KnownLinks} (rooted : Rooted limit here) (proper : ∀ name ∈ names, IsName name)
    (meanings : RootedLinks limit known) :
    Rooted limit (files.realFrom nesting here names known).names ∧
      RootedLinks limit (files.realFrom nesting here names known).known := by
  fun_induction files.realFrom nesting here names known
  case case1 => exact ⟨rooted, meanings⟩
  all_goals obtain ⟨first, others⟩ := List.forall_mem_cons.mp proper
  case case2 ih => exact ih rooted.dropLast others meanings
  case case3 found ih => exact ih (meanings.of_knownLink? found) others meanings
  case case4 | case5 =>
    exact ⟨(rooted.append (List.forall_mem_singleton.mpr first)).append others, meanings⟩
  case case6 target _ _ nesting path start inner _ ih _ onward =>
    have began : Rooted limit start := rooted.orRoot _
    obtain ⟨meaning, links⟩ := ih began (fun _ member => isName_of_mem_namesOf member)
      (meanings.cons nofun)
    refine onward meaning others (links.cons ?_)
    rintro _ ⟨⟩
    exact meaning
  case case7 target _ _ nesting path start inner _ ih =>
    have began : Rooted limit start := rooted.orRoot _
    obtain ⟨meaning, links⟩ := ih began (fun _ member => isName_of_mem_namesOf member)
      (meanings.cons nofun)
    exact ⟨meaning.append others, links⟩
  case case8 ih => exact ih (rooted.append (List.forall_mem_singleton.mpr first)) others meanings

section RealPath

variable {files : FileSystem} {path real : Path}

/-- What the names of a path come to when they are followed, with the pairs of dots worked out. -/
def reached (files : FileSystem) (path : Path) : Path :=
  ⟨"/", collapse (files.realFrom files.root.count (files.startOf path) path.names []).names⟩

/-- A real path is what its names come to. -/
theorem of_realPath (leads : files.realPath path = .ok real) : real = files.reached path := by
  unfold realPath at leads
  split at leads
  · cases leads
  · dsimp only at leads
    split at leads <;> cases leads
    rfl

/-- A path has no real path if it has a null character, or if links on the way lead in a circle. -/
theorem realPath_eq_error_iff {breakdown : Breakdown} :
    files.realPath path = .error breakdown ↔
      ('\x00' ∈ path.text.toList ∧ breakdown = nullInPath) ∨
      ('\x00' ∉ path.text.toList ∧ breakdown = .lostPath ∧
        files.lookup (files.reached path) = .error .tooManyLinks) := by
  unfold realPath reached
  by_cases null : '\x00' ∈ path.text.toList
  · simp [null, eq_comm]
  · have plain : path.text.toList.contains '\x00' = false := by simpa using null
    simp only [plain, Bool.false_eq_true, if_false, null, false_and, false_or, not_false_eq_true,
      true_and]
    split
    case h_1 circular => simp [circular, eq_comm]
    case h_2 other =>
      simp only [reduceCtorEq, false_iff, not_and]
      exact fun _ circular => other circular

/-- The names of a real path are rooted in the working directory. -/
theorem rooted_realPath (proper : ∀ name ∈ path.names, IsName name)
    (leads : files.realPath path = .ok real) :
    Rooted (weight files.workingDirectory) real.names := by
  have start : Rooted (weight files.workingDirectory) (files.startOf path) :=
    (Rooted.light (Nat.le_refl _)).orRoot _
  have noLinks : RootedLinks (weight files.workingDirectory) [] := fun _ member => by cases member
  rw [of_realPath leads]
  exact (rooted_realFrom start proper noLinks).1.collapse

/-- The text of a real path begins with a slash. -/
theorem text_realPath (leads : files.realPath path = .ok real) :
    real.text = "" ++ "/" ++ Text.join "/" real.names := by
  rw [of_realPath leads]
  simp [Path.text, reached]

end RealPath

/-! ## The length of a real path -/

/-- A real path is longer than what is looked up for it by no more than the working directory is
long. -/
theorem size_real_le {files : FileSystem} {path real : Path}
    (proper : ∀ name ∈ path.names, IsName name) (leads : files.realPath path = .ok real) :
    real.text.utf8ByteSize ≤
      (Path.ofText real.text).text.utf8ByteSize + weight files.workingDirectory + 2 := by
  obtain ⟨light, others, names, fits, named⟩ := rooted_realPath proper leads
  have text := text_realPath leads
  have read : (Path.ofText real.text).names = real.names.flatMap namesOf := by
    rw [text]
    show namesOf _ = _
    rw [namesOf_append, namesOf_empty, List.nil_append, namesOf_join]
  have kept : others.flatMap namesOf = others := by
    rw [List.flatMap_congr fun name member => namesOf_of_isName (named name member)]
    simp
  have whole := weight_le_text (Path.ofText real.text)
  rw [read, names, List.flatMap_append, kept, weight_append] at whole
  have joined := size_join_le real.names
  rw [names, weight_append] at joined
  have size : real.text.utf8ByteSize = 1 + (Text.join "/" (light ++ others)).utf8ByteSize := by
    have slash : ("" ++ "/").utf8ByteSize = 1 := by decide +kernel
    rw [text, String.utf8ByteSize_append, slash, names]
  omega

/-! ## Short texts -/

theorem finite_char : Finite Char :=
  .of_injective (fun c => c.val.toBitVec.toFin) fun _ _ same =>
    Char.ext (UInt32.toBitVec_inj.mp (BitVec.toFin_inj.mp same))

/-- A text has no more characters than bytes. -/
theorem length_le_size (characters : List Char) :
    characters.length ≤ (String.ofList characters).utf8ByteSize := by
  induction characters with
  | nil => exact Nat.zero_le _
  | cons c rest ih =>
    have positive := c.utf8Size_pos
    have first : (String.ofList [c]).utf8ByteSize = c.utf8Size := by
      rw [← String.singleton_eq_ofList, String.utf8ByteSize_singleton]
    rw [← List.singleton_append, String.ofList_append, String.utf8ByteSize_append, first,
      List.singleton_append, List.length_cons]
    omega

/-- There are finitely many texts of a limited length. -/
theorem finite_short (limit : Nat) : {text : String | text.utf8ByteSize ≤ limit}.Finite := by
  have := finite_char
  refine ((List.finite_length_le Char limit).image String.ofList).subset fun text short => ?_
  refine ⟨text.toList, ?_, String.ofList_toList⟩
  have characters := length_le_size text.toList
  rw [String.ofList_toList] at characters
  exact characters.trans short

/-- **There are finitely many real paths that are short enough to be looked up.** -/
theorem finite_reals (files : FileSystem) :
    {location | ∃ path real, (∀ name ∈ path.names, IsName name) ∧ files.realPath path = .ok real ∧
      location = real.text ∧ (Path.ofText location).text.utf8ByteSize < pathLimit}.Finite := by
  refine (finite_short (pathLimit + weight files.workingDirectory + 2)).subset ?_
  rintro _ ⟨path, real, proper, leads, rfl, short⟩
  have size := size_real_le proper leads
  show real.text.utf8ByteSize ≤ _
  omega

end FileSystem

end ApiAdmission
