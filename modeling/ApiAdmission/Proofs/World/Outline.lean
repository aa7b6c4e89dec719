import ApiAdmission.World.RealPath
import ApiAdmission.Reference.Location

/-!
# The outline of a file system

The outline of a file system has the same names, directories and links, and nothing in its files.
Paths are looked up and made real by names and links alone, so they lead to the same places in the
outline (`realPath_outline`), and so do the parts of references that name documents
(`locate_outline`).
-/

namespace ApiAdmission

set_option autoImplicit false

namespace Entry

mutual
/-- An entry with nothing in its files. -/
def outline : Entry → Entry
  | .file _ => .file []
  | .directory entries => .directory (outlineIn entries)
  | .link target => .link target
termination_by structural entry => entry

/-- Named entries with nothing in their files. -/
def outlineIn : List (String × Entry) → List (String × Entry)
  | [] => []
  | (name, entry) :: rest => (name, outline entry) :: outlineIn rest
termination_by structural entries => entries
end

theorem lookup?_outlineIn (name : String) (entries : List (String × Entry)) :
    lookup? name (outlineIn entries) = (lookup? name entries).map outline := by
  induction entries with
  | nil => rfl
  | cons first rest ih =>
    obtain ⟨other, entry⟩ := first
    rw [outlineIn, lookup?, lookup?, ih]
    split <;> rfl

theorem descend?_outline (entry : Entry) (names : List String) :
    entry.outline.descend? names = (entry.descend? names).map outline := by
  induction names generalizing entry with
  | nil => rfl
  | cons name rest ih =>
    cases entry with
    | file | link => rfl
    | directory entries =>
      show (lookup? name (outlineIn entries)).bind (descend? · rest) =
        ((lookup? name entries).bind (descend? · rest)).map outline
      rw [lookup?_outlineIn]
      cases lookup? name entries with
      | none => rfl
      | some next => exact ih next

mutual
theorem count_outline : (entry : Entry) → entry.outline.count = entry.count
  | .file _ => rfl
  | .directory entries => congrArg (1 + ·) (countIn_outlineIn entries)
  | .link _ => rfl

theorem countIn_outlineIn : (entries : List (String × Entry)) →
    countIn (outlineIn entries) = countIn entries
  | [] => rfl
  | (_, entry) :: rest => by
    rw [outlineIn, countIn, countIn, count_outline entry, countIn_outlineIn rest]
end

end Entry

namespace FileSystem

/-- A file system with nothing in its files. -/
def outline (files : FileSystem) : FileSystem := { files with root := files.root.outline }

@[simp] theorem startOf_outline (files : FileSystem) (path : Path) :
    files.outline.startOf path = files.startOf path := rfl

@[simp] theorem root_outline (files : FileSystem) : files.outline.root = files.root.outline := rfl

variable (files : FileSystem)

/-- Looking names up leads to the same names. -/
theorem lookupFrom_outline (links : Nat) (here names : List String) :
    files.outline.lookupFrom links here names =
      (files.lookupFrom links here names).map (Prod.map id Entry.outline) := by
  match names with
  | [] =>
    rw [lookupFrom, lookupFrom, root_outline, Entry.descend?_outline]
    cases files.root.descend? here <;> rfl
  | name :: rest =>
    rw [lookupFrom, lookupFrom, root_outline, Entry.descend?_outline]
    rcases files.root.descend? here with _ | (_ | entries | _)
    · rfl
    · rfl
    · simp only [Option.map_some, Entry.outline, Entry.lookup?_outlineIn]
      by_cases above : name == Path.above
      · simp only [above, if_true]
        exact lookupFrom_outline links here.dropLast rest
      · by_cases long : longestName < name.utf8ByteSize
        · simp only [above, long, Bool.false_eq_true, if_false, if_true]
          rfl
        · simp only [above, long, Bool.false_eq_true, if_false]
          rcases Entry.lookup? name entries with _ | (_ | _ | target)
          · rfl
          · exact lookupFrom_outline links (here ++ [name]) rest
          · exact lookupFrom_outline links (here ++ [name]) rest
          · cases links with
            | zero => rfl
            | succ links => exact lookupFrom_outline links _ _
    · rfl
termination_by (links, names.length)

/-- Looking a path up leads to the same names. -/
theorem lookup_outline (path : Path) :
    files.outline.lookup path = (files.lookup path).map (Prod.map id Entry.outline) := by
  unfold lookup
  split
  · rfl
  · exact files.lookupFrom_outline linkLimit (files.startOf path) path.names

/-- Following names leads to the same names. -/
theorem realFrom_outline (nesting : Nat) (here names : List String) (known : KnownLinks) :
    files.outline.realFrom nesting here names known = files.realFrom nesting here names known := by
  match names with
  | [] => rw [realFrom, realFrom]
  | name :: rest =>
    rw [realFrom, realFrom]
    dsimp only
    have onward := fun here known => realFrom_outline nesting here rest known
    rw [root_outline, Entry.descend?_outline, onward here.dropLast]
    rcases files.root.descend? (here ++ [name]) with _ | (_ | _ | target)
    · simp only [Option.map_none, onward]
    · simp only [Option.map_some, Entry.outline, onward]
    · simp only [Option.map_some, Entry.outline, onward]
    · simp only [Option.map_some, Entry.outline]
      rcases knownLink? known (here ++ [name]) with _ | (_ | meaning)
      · cases nesting with
        | zero => rfl
        | succ nesting =>
          have inside := fun start names known => realFrom_outline nesting start names known
          simp only [inside, onward]
      · rfl
      · simp only [onward]
termination_by (nesting, names.length)

/-- Paths have the same real paths. -/
theorem realPath_outline (path : Path) : files.outline.realPath path = files.realPath path := by
  unfold realPath
  dsimp only
  rw [root_outline, Entry.count_outline, startOf_outline, realFrom_outline, lookup_outline]
  rcases files.lookup _ with cause | place <;> rfl

end FileSystem

/-- **Where a reference leads is a matter of names and links.** -/
theorem Reference.locate_outline (files : FileSystem) :
    Reference.locate files.outline = Reference.locate files := by
  funext base part
  unfold Reference.locate
  simp only [FileSystem.realPath_outline]

end ApiAdmission
