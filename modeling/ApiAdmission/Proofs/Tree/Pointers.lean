import ApiAdmission.Proofs.Number.Integers
import ApiAdmission.Proofs.Text.Search
import ApiAdmission.Tree.Pointer
import Mathlib.Algebra.Group.Nat.Defs

/-!
# Paths, pointers and array indexes

A path leads down a tree by keys and positions (`nodeAt?`), and has a pointer that writes it
(`pointerTo`).  Following the pointer leads to the same node, whatever characters the keys have
(`follow_pointerTo`): a slash or a tilde in a key is written by two other characters, and the two
are read back in the right order.  Only a first key that is empty is lost, since slashes at the
front are skipped together.  A position with more digits than are read would be lost too, but no
list that a machine can hold has one (`Holdable.readable`).

A list takes any segment that spells an integer, and counts from its back when that is negative
(`step_list_eq_ok_iff`), so a node has other pointers besides the one that is written for its path.
-/

namespace ApiAdmission.Tree

set_option autoImplicit false

/-! ## Paths -/

/-- A step from a tree to one of its parts. -/
inductive Part where
  /-- To what a mapping stores under a key. -/
  | key (name : String)
  /-- To the item of a list at a position. -/
  | index (position : Nat)
deriving DecidableEq, Repr

/-- The part of a tree at a step. -/
def part? : Tree → Part → Option Tree
  | .mapping entries, .key name => lookup? name entries
  | .list items, .index position => items[position]?
  | _, _ => none

/-- The node at the end of a path. -/
def nodeAt? (tree : Tree) : List Part → Option Tree
  | [] => some tree
  | part :: rest => (tree.part? part).bind (nodeAt? · rest)

/-- A character as it is written in the key of a pointer. -/
def escapeCharacter (c : Char) : List Char :=
  if c = '~' then ['~', '0'] else if c = '/' then ['~', '1'] else [c]

/-- A step as a pointer writes it: an index in decimal notation. -/
def Part.written : Part → List Char
  | .key name => name.toList.flatMap escapeCharacter
  | .index position => Nat.toDigits 10 position

/-- The pointer of a path, with a slash before each step. -/
def pointerTo (path : List Part) : String :=
  String.ofList (path.flatMap fun part => '/' :: part.written)

/-- The segment that a step is read back as. -/
def Part.segment : Part → String
  | .key name => name
  | .index position => position.repr

/-! ## Reading a pointer back -/

/-- The first replacement leaves the tildes written, so that the second one meets no others. -/
theorem unescapeSegment_escape (name : String) :
    unescapeSegment (String.ofList (name.toList.flatMap escapeCharacter)) = name := by
  have slashes : ∀ characters : List Char,
      Text.replaceFrom ['~', '1'] ['/'] 0 (characters.flatMap escapeCharacter) =
        characters.flatMap fun c => if c = '~' then ['~', '0'] else [c] := by
    intro characters
    induction characters with
    | nil => rfl
    | cons c rest ih =>
      rw [List.flatMap_cons, List.flatMap_cons, escapeCharacter]
      split
      case isTrue tilde =>
        rw [List.cons_append, List.singleton_append, Text.replaceFrom_half (by decide),
          Text.replaceFrom_of_ne (by decide), ih]
        rfl
      case isFalse plain =>
        split
        case isTrue slash =>
          rw [List.cons_append, List.singleton_append, Text.replaceFrom_pair, ih, slash]
        case isFalse => rw [List.singleton_append, Text.replaceFrom_of_ne (Ne.symm plain), ih]; rfl
  have tildes : ∀ characters : List Char,
      Text.replaceFrom ['~', '0'] ['~'] 0
        (characters.flatMap fun c => if c = '~' then ['~', '0'] else [c]) = characters := by
    intro characters
    induction characters with
    | nil => rfl
    | cons c rest ih =>
      rw [List.flatMap_cons]
      split
      case isTrue tilde =>
        rw [List.cons_append, List.singleton_append, Text.replaceFrom_pair, ih, tilde]
        rfl
      case isFalse plain =>
        rw [List.singleton_append, Text.replaceFrom_of_ne (Ne.symm plain), ih]
  have one : "~1".toList = ['~', '1'] := by decide
  have zero : "~0".toList = ['~', '0'] := by decide
  have slash : "/".toList = ['/'] := by decide
  have tilde : "~".toList = ['~'] := by decide
  rw [unescapeSegment, Text.replaceAll, Text.replaceAll, one, zero, slash, tilde,
    String.toList_ofList, String.toList_ofList, slashes, tildes, String.ofList_toList]

theorem notMem_toDigits {c : Char} (noDigit : c.isDigit = false) (number : Nat) :
    c ∉ Nat.toDigits 10 number := by
  intro member
  have digit := Nat.isDigit_of_mem_toDigits (by decide) (by decide) member
  rw [noDigit] at digit
  cases digit

theorem unescapeSegment_written (part : Part) :
    unescapeSegment (String.ofList part.written) = part.segment := by
  cases part with
  | key name => exact unescapeSegment_escape name
  | index position =>
    have absent : '~' ∉ (String.ofList (Nat.toDigits 10 position)).toList := by
      rw [String.toList_ofList]
      exact notMem_toDigits (by decide) position
    have one : "~1".toList = ['~', '1'] := by decide
    have zero : "~0".toList = ['~', '0'] := by decide
    rw [unescapeSegment, Text.replaceAll, Text.replaceAll, Part.written, one, zero,
      Text.replaceFrom_of_notMem absent, String.ofList_toList, Text.replaceFrom_of_notMem absent,
      String.ofList_toList]
    rfl

/-- A step is written without slashes. -/
theorem slash_notMem_written (part : Part) : '/' ∉ part.written := by
  cases part with
  | index position => exact notMem_toDigits (by decide) position
  | key name =>
    intro member
    obtain ⟨c, _, here⟩ := List.mem_flatMap.mp member
    unfold escapeCharacter at here
    split at here
    · simp at here
    · split at here
      · simp at here
      case isFalse noSlash => exact noSlash (List.mem_singleton.mp here).symm

/-- A step is written by some characters unless it is to the empty key. -/
theorem written_ne_nil {part : Part} (named : part ≠ .key "") : part.written ≠ [] := by
  cases part with
  | index position => exact Nat.toDigits_ne_nil
  | key name =>
    cases characters : name.toList with
    | nil => exact absurd (congrArg Part.key (String.toList_eq_nil_iff.mp characters)) named
    | cons c rest =>
      have first : escapeCharacter c ≠ [] := by unfold escapeCharacter; split_ifs <;> simp
      simp [Part.written, characters, first]

/-- At the slashes a pointer falls into the written steps. -/
theorem splitAt_written (part : Part) (rest : List Part) :
    Text.splitAt '/' (part.written ++ rest.flatMap fun part => '/' :: part.written) =
      (part :: rest).map Part.written := by
  induction rest generalizing part with
  | nil =>
    rw [List.flatMap_nil, List.append_nil, Text.splitAt_of_notMem (slash_notMem_written part)]
    rfl
  | cons next others ih =>
    rw [List.flatMap_cons, List.cons_append, Text.splitAt_append, ih,
      Text.splitAt_of_notMem (slash_notMem_written part)]
    rfl

/-- **A pointer is read back as the path that it writes**, unless that begins with an empty key. -/
theorem pointerSegments_pointerTo {first : Part} (named : first ≠ .key "") (rest : List Part) :
    pointerSegments (pointerTo (first :: rest)) = (first :: rest).map Part.segment := by
  have front : Text.trimStart (· == '/')
      ('/' :: (first.written ++ rest.flatMap fun part => '/' :: part.written)) =
      first.written ++ rest.flatMap fun part => '/' :: part.written := by
    obtain ⟨c, more, shape⟩ := List.exists_cons_of_ne_nil (written_ne_nil named)
    have other : c ≠ '/' := by
      rintro rfl
      exact slash_notMem_written first (shape ▸ List.mem_cons_self)
    have dropped : ∀ c ∈ ['/'], (c == '/') = true := by simp
    refine Text.trimStart_append dropped ?_
    rw [shape]
    rintro c ⟨⟩
    simpa using other
  rw [pointerSegments, pointerTo, String.toList_ofList, List.flatMap_cons, List.cons_append, front,
    splitAt_written, List.map_map]
  exact List.map_congr_left fun part _ => unescapeSegment_written part

/-! ## Following a pointer -/

/-- The segments that are followed: none, when the pointer is empty or one slash. -/
def segmentsOf (pointer : String) : List String :=
  if pointer == "" || pointer == "/" then [] else pointerSegments pointer

theorem follow_eq (tree : Tree) (pointer : String) :
    tree.follow pointer = tree.followSegments (segmentsOf pointer) := by
  unfold follow segmentsOf
  split <;> rfl

theorem followSegments_append (tree : Tree) (above below : List String) :
    tree.followSegments (above ++ below) =
      tree.followSegments above >>= (·.followSegments below) := by
  induction above generalizing tree with
  | nil => rfl
  | cons segment rest ih =>
    rw [List.cons_append, followSegments, followSegments]
    cases tree.step segment with
    | error fault => rfl
    | ok next => exact ih next

/-- A pointer to more than the empty key is neither empty nor one slash. -/
theorem segmentsOf_pointerTo {first : Part} (named : first ≠ .key "") (rest : List Part) :
    segmentsOf (pointerTo (first :: rest)) = (first :: rest).map Part.segment := by
  have other : (pointerTo (first :: rest) == "" || pointerTo (first :: rest) == "/") = false := by
    have long : 1 < (pointerTo (first :: rest)).toList.length := by
      have written := List.length_pos_iff.mpr (written_ne_nil named)
      rw [pointerTo, String.toList_ofList, List.flatMap_cons, List.length_append, List.length_cons]
      omega
    rw [Bool.or_eq_false_iff]
    constructor <;> refine beq_eq_false_iff_ne.mpr fun same => ?_ <;> rw [same] at long <;>
      exact absurd long (by decide)
  rw [segmentsOf, other, pointerSegments_pointerTo named]
  rfl

/-- A step that can be read back: a position has no more digits than are read. -/
def Part.Readable : Part → Prop
  | .key _ => True
  | .index position => position < 10 ^ Number.digitLimit

instance : (part : Part) → Decidable part.Readable
  | .key _ => inferInstanceAs (Decidable True)
  | .index _ => inferInstanceAs (Decidable (_ < _))

theorem Part.readable_index_iff {position : Nat} :
    (Part.index position).Readable ↔ (Nat.toDigits 10 position).length ≤ Number.digitLimit :=
  (Nat.length_toDigits_le_iff (by decide) (by decide)).symm

/-- How many items a list can have on a machine of 64 bits. -/
def longestList : Nat := 2 ^ 63 - 1

/-- A tree whose lists a machine can hold. -/
def Holdable (tree : Tree) : Prop :=
  ∀ path items, tree.nodeAt? path = some (.list items) → items.length ≤ longestList

section Holdable

variable {tree next node : Tree} {part : Part}

theorem Holdable.below (holdable : tree.Holdable) (leads : tree.part? part = some next) :
    next.Holdable := by
  intro path items inside
  refine holdable (part :: path) items ?_
  rwa [nodeAt?, leads]

theorem Holdable.readable_part (holdable : tree.Holdable) (leads : tree.part? part = some next) :
    part.Readable := by
  cases part with
  | key name => exact trivial
  | index position =>
    cases tree with
    | list items =>
      obtain ⟨inside, _⟩ := List.getElem?_eq_some_iff.mp leads
      have short : items.length ≤ longestList := holdable [] items rfl
      have few : longestList < 10 ^ Number.digitLimit := by decide +kernel
      exact (inside.trans_le short).trans few
    | _ => cases leads

/-- All steps that lead anywhere in it can be read back. -/
theorem Holdable.readable {path : List Part} (holdable : tree.Holdable)
    (leads : tree.nodeAt? path = some node) : ∀ part ∈ path, part.Readable := by
  induction path generalizing tree with
  | nil => exact List.forall_mem_nil _
  | cons part rest ih =>
    obtain ⟨next, first, onward⟩ := Option.bind_eq_some_iff.mp leads
    exact List.forall_mem_cons.mpr ⟨holdable.readable_part first, ih (holdable.below first) onward⟩

end Holdable

theorem atIndex?_natCast {α : Type} (items : List α) (position : Nat) :
    atIndex? items (position : Int) = items[position]? := by
  simp [atIndex?, Int.not_lt.mpr (Int.natCast_nonneg position)]

/-- The segment of a step leads to the same part, if it is read at all. -/
theorem step_segment {tree next : Tree} {part : Part} (leads : tree.part? part = some next) :
    (part.Readable → tree.step part.segment = .ok next) ∧
      (¬ part.Readable → ∃ fault, tree.step part.segment = .error fault) := by
  cases part with
  | key name =>
    cases tree with
    | mapping entries =>
      rw [part?] at leads
      exact ⟨fun _ => by simp [step, Part.segment, leads], fun unread => absurd trivial unread⟩
    | _ => cases leads
  | index position =>
    cases tree with
    | list items =>
      rw [part?] at leads
      constructor
      · intro readable
        simp [step, Part.segment, Number.integer?_repr,
          if_pos (Part.readable_index_iff.mp readable), atIndex?_natCast, leads]
      · intro unread
        refine ⟨.badIndex position.repr, ?_⟩
        simp [step, Part.segment, Number.integer?_repr,
          if_neg (Part.readable_index_iff.not.mp unread)]
    | _ => cases leads

/-- The segments of a path lead to its end exactly if all of them are read. -/
theorem followSegments_segments {path : List Part} {tree node : Tree}
    (leads : tree.nodeAt? path = some node) :
    tree.followSegments (path.map Part.segment) = .ok node ↔ ∀ part ∈ path, part.Readable := by
  induction path generalizing tree with
  | nil =>
    cases leads
    simp [followSegments]
  | cons part rest ih =>
    obtain ⟨next, first, onward⟩ := Option.bind_eq_some_iff.mp leads
    rw [List.map_cons, followSegments, List.forall_mem_cons, ← ih onward]
    by_cases readable : part.Readable
    · rw [(step_segment first).1 readable]
      exact (and_iff_right readable).symm
    · obtain ⟨fault, fails⟩ := (step_segment first).2 readable
      rw [fails]
      exact iff_of_false nofun fun both => readable both.1

/-- **Every node is addressed by the pointer of its path.**  Following the pointer of a path that
does not begin with an empty key gives the node at its end, exactly if every position on the path
can be read, and so in every tree that a machine can hold; and the empty pointer gives the whole
tree. -/
theorem follow_pointerTo {tree node : Tree} {first : Part} {rest : List Part}
    (leads : tree.nodeAt? (first :: rest) = some node) (named : first ≠ .key "") :
    (tree.follow (pointerTo (first :: rest)) = .ok node ↔
      ∀ part ∈ first :: rest, part.Readable) ∧
    (tree.Holdable → tree.follow (pointerTo (first :: rest)) = .ok node) ∧
    tree.follow "" = .ok tree := by
  have reads : tree.follow (pointerTo (first :: rest)) = .ok node ↔
      ∀ part ∈ first :: rest, part.Readable := by
    rw [follow_eq, segmentsOf_pointerTo named, followSegments_segments leads]
  exact ⟨reads, fun holdable => reads.mpr (holdable.readable leads), rfl⟩

/-- A tree with keys that look like escapes, have slashes, or are empty. -/
def awkwardTree : Tree :=
  .mapping [("~1/~0", .list [.null, .mapping [("0", .null), ("", .text "here")]])]

/-- Escapes in a key, a position and an empty key are read back. -/
theorem follow_pointerTo_awkwardTree :
    awkwardTree.nodeAt? [.key "~1/~0", .index 1, .key ""] = some (.text "here") ∧
    Part.key "~1/~0" ≠ .key "" ∧
    pointerTo [.key "~1/~0", .index 1, .key ""] = "/~01~1~00/1/" ∧
    awkwardTree.follow (pointerTo [.key "~1/~0", .index 1, .key ""]) = .ok (.text "here") := by
  have leads : awkwardTree.nodeAt? [.key "~1/~0", .index 1, .key ""] = some (.text "here") := by
    decide +kernel
  have named : Part.key "~1/~0" ≠ .key "" := by decide
  exact ⟨leads, named, by decide +kernel,
    (follow_pointerTo leads named).1.mpr (by decide +kernel)⟩

end ApiAdmission.Tree
