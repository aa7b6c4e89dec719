import ApiAdmission.Proofs.Reference.Collecting
import ApiAdmission.Proofs.Tree.Pointers

/-!
# What a pointer selects of a list

The standard of pointers knows one way to name an item of a list: by digits that do not begin with
a zero, or by a single zero, counted from the front (`IsArrayIndex`).  Following a pointer is more
liberal.  It reads a segment as any spelling of an integer, and counts from the back where that is
negative (`Selects`).

So a segment that is no index of the standard may select an item all the same
(`negative_index_selects`).  Where it does, the reference has no problem and nothing is said about
it; a message is sure only where the segment spells no integer in the range of the list
(`index_selects_iff`).
-/

namespace ApiAdmission

set_option autoImplicit false

namespace Tree

/-! ## Indexes of the standard -/

/-- An index of the standard: a single zero, or ASCII digits that do not begin with a zero. -/
def IsArrayIndex (segment : String) : Prop :=
  segment = "0" ∨
    segment ≠ "" ∧ (∀ c ∈ segment.toList, c.isDigit = true) ∧ segment.toList.head? ≠ some '0'

instance (segment : String) : Decidable (IsArrayIndex segment) :=
  -- Checked digit by digit: a search over all characters would decide it too, and never end.
  haveI : Decidable (∀ c ∈ segment.toList, c.isDigit = true) := List.decidableBAll _ _
  inferInstanceAs (Decidable (_ ∨ _ ∧ _ ∧ _))

/-- The item of a list that a segment names by the standard. -/
def standardTarget? (items : List Tree) (segment : String) : Option Tree :=
  if IsArrayIndex segment then items[Nat.ofDigitChars 10 segment.toList 0]? else none

/-- An index of the standard is made of digits. -/
theorem IsArrayIndex.digits {segment : String} (standard : IsArrayIndex segment) :
    segment.toList ≠ [] ∧ ∀ c ∈ segment.toList, c.isDigit = true := by
  rcases standard with rfl | ⟨some_digit, digits, _⟩
  · exact ⟨by decide, by simp⟩
  · exact ⟨fun none => some_digit (String.toList_eq_nil_iff.mp none), digits⟩

/-- What it spells is the number that its digits stand for. -/
theorem IsArrayIndex.eq_of_spells {segment : String} {value : Int}
    (standard : IsArrayIndex segment) (spelled : Number.Spells segment value) :
    value = (Nat.ofDigitChars 10 segment.toList 0 : Int) := by
  obtain ⟨some_digit, digits⟩ := standard.digits
  have reads := Number.integer?_eq_some_iff.mpr spelled
  rw [Number.integer?, Number.readInteger_of_digits some_digit digits] at reads
  split at reads
  · cases reads
  · exact (Option.some.inj reads).symm

/-! ## What a segment selects -/

/-- A segment selects an item of a list: it spells the position from the front, or the negative of
the distance from the back. -/
inductive Selects (items : List Tree) (segment : String) : Tree → Prop where
  | fromFront {position : Nat} {item : Tree} (spelled : Number.Spells segment position)
      (stored : items[position]? = some item) : Selects items segment item
  | fromBack {distance : Nat} {item : Tree} (spelled : Number.Spells segment (-distance : Int))
      (some_distance : 0 < distance) (inside : distance ≤ items.length)
      (stored : items[items.length - distance]? = some item) : Selects items segment item

theorem atIndex?_neg {α : Type} (items : List α) {distance : Nat} (some_distance : 0 < distance) :
    atIndex? items (-distance : Int) =
      if distance ≤ items.length then items[items.length - distance]? else none := by
  have negative : (-distance : Int) < 0 := by omega
  rw [atIndex?, if_pos negative, Int.natAbs_neg, Int.natAbs_natCast]

/-- The items that integers select are those at the positions that they spell. -/
theorem selects_iff {items : List Tree} {segment : String} {item : Tree} :
    Selects items segment item ↔
      (Number.integer? segment).bind (atIndex? items) = some item := by
  rw [Option.bind_eq_some_iff]
  constructor
  · rintro (⟨spelled, stored⟩ | ⟨spelled, some_distance, inside, stored⟩)
    · exact ⟨_, Number.integer?_eq_some_iff.mpr spelled, (atIndex?_natCast _ _).trans stored⟩
    · refine ⟨_, Number.integer?_eq_some_iff.mpr spelled, ?_⟩
      rw [atIndex?_neg items some_distance, if_pos inside, stored]
  · rintro ⟨value, reads, stored⟩
    have spelled := Number.integer?_eq_some_iff.mp reads
    by_cases negative : value < 0
    · obtain ⟨distance, rfl⟩ : ∃ distance : Nat, value = -distance := ⟨value.natAbs, by omega⟩
      have some_distance : 0 < distance := by omega
      rw [atIndex?_neg items some_distance] at stored
      split at stored
      case isTrue inside => exact .fromBack spelled some_distance inside stored
      case isFalse => cases stored
    · obtain ⟨position, rfl⟩ : ∃ position : Nat, value = position := ⟨value.toNat, by omega⟩
      exact .fromFront spelled ((atIndex?_natCast _ _).symm.trans stored)

/-- A step into a list leads to the item that is selected, or to none. -/
theorem step_list_eq_ok_iff {items : List Tree} {segment : String} {item : Tree} :
    (Tree.list items).step segment = .ok item ↔ Selects items segment item := by
  rw [selects_iff, step]
  cases (Number.integer? segment).bind (atIndex? items) <;> simp

theorem step_list_of_none {items : List Tree} {segment : String}
    (none : ∀ item, ¬ Selects items segment item) :
    (Tree.list items).step segment = .error (.badIndex segment) := by
  rw [step]
  cases selected : (Number.integer? segment).bind (atIndex? items) with
  | none => rfl
  | some item => exact absurd (selects_iff.mpr selected) (none item)

/-- What is selected is what the standard says exactly for the indexes of the standard. -/
theorem Selects.standard_iff {items : List Tree} {segment : String} {item : Tree}
    (selects : Selects items segment item) :
    standardTarget? items segment = some item ↔ IsArrayIndex segment := by
  unfold standardTarget?
  split
  case isFalse other => exact iff_of_false nofun other
  case isTrue standard =>
    refine iff_of_true ?_ standard
    cases selects with
    | fromFront spelled stored =>
      rwa [← Int.ofNat_inj.mp (standard.eq_of_spells spelled)]
    | fromBack spelled some_distance =>
      have value := standard.eq_of_spells spelled
      omega

/-- Following a pointer comes to a list with a segment, and some segments are left. -/
def Applies (tree : Tree) (pointer : String) (items : List Tree) (segment : String)
    (rest : List String) : Prop :=
  ∃ above, segmentsOf pointer = above ++ segment :: rest ∧
    tree.followSegments above = .ok (.list items)

section Applies

variable {tree : Tree} {pointer segment : String} {items : List Tree} {rest : List String}
  (applies : tree.Applies pointer items segment rest)
include applies

theorem Applies.follow_eq :
    tree.follow pointer = (Tree.list items).step segment >>= (·.followSegments rest) := by
  obtain ⟨above, shape, there⟩ := applies
  rw [Tree.follow_eq, shape, followSegments_append, there]
  rfl

/-- It succeeds when an item is selected and the rest leads on from there. -/
theorem Applies.follow_eq_ok_iff {node : Tree} :
    tree.follow pointer = .ok node ↔
      ∃ item, Selects items segment item ∧ item.followSegments rest = .ok node := by
  simp only [applies.follow_eq, bind_eq_ok_iff, step_list_eq_ok_iff]

/-- It fails where none is selected. -/
theorem Applies.follow_of_none (none : ∀ item, ¬ Selects items segment item) :
    tree.follow pointer = .error (.badIndex segment) := by
  rw [applies.follow_eq, step_list_of_none none]
  rfl

end Applies

end Tree

namespace Reference

/-! ## References to items of lists -/

section Refers

variable {surroundings : Surroundings} {inner : Expansion} {there : Place}
  {reference segment : String} {items : List Tree} {rest : List String}
  (refers : inner.RefersBy reference)
  (reaches : reach surroundings inner.place (cut reference).1 = .ok (.ok there))
  (new : cycleKey there.location (cut reference).2 ∉ inner.seen)
include refers reaches new

/-- A reference to a document that is reached has a problem exactly if its pointer fails there. -/
theorem misses_iff {problem : Problem} :
    inner.Misses surroundings problem ↔
      ∃ fault, problem = .noNode reference fault ∧
        there.root.follow (cut reference).2 = .error fault := by
  obtain ⟨entries, piece, found⟩ := refers
  have same : ∀ {other : String}, inner.RefersBy other → other = reference := by
    rintro other ⟨_, otherPiece, otherFound⟩
    cases piece.symm.trans otherPiece
    exact Option.some.inj (otherFound.symm.trans found)
  constructor
  · rintro (⟨otherRefers, fails⟩ | ⟨otherRefers, otherReaches, _, follows⟩)
    · obtain rfl := same otherRefers
      cases fails.symm.trans reaches
    · obtain rfl := same otherRefers
      cases otherReaches.symm.trans reaches
      exact ⟨_, rfl, follows⟩
  · rintro ⟨fault, rfl, follows⟩
    exact .noNode ⟨entries, piece, found⟩ reaches new follows

variable (applies : there.root.Applies (cut reference).2 items segment rest)
include applies

/-- Where its pointer comes to a list, it has none exactly if an item is selected and the rest of
the pointer leads on. -/
theorem misses_at_list_iff :
    (∃ problem, inner.Misses surroundings problem) ↔
      ∀ item, Tree.Selects items segment item → ∀ node, item.followSegments rest ≠ .ok node := by
  simp only [misses_iff refers reaches new]
  constructor
  · rintro ⟨_, fault, rfl, fails⟩ item selects node leads
    cases fails.symm.trans (applies.follow_eq_ok_iff.mpr ⟨item, selects, leads⟩)
  · intro nowhere
    cases follows : there.root.follow (cut reference).2 with
    | error fault => exact ⟨_, fault, rfl, rfl⟩
    | ok node =>
      obtain ⟨item, selects, leads⟩ := applies.follow_eq_ok_iff.mp follows
      exact absurd leads (nowhere item selects node)

/-- In a run the segment is reported where no item is selected. -/
theorem reports_badIndex (none : ∀ item, ¬ Tree.Selects items segment item) {mode : Mode}
    {base : Option String} {tree : Tree} {outcome : Outcome Tree}
    (comes : Reaches surroundings mode (.whole base tree .empty) inner)
    (expands : surroundings.expand mode ⟨tree, base⟩ [] tree .empty = some outcome) :
    inner.Reports surroundings (.noNode reference (.badIndex segment)) mode outcome := by
  have misses := (misses_iff refers reaches new).mpr ⟨_, rfl, applies.follow_of_none none⟩
  have meets := (Expansion.meets_iff_misses comes.faithful).mpr misses
  exact comes.reports meets (expand_eq_some_iff.mp expands)

end Refers

/-- **What a segment selects of a list.**  Where following a pointer comes to a list, it succeeds
exactly if the segment spells a position of the list, from the front or from the back, and the rest
leads on from the item there.  What is selected is what the standard says exactly if the segment is
an index of the standard.  A reference with the pointer has a problem exactly if following fails,
and where nothing is selected, every run reports the segment. -/
theorem index_selects_iff {there : Place} {reference segment : String} {items : List Tree}
    {rest : List String} (applies : there.root.Applies (cut reference).2 items segment rest) :
    (∀ node, there.root.follow (cut reference).2 = .ok node ↔
      ∃ item, Tree.Selects items segment item ∧ item.followSegments rest = .ok node) ∧
    (∀ item, Tree.Selects items segment item →
      (Tree.standardTarget? items segment = some item ↔ Tree.IsArrayIndex segment)) ∧
    ∀ surroundings inner, inner.RefersBy reference →
      reach surroundings inner.place (cut reference).1 = .ok (.ok there) →
      cycleKey there.location (cut reference).2 ∉ inner.seen →
      ((∃ problem, inner.Misses surroundings problem) ↔
        ∀ item, Tree.Selects items segment item →
          ∀ node, item.followSegments rest ≠ .ok node) ∧
      ((∀ item, ¬ Tree.Selects items segment item) → ∀ mode base tree outcome,
        Reaches surroundings mode (.whole base tree .empty) inner →
        surroundings.expand mode ⟨tree, base⟩ [] tree .empty = some outcome →
        inner.Reports surroundings (.noNode reference (.badIndex segment)) mode outcome) := by
  refine ⟨fun node => applies.follow_eq_ok_iff, fun item => Tree.Selects.standard_iff, ?_⟩
  intro surroundings inner refers reaches new
  refine ⟨misses_at_list_iff refers reaches new applies, ?_⟩
  intro none mode base tree outcome comes expands
  exact reports_badIndex refers reaches new applies none comes expands

/-! ## A list of two items -/

/-- The items of a list. -/
def twoItems : List Tree := [.integer 1, .integer 2]

/-- A definition with a list, and a reference to one of its items. -/
def itemTree (reference : String) : Tree :=
  .mapping [("a", .list twoItems), ("b", .mapping [("$ref", .text reference)])]

theorem applies_itemTree {segment : String} {pointer : String}
    (segments : Tree.segmentsOf pointer = ["a", segment]) (reference : String) :
    (itemTree reference).Applies pointer twoItems segment [] :=
  ⟨["a"], segments, rfl⟩

/-- The item before the end is selected by a minus, and not by the standard. -/
theorem index_selects_iff_lastItem :
    (itemTree "#/a/-1").Applies (cut "#/a/-1").2 twoItems "-1" [] ∧
    (itemTree "#/a/-1").follow (cut "#/a/-1").2 = .ok (.integer 2) ∧
    Tree.standardTarget? twoItems "-1" ≠ some (.integer 2) := by
  have applies : (itemTree "#/a/-1").Applies (cut "#/a/-1").2 twoItems "-1" [] :=
    applies_itemTree (by decide +kernel) _
  have spelled : Number.Spells "-1" (-(1 : Nat) : Int) :=
    Number.integer?_eq_some_iff.mp (by decide +kernel)
  have selects : Tree.Selects twoItems "-1" (.integer 2) :=
    .fromBack spelled (by decide) (by decide) rfl
  have here : (⟨itemTree "#/a/-1", none⟩ : Place).root.Applies (cut "#/a/-1").2 twoItems "-1" [] :=
    applies
  obtain ⟨follows, standard, _⟩ := index_selects_iff here
  refine ⟨applies, (follows _).mpr ⟨_, selects, rfl⟩, fun same => ?_⟩
  exact absurd ((standard _ selects).mp same) (by decide +kernel)

/-- The reference leads to the item. -/
theorem expands_lastItem :
    Expands ((sharedWorld none).surroundings true) .collecting ⟨itemTree "#/a/-1", none⟩ []
      (itemTree "#/a/-1") .empty
      (.ok (.mapping [("a", .list twoItems), ("b", .integer 2)]), .empty) := by
  have leads : (lead ((sharedWorld none).surroundings true) ⟨itemTree "#/a/-1", none⟩ []
      "#/a/-1").run.run .empty =
      (.ok (.value ⟨itemTree "#/a/-1", none⟩ "#/a/-1" (.integer 2)), .empty) := rfl
  have number : ∀ seen value, Expands ((sharedWorld none).surroundings true) .collecting
      ⟨itemTree "#/a/-1", none⟩ seen (.integer value) .empty (.ok (.integer value), .empty) :=
    fun _ _ => .scalar nofun nofun
  have items := ExpandsItems.cons (number [] 1) (.cons (number [] 2) .nil)
  exact .mapping rfl (.cons (.list items) (.cons (.value rfl leads (number _ 2)) .nil))

/-- A segment that is no index of the standard selects an item, and nothing is said about it. -/
theorem negative_index_selects :
    resolveCollecting ((sharedWorld none).surroundings true) none (itemTree "#/a/-1") =
      (.ok (.mapping [("a", .list twoItems), ("b", .integer 2)]), []) ∧
    ¬ Tree.IsArrayIndex "-1" ∧ Tree.standardTarget? twoItems "-1" = none :=
  ⟨resolveCollecting_of_expands expands_lastItem, by decide +kernel, by decide +kernel⟩

end Reference

end ApiAdmission
