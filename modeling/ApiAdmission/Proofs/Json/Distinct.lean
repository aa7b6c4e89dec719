import ApiAdmission.Json.Reader
import ApiAdmission.Proofs.Outcome
import ApiAdmission.Proofs.Tree.Entries

/-!
# What is read from JSON has distinct keys

The reader collects the members of an object, so a key that is written twice is stored once.  By
induction on the budget this holds of all objects in what is read (`distinct_of_read`).
-/

namespace ApiAdmission.Json

set_option autoImplicit false

theorem distinct_of_mem_names {entry : String × Tree} (member : entry ∈ names) :
    entry.2.Distinct := by
  have plain : (∀ entries, entry.2 ≠ .mapping entries) ∧ ∀ items, entry.2 ≠ .list items := by
    simp only [names, List.mem_cons, List.not_mem_nil, or_false] at member
    rcases member with rfl | rfl | rfl | rfl | rfl | rfl <;> exact ⟨nofun, nofun⟩
  exact .other plain.1 plain.2

/-- A number is no mapping and no list. -/
theorem distinct_of_readNumber {position after : Position} {tree : Tree}
    (reads : readNumber position = .ok (tree, after)) : tree.Distinct := by
  unfold readNumber at reads
  extract_lets _ _ _ whole _ fraction at reads
  split at reads
  · cases reads
  · split at reads
    extract_lets _ at reads
    split at reads
    · split at reads
      · cases reads
      · obtain ⟨rfl, -⟩ := Prod.mk.inj (Except.ok.inj reads)
        exact .other nofun nofun
    · obtain ⟨rfl, -⟩ := Prod.mk.inj (Except.ok.inj reads)
      exact .other nofun nofun

/-- What the three readers give has distinct keys, for a budget. -/
structure ReadsDistinct (budget : Nat) : Prop where
  value : ∀ position tree after, readValue budget position = .ok (tree, after) → tree.Distinct
  members : ∀ reversed position tree after,
    (∀ entry ∈ reversed, Tree.Distinct entry.2) →
    readMembers budget reversed position = .ok (tree, after) → tree.Distinct
  items : ∀ reversed position tree after, (∀ item ∈ reversed, Tree.Distinct item) →
    readItems budget reversed position = .ok (tree, after) → tree.Distinct

section Step

variable {budget : Nat} (inner : ReadsDistinct budget)
include inner

theorem ReadsDistinct.value_succ {position after : Position} {tree : Tree}
    (reads : readValue (budget + 1) position = .ok (tree, after)) : tree.Distinct := by
  rw [readValue] at reads
  split at reads
  · obtain ⟨⟨text, next⟩, _, given⟩ := bind_eq_ok_iff.mp reads
    cases given
    exact .other nofun nofun
  · dsimp only at reads
    split at reads
    · cases reads
      exact .mapping List.nodup_nil fun _ member => (List.not_mem_nil member).elim
    · exact inner.members _ _ _ _ (fun _ member => (List.not_mem_nil member).elim) reads
  · dsimp only at reads
    split at reads
    · cases reads
      exact .list fun _ member => (List.not_mem_nil member).elim
    · exact inner.items _ _ _ _ (fun _ member => (List.not_mem_nil member).elim) reads
  · split at reads
    case h_1 found =>
      cases reads
      exact distinct_of_mem_names (List.mem_of_find?_eq_some found)
    case h_2 => exact distinct_of_readNumber reads

theorem ReadsDistinct.members_succ {reversed : List (String × Tree)} {position after : Position}
    {tree : Tree} (known : ∀ entry ∈ reversed, Tree.Distinct entry.2)
    (reads : readMembers (budget + 1) reversed position = .ok (tree, after)) : tree.Distinct := by
  rw [readMembers] at reads
  split at reads
  · cases reads
  · obtain ⟨⟨key, afterKey⟩, _, reads⟩ := bind_eq_ok_iff.mp reads
    dsimp only at reads
    split at reads
    · cases reads
    · obtain ⟨⟨value, afterValue⟩, readsValue, reads⟩ := bind_eq_ok_iff.mp reads
      have extended : ∀ entry ∈ (key, value) :: reversed, Tree.Distinct entry.2 :=
        List.forall_mem_cons.mpr ⟨inner.value _ _ _ readsValue, known⟩
      dsimp only at reads
      split at reads
      · cases reads
        exact .of_collected fun pair member => extended pair (List.mem_reverse.mp member)
      · exact inner.members _ _ _ _ extended reads
      · cases reads

theorem ReadsDistinct.items_succ {reversed : List Tree} {position after : Position} {tree : Tree}
    (known : ∀ item ∈ reversed, Tree.Distinct item)
    (reads : readItems (budget + 1) reversed position = .ok (tree, after)) : tree.Distinct := by
  rw [readItems] at reads
  obtain ⟨⟨item, afterItem⟩, readsItem, reads⟩ := bind_eq_ok_iff.mp reads
  have extended : ∀ other ∈ item :: reversed, Tree.Distinct other :=
    List.forall_mem_cons.mpr ⟨inner.value _ _ _ readsItem, known⟩
  dsimp only at reads
  split at reads
  · cases reads
    exact .list fun other member => extended other (List.mem_reverse.mp member)
  · exact inner.items _ _ _ _ extended reads
  · cases reads

end Step

theorem readsDistinct (budget : Nat) : ReadsDistinct budget := by
  induction budget with
  | zero => exact ⟨nofun, nofun, nofun⟩
  | succ budget ih =>
    exact {
      value := fun _ _ _ => ih.value_succ
      members := fun _ _ _ _ => ih.members_succ
      items := fun _ _ _ _ => ih.items_succ }

/-- **All objects in what is read from JSON have distinct keys.** -/
theorem distinct_of_read {text : String} {tree : Tree} (reads : read text = .ok tree) :
    tree.Distinct := by
  unfold read at reads
  dsimp only at reads
  split at reads
  · cases reads
  · obtain ⟨⟨found, after⟩, readsValue, given⟩ := bind_eq_ok_iff.mp reads
    dsimp only at given
    split at given <;> cases given
    exact (readsDistinct _).value _ _ _ readsValue

end ApiAdmission.Json
