import ApiAdmission.Proofs.Outcome
import ApiAdmission.Url.Join

/-!
# The schemes of joined addresses

A text has a scheme of its own when a colon comes in it after a letter and more characters of a
scheme (`Url.ownScheme?`).  That of a web address is one of two.  A text that is read against a web
address and has another scheme of its own stands for itself, whatever the scheme means; every other
text gives a web address again (`Url.join_of_foreign`, `Url.isWebAddress_join`).
-/

namespace ApiAdmission.Url

set_option autoImplicit false

/-! ## The scheme of a text -/

/-- The characters of an address that count. -/
def cleaned (text : String) : List Char :=
  (text.toList.dropWhile fun c => c.toNat ≤ 0x20).filter fun c =>
    c != '\t' && c != '\r' && c != '\n'

/-- The scheme that an address has itself, in small letters. -/
def ownScheme? (text : String) : Option String := (takeScheme (cleaned text)).map Prod.fst

/-- An address has its own scheme, or the one that it is read with. -/
theorem read_scheme {scheme text : String} {url : Url} (reads : read scheme text = .ok url) :
    url.scheme = (ownScheme? text).getD scheme := by
  obtain ⟨_, -, gives⟩ := bind_eq_ok_iff.mp reads
  cases gives
  show ((takeScheme (cleaned text)).getD (scheme, cleaned text)).1 = _
  unfold ownScheme?
  cases takeScheme (cleaned text) <;> rfl

theorem isWebAddress_iff {location : String} :
    isWebAddress location = true ↔
      "http://".toList <+: location.toList ∨ "https://".toList <+: location.toList := by
  simp [isWebAddress, Text.startsWith]

/-- The scheme of a web address. -/
theorem ownScheme?_of_web {address : String} (web : isWebAddress address = true) :
    ownScheme? address = some "http" ∨ ownScheme? address = some "https" := by
  rcases isWebAddress_iff.mp web with ⟨rest, shape⟩ | ⟨rest, shape⟩
  · left
    unfold ownScheme? cleaned
    rw [← shape]
    rfl
  · right
    unfold ownScheme? cleaned
    rw [← shape]
    rfl

/-- An address with such a scheme is written as a web address. -/
theorem isWebAddress_text {url : Url} (scheme : url.scheme = "http" ∨ url.scheme = "https") :
    isWebAddress url.text = true := by
  rw [isWebAddress_iff]
  simp only [text, String.toList_append, List.append_assoc]
  rcases scheme with same | same
  · exact .inl (same ▸ ⟨_, rfl⟩)
  · exact .inr (same ▸ ⟨_, rfl⟩)

/-! ## Joining -/

/-- A text has a scheme of its own that is not the scheme of an address. -/
def Foreign (address text : String) : Prop :=
  ∃ scheme, ownScheme? text = some scheme ∧ ownScheme? address ≠ some scheme

section Join

variable {address text location : String} {base url : Url}

/-- What joining a text to an address comes to: the address for an empty text, the text itself if it
is read with another scheme, and an address with the same scheme otherwise. -/
theorem join_cases (joins : join address text = .ok location) :
    (text = "" ∧ location = address) ∨
      ∃ base url, read "" address = .ok base ∧ read base.scheme text = .ok url ∧
        (url.scheme ≠ base.scheme ∧ location = text ∨
          url.scheme = base.scheme ∧
            ∃ joined : Url, location = joined.text ∧ joined.scheme = base.scheme) := by
  unfold join at joins
  split at joins
  case isTrue empty =>
    cases joins
    exact .inl ⟨eq_of_beq empty, rfl⟩
  case isFalse =>
    obtain ⟨base, readsBase, joins⟩ := bind_eq_ok_iff.mp joins
    obtain ⟨url, reads, joins⟩ := bind_eq_ok_iff.mp joins
    refine .inr ⟨base, url, readsBase, reads, ?_⟩
    split at joins
    case isTrue other =>
      cases joins
      exact .inl ⟨by simpa using other, rfl⟩
    case isFalse same =>
      have same : url.scheme = base.scheme := by simpa using same
      right
      split at joins
      · cases joins
        exact ⟨same, _, rfl, same⟩
      · split at joins <;> cases joins <;> exact ⟨same, _, rfl, same⟩

variable (web : isWebAddress address = true)
include web

/-- A web address is read with the scheme that it has itself. -/
theorem ownScheme?_of_read (readsBase : read "" address = .ok base) :
    ownScheme? address = some base.scheme := by
  rw [read_scheme readsBase]
  rcases ownScheme?_of_web web with known | known <;> rw [known, Option.getD_some]

/-- A text is foreign to a web address exactly if it is read with another scheme. -/
theorem foreign_iff (readsBase : read "" address = .ok base)
    (reads : read base.scheme text = .ok url) :
    Foreign address text ↔ url.scheme ≠ base.scheme := by
  rw [read_scheme reads, Foreign, ownScheme?_of_read web readsBase]
  cases ownScheme? text <;> simp [eq_comm]

/-- A foreign text stands for itself. -/
theorem join_of_foreign (foreign : Foreign address text)
    (joins : join address text = .ok location) : location = text := by
  rcases join_cases joins with ⟨rfl, _⟩ | ⟨base, url, readsBase, reads, outcome⟩
  · obtain ⟨_, own, _⟩ := foreign
    cases own
  · rcases outcome with ⟨_, itself⟩ | ⟨same, _⟩
    · exact itself
    · exact absurd same ((foreign_iff web readsBase reads).mp foreign)

/-- Every other text gives a web address. -/
theorem isWebAddress_join (native : ¬ Foreign address text)
    (joins : join address text = .ok location) : isWebAddress location = true := by
  rcases join_cases joins with ⟨_, rfl⟩ | ⟨base, url, readsBase, reads, outcome⟩
  · exact web
  · rcases outcome with ⟨other, _⟩ | ⟨_, joined, rfl, same⟩
    · exact absurd ((foreign_iff web readsBase reads).mpr other) native
    · have scheme := ownScheme?_of_web web
      rw [ownScheme?_of_read web readsBase, Option.some_inj, Option.some_inj, ← same] at scheme
      exact isWebAddress_text scheme

end Join

end ApiAdmission.Url
