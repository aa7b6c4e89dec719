import ApiAdmission.Resolver.Standard

/-!
# How a definition is rendered

A text that can be read is not rendered in a family for want of the version field, or since its
version is none of the family.  Otherwise its references are replaced and its structure is checked,
and both leave messages (`Rendering`).  There is no fourth way to an answer (`renderText_cases`).
-/

namespace ApiAdmission

set_option autoImplicit false

open Reference

/-- The message about a missing version field. -/
def absentMessage (family : Family) : String := "attribute " ++ family.versionField ++ " is missing"

/-- What the message about a version of another family says before it names the version. -/
def versionOpening (family : Family) : String :=
  "attribute " ++ family.versionField ++ " is not of value \x60" ++ family.versionText ++
    "\x60 (found \x60"

/-- The message about a version of another family. -/
def versionMessage (family : Family) (version : String) : String :=
  versionOpening family ++ version ++ "\x60)"

/-- A definition that declares a version of a family is rendered: with the tree that its references
are replaced in, the messages about them, and those about its structure. -/
structure Rendering (surroundings : Surroundings) (family : Family) (location : Option String)
    (tree declared resolved : Tree) (messages more : List String) : Prop where
  present : tree.get? family.versionField = some declared
  fits : family.hasVersion declared.shown = true
  collects : resolveCollecting surroundings location tree = (.ok resolved, messages)
  checks : Definition.structureMessages (.of family declared.shown) resolved = .ok more

variable {surroundings : Surroundings} {family : Family} {text : String}
  {location : Option String} {tree declared : Tree}

theorem renderText_of_absent (reads : parseMapping text = .ok tree)
    (missing : tree.get? family.versionField = none) :
    Resolver.renderText surroundings family text location =
      .ok (Resolver.unrendered (absentMessage family)) := by
  simp only [Resolver.renderText, reads, missing]
  rfl

theorem renderText_of_otherVersion (reads : parseMapping text = .ok tree)
    (present : tree.get? family.versionField = some declared)
    (other : family.hasVersion declared.shown = false) :
    Resolver.renderText surroundings family text location =
      .ok (Resolver.unrendered (versionMessage family declared.shown)) := by
  simp only [Resolver.renderText, reads, present, other, Bool.false_eq_true, if_false]
  rfl

theorem renderText_of_rendering {resolved : Tree} {messages more : List String}
    (reads : parseMapping text = .ok tree)
    (rendering : Rendering surroundings family location tree declared resolved messages more) :
    Resolver.renderText surroundings family text location =
      .ok ⟨some ⟨family, declared.shown, resolved⟩, messages ++ more⟩ := by
  obtain ⟨present, fits, collects, checks⟩ := rendering
  simp only [Resolver.renderText, reads, present, fits, if_true, Resolver.renderTree, collects]
  simp only [bind, Except.bind, checks]
  rfl

/-- **The three ways to an answer**: there is no version field, the version is none of the family,
or the definition is rendered. -/
theorem renderText_cases {resolution : Resolution} (reads : parseMapping text = .ok tree)
    (gives : Resolver.renderText surroundings family text location = .ok resolution) :
    (tree.get? family.versionField = none ∧
      resolution = Resolver.unrendered (absentMessage family)) ∨
    (∃ declared, tree.get? family.versionField = some declared ∧
      family.hasVersion declared.shown = false ∧
      resolution = Resolver.unrendered (versionMessage family declared.shown)) ∨
    ∃ declared resolved messages more,
      Rendering surroundings family location tree declared resolved messages more ∧
      resolution = ⟨some ⟨family, declared.shown, resolved⟩, messages ++ more⟩ := by
  cases present : tree.get? family.versionField with
  | none =>
    rw [renderText_of_absent reads present] at gives
    cases gives
    exact .inl ⟨rfl, rfl⟩
  | some declared =>
    cases fits : family.hasVersion declared.shown with
    | false =>
      rw [renderText_of_otherVersion reads present fits] at gives
      cases gives
      exact .inr (.inl ⟨declared, rfl, fits, rfl⟩)
    | true =>
      simp only [Resolver.renderText, reads, present, fits, if_true, Resolver.renderTree] at gives
      rcases collects : resolveCollecting surroundings location tree with
        ⟨failure | resolved, messages⟩
      · rw [collects] at gives
        cases gives
      · rw [collects] at gives
        cases checks : Definition.structureMessages (.of family declared.shown) resolved with
        | error breakdown =>
          simp only [bind, Except.bind, checks] at gives
          cases gives
        | ok more =>
          simp only [bind, Except.bind, checks] at gives
          cases gives
          exact .inr (.inr ⟨declared, resolved, messages, more,
            ⟨present, fits, collects, checks⟩, rfl⟩)

/-- A document comes from a text that can be read and a tree that is rendered. -/
theorem rendering_of_renderText {document : ResolvedDocument} {told : List String}
    (gives : Resolver.renderText surroundings family text location = .ok ⟨some document, told⟩) :
    ∃ tree declared messages more, parseMapping text = .ok tree ∧
      Rendering surroundings family location tree declared document.tree messages more ∧
      document.version = declared.shown ∧ told = messages ++ more := by
  cases reads : parseMapping text with
  | error fault =>
    rw [Resolver.renderText, reads] at gives
    cases fault <;> cases gives
  | ok tree =>
    rcases renderText_cases reads gives with
      ⟨_, same⟩ | ⟨_, _, _, same⟩ | ⟨declared, resolved, messages, more, rendering, same⟩
    · cases same
    · cases same
    · cases same
      exact ⟨tree, declared, messages, more, rfl, rendering, rfl, rfl⟩

end ApiAdmission
