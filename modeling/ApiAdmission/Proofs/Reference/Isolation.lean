import ApiAdmission.Proofs.Cache.Loader
import ApiAdmission.Proofs.Reference.Collecting
import ApiAdmission.Proofs.World.Outline

/-!
# Work with a disabled loader

Work on references whose loader is disabled looks at nothing outside but the names and links that
paths are made real by.  So two worlds that differ in the content of files, in the answers of the
network and in what a cache keeps cannot be told apart by its outcome, its messages or its failure,
in either mode (`disabled_isolates`).  Every reference to a document that can be located has the
same problem there: loading is disabled.
-/

namespace ApiAdmission.Reference

set_option autoImplicit false

/-! ## Surroundings with a disabled loader -/

section Disabled

variable {loader other : Loader} {first second world : World} {now later : Int}

/-- The accesses of loading documents one after the other, and the loader afterwards. -/
def accessesOf (loader : Loader) (world : World) (now : Int) : List String → Loader × List Access
  | [] => (loader, [])
  | location :: rest =>
    let loaded := loader.load world now location
    let (last, accesses) := accessesOf loaded.loader world now rest
    (last, loaded.accesses ++ accesses)

/-- A disabled loader looks at nothing, whatever it is asked for, and stays as it is. -/
theorem accessesOf_disabled (off : loader.enabled = false) (locations : List String) :
    accessesOf loader world now locations = (loader, []) := by
  induction locations with
  | nil => rfl
  | cons location rest ih =>
    rw [accessesOf, Loader.load_of_disabled off]
    dsimp only
    rw [ih]
    rfl

/-- Worlds with the same outline are the same surroundings to disabled loaders. -/
theorem surroundings_eq_of_disabled (off : loader.enabled = false) (alsoOff : other.enabled = false)
    (alike : first.files.outline = second.files.outline) :
    loader.surroundings first now = other.surroundings second later := by
  have locates : locate first.files = locate second.files := by
    rw [← locate_outline, alike, locate_outline]
  have setups : loader.setup = other.setup := by simp [Loader.setup, off, alsoOff]
  have loads : ∀ location,
      (loader.load first now location).tree = (other.load second later location).tree := by
    intro location
    refine (Loader.load_determined setups fun access member => ?_).1
    rw [Loader.load_of_disabled off] at member
    cases member
  unfold Loader.surroundings
  rw [locates, funext loads]

/-- A document that can be located is refused. -/
theorem reach_of_disabled (off : loader.enabled = false) {place : Place} {part location : String}
    (named : part ≠ "") (locates : locate world.files place.location part = .ok location) :
    reach (loader.surroundings world now) place part = .ok (.error LoadFault.disabled.reason) := by
  have other : (part == "") = false := by simpa using named
  simp only [reach, other, Bool.false_eq_true, if_false, Loader.surroundings, locates, fetched,
    Loader.load_of_disabled off]

/-- Work with a disabled loader ends. -/
theorem ends_of_disabled (off : loader.enabled = false) (mode : Mode) (base : Option String)
    (tree : Tree) (memory : Memory)
    (faithful : memory.Faithful (loader.surroundings world now)) :
    (Expansion.whole base tree memory).Ends (loader.surroundings world now) mode := by
  have nothing : ∀ location document,
      (loader.surroundings world now).load location ≠ .ok document := by
    intro location document loads
    change (loader.load world now location).tree = _ at loads
    rw [Loader.load_of_disabled off] at loads
    cases loads
  have known : (Expansion.whole base tree memory).Known ⟨tree, base⟩ [] :=
    Expansion.whole_known fun entry member =>
      absurd (faithful.documents entry member) (nothing _ _)
  exact known.ends fun location document loads => absurd loads (nothing location document)

end Disabled

/-! ## Isolation -/

/-- **A disabled loader isolates the work from the outside.**  The work ends; it has looked at no
file, at nothing kept and at no address; in any other world with the same names and links it has the
same outcome and leaves the same memory, messages included; and every reference to a document that
can be located has the problem that loading is disabled, which in strict mode is the failure. -/
theorem disabled_isolates {loader other : Loader} {first second : World}
    (off : loader.enabled = false) (alsoOff : other.enabled = false)
    (alike : first.files.outline = second.files.outline) (now later : Int) (mode : Mode)
    (base : Option String) (tree : Tree) (memory : Memory)
    (faithful : memory.Faithful (loader.surroundings first now)) :
    ∃ outcome,
      (loader.surroundings first now).expand mode ⟨tree, base⟩ [] tree memory = some outcome ∧
      (resolve (loader.surroundings first now) mode base tree).run.run memory = outcome ∧
      (resolve (other.surroundings second later) mode base tree).run.run memory = outcome ∧
      accessesOf loader first now outcome.2.requests = (loader, []) ∧
      accessesOf other second later outcome.2.requests = (other, []) ∧
      ∀ inner reference location,
        Reaches (loader.surroundings first now) mode (.whole base tree memory) inner →
        inner.RefersBy reference → (cut reference).1 ≠ "" →
        locate first.files inner.place.location (cut reference).1 = .ok location →
        inner.Reports (loader.surroundings first now)
          (.noDocument reference "remote reference loading is disabled") mode outcome := by
  obtain ⟨outcome, expands⟩ := ends_of_disabled off mode base tree memory faithful
  have same : loader.surroundings first now = other.surroundings second later :=
    surroundings_eq_of_disabled off alsoOff alike
  refine ⟨outcome, expands.eq_some, resolve_run_of_expands expands, ?_,
    accessesOf_disabled off _, accessesOf_disabled alsoOff _, ?_⟩
  · rw [← same]
    exact resolve_run_of_expands expands
  · intro inner reference location reaches refers named locates
    have refused : reach (loader.surroundings first now) inner.place (cut reference).1 =
        .ok (.error "remote reference loading is disabled") := reach_of_disabled off named locates
    have known := reaches.keeps (kept_faithful _) faithful
    have meets := (Expansion.meets_iff_misses known).mpr (.noDocument refers refused)
    exact reaches.reports meets expands

/-- A disabled loader with a cache that keeps a text. -/
def keepingLoader : Loader :=
  ⟨false, some ⟨⟨true, 3600⟩, ⟨true, [⟨DocumentCache.keyOf "http://x/pet.json", "null", 3600⟩]⟩⟩⟩

/-- The message about the reference where loading is disabled. -/
def disabledMessage : String :=
  "Unable to load remote reference shared.json#/Node: remote reference loading is disabled"

/-- Whether a file is a document or no text makes no difference, and neither does a cache; both
modes tell of the reference that loading is disabled. -/
theorem disabled_isolates_sharedWorlds :
    keepingLoader.enabled = false ∧
    (sharedWorld (some [0x7B, 0x7D])).files.outline = (sharedWorld (some [0xFF])).files.outline ∧
    (∀ mode, (resolve (keepingLoader.surroundings (sharedWorld (some [0x7B, 0x7D])) 0) mode
        (some "root.json") referringTree).run.run .empty =
      (resolve (Loader.surroundings ⟨false, none⟩ (sharedWorld (some [0xFF])) 1) mode
        (some "root.json") referringTree).run.run .empty) ∧
    disabledMessage ∈
      ((resolve (keepingLoader.surroundings (sharedWorld (some [0x7B, 0x7D])) 0) .collecting
        (some "root.json") referringTree).run.run .empty).2.messages ∧
    ((resolve (keepingLoader.surroundings (sharedWorld (some [0x7B, 0x7D])) 0) .strict
        (some "root.json") referringTree).run.run .empty).1 =
      .error (.badRemoteReference disabledMessage) := by
  have alike : (sharedWorld (some [0x7B, 0x7D])).files.outline =
      (sharedWorld (some [0xFF])).files.outline := rfl
  have isolated := fun mode => @disabled_isolates keepingLoader ⟨false, none⟩ _ _ rfl rfl alike 0 1
    mode (some "root.json") referringTree .empty (Memory.faithful_empty _)
  have message : (Problem.noDocument "shared.json#/Node"
      "remote reference loading is disabled").message = disabledMessage := by decide +kernel
  have reaches : ∀ mode,
      Reaches (keepingLoader.surroundings (sharedWorld (some [0x7B, 0x7D])) 0) mode
        (.whole (some "root.json") referringTree .empty)
        ⟨⟨referringTree, some "root.json"⟩, [],
          .tree (.mapping [("$ref", .text "shared.json#/Node")]), .empty⟩ :=
    fun mode => (Relation.ReflTransGen.single (.entries rfl)).tail .entry
  have named : (cut "shared.json#/Node").1 ≠ "" := by rw [cut_shared]; decide +kernel
  have locates : locate (sharedWorld (some [0x7B, 0x7D])).files (some "root.json")
      (cut "shared.json#/Node").1 = .ok "/shared.json" := by
    rw [cut_shared]
    exact locate_sharedFile _
  refine ⟨rfl, alike, fun mode => ?_, ?_, ?_⟩
  · obtain ⟨outcome, _, here, there, _⟩ := isolated mode
    exact here.trans there.symm
  · obtain ⟨outcome, _, here, _, _, _, reports⟩ := isolated .collecting
    obtain ⟨_, said⟩ := reports _ _ _ (reaches _) ⟨_, rfl, rfl⟩ named locates
    rw [here, ← message]
    exact said.subset (mem_addNew_iff.mpr (.inr rfl))
  · obtain ⟨outcome, _, here, _, _, _, reports⟩ := isolated .strict
    rw [here, ← message]
    exact reports _ _ _ (reaches _) ⟨_, rfl, rfl⟩ named locates

end ApiAdmission.Reference
