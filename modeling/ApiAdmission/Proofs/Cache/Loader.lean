import ApiAdmission.Cache.Loader
import ApiAdmission.Proofs.Reference.Worlds

/-!
# What a loader looks at

Loading gives an account of its accesses, and the account is complete: where another world holds the
same at each of them, the same document is loaded there (`Loader.load_determined`).  A disabled
loader has no accesses at all, so no world makes a difference to it.

A loader that has kept nothing yet loads what is loaded without a cache
(`Loader.surroundings_ofSettings`).
-/

namespace ApiAdmission

set_option autoImplicit false

/-- Two worlds hold the same at an access, each for a loader at a time. -/
def Access.Agrees (first second : World) (loader other : Loader) (now later : Int) :
    Access → Prop
  | .file location =>
    first.files.readText (Path.ofText location) = second.files.readText (Path.ofText location)
  | .kept address =>
    loader.cache.bind (·.get? now address) = other.cache.bind (·.get? later address)
  | .network address => first.ask address = second.ask address

namespace Reference

variable {first second : World} {location : String}

theorem readFile_congr (same : first.files.readText (Path.ofText location) =
    second.files.readText (Path.ofText location)) :
    readFile first location = readFile second location := by
  unfold readFile
  rw [same]

theorem fetch_congr (same : first.ask location = second.ask location) :
    fetch first location = fetch second location := by
  unfold fetch
  rw [same]

theorem load_congr (same : textAt first location = textAt second location) :
    load first true location = load second true location := by
  rw [load_eq, load_eq, same]

end Reference

namespace Loader

/-- How a loader that is enabled is set up, its cache included. -/
def setup (loader : Loader) : Option (Option CacheSettings) :=
  if loader.enabled then some (loader.cache.map DocumentCache.settings) else none

variable {loader other : Loader} {first second world : World} {now later : Int}
  {location : String}

/-- A disabled loader refuses, and looks at nothing. -/
theorem load_of_disabled (off : loader.enabled = false) :
    loader.load world now location = ⟨.error .disabled, loader, []⟩ := by
  simp [load, off]

/-- A file is read without the cache. -/
theorem load_of_file (on : loader.enabled = true) (file : isWebAddress location = false) :
    loader.load world now location =
      ⟨Reference.load world true location, loader, [.file location]⟩ := by
  simp [load, on, file]

/-- Without a cache the network is asked. -/
theorem load_without_cache (on : loader.enabled = true) (web : isWebAddress location = true)
    (bare : loader.cache = none) :
    loader.load world now location =
      ⟨Reference.load world true location, loader, [.network location]⟩ := by
  simp [load, on, web, bare]

/-- What is kept is read, and the network is not asked. -/
theorem load_of_kept {cache : DocumentCache} {text : String} (on : loader.enabled = true)
    (web : isWebAddress location = true) (has : loader.cache = some cache)
    (kept : cache.get? now location = some text) :
    loader.load world now location =
      ⟨Reference.readLoaded location text, loader, lookups cache location⟩ := by
  obtain ⟨enabled, _⟩ := loader
  cases has
  cases on
  simp [load, web, DocumentCache.load, kept]

/-- What is not kept is asked of the network. -/
theorem load_of_missing (world : World) {cache : DocumentCache} (on : loader.enabled = true)
    (web : isWebAddress location = true) (has : loader.cache = some cache)
    (missing : cache.get? now location = none) :
    (loader.load world now location).tree = Reference.load world true location ∧
      (loader.load world now location).accesses =
        lookups cache location ++ [.network location] := by
  have fetched : Reference.load world true location =
      (Reference.fetch world location).bind (Reference.readLoaded location) := by
    rw [Reference.load_eq, Reference.textAt, if_pos web]
  rw [fetched]
  cases fetches : Reference.fetch world location <;>
    simp [load, on, web, has, DocumentCache.load, missing, fetches, Except.bind]

/-- Either way the cache is looked at. -/
theorem lookups_subset {cache : DocumentCache} (on : loader.enabled = true)
    (web : isWebAddress location = true) (has : loader.cache = some cache) :
    lookups cache location ⊆ (loader.load world now location).accesses := by
  cases kept : cache.get? now location with
  | some text => rw [load_of_kept on web has kept]; exact List.Subset.refl _
  | none =>
    rw [(load_of_missing world on web has kept).2]
    exact List.subset_append_left _ _

/-- Caches with the same settings that agree on what is looked at have the same to give. -/
theorem get?_congr {cache kept : DocumentCache} (settings : cache.settings = kept.settings)
    (agree : Access.kept location ∈ lookups cache location →
      cache.get? now location = kept.get? later location) :
    cache.get? now location = kept.get? later location := by
  cases used : cache.settings.enabled with
  | false => simp [DocumentCache.get?, used, ← settings]
  | true => exact agree (by simp [lookups, used])

/-- **Loading is determined by what it looks at.**  Where loaders are set up alike and two worlds
hold the same at every access of a loading, the loading gives the same in both, and has the same
accesses. -/
theorem load_determined (alike : loader.setup = other.setup)
    (agree : ∀ access ∈ (loader.load first now location).accesses,
      access.Agrees first second loader other now later) :
    (loader.load first now location).tree = (other.load second later location).tree ∧
      (loader.load first now location).accesses =
        (other.load second later location).accesses := by
  unfold setup at alike
  cases on : loader.enabled with
  | false =>
    have alsoOff : other.enabled = false := by
      by_contra enabled
      simp [on, enabled] at alike
    rw [load_of_disabled on, load_of_disabled alsoOff]
    exact ⟨rfl, rfl⟩
  | true =>
    have alsoOn : other.enabled = true := by
      by_contra disabled
      simp [on, disabled] at alike
    have caches : loader.cache.map DocumentCache.settings =
        other.cache.map DocumentCache.settings := by
      simpa [on, alsoOn] using alike
    cases web : isWebAddress location with
    | false =>
      rw [load_of_file on web] at agree ⊢
      rw [load_of_file alsoOn web]
      have file := Reference.readFile_congr (agree _ List.mem_cons_self)
      refine ⟨Reference.load_congr ?_, rfl⟩
      simpa only [Reference.textAt, web, Bool.false_eq_true, if_false] using file
    | true =>
      have loads : Access.network location ∈ (loader.load first now location).accesses →
          Reference.load first true location = Reference.load second true location := by
        intro member
        have network := Reference.fetch_congr (agree _ member)
        exact Reference.load_congr (by simpa only [Reference.textAt, web, if_true] using network)
      cases bare : loader.cache with
      | none =>
        have alsoBare : other.cache = none := by
          rw [bare] at caches
          exact Option.map_eq_none_iff.mp caches.symm
        rw [load_without_cache on web bare] at loads ⊢
        rw [load_without_cache alsoOn web alsoBare]
        exact ⟨loads List.mem_cons_self, rfl⟩
      | some cache =>
        rw [bare] at caches
        obtain ⟨kept, has, settings⟩ := Option.map_eq_some_iff.mp caches.symm
        have looked : lookups cache location = lookups kept location := by
          unfold lookups
          rw [settings]
        have gives : cache.get? now location = kept.get? later location := by
          refine get?_congr settings.symm fun member => ?_
          simpa [Access.Agrees, bare, has] using agree _ (lookups_subset on web bare member)
        cases found : cache.get? now location with
        | some text =>
          rw [load_of_kept on web bare found, load_of_kept alsoOn web has (gives ▸ found)]
          exact ⟨rfl, looked⟩
        | none =>
          obtain ⟨tree, accesses⟩ := load_of_missing first on web bare found
          obtain ⟨alsoTree, alsoAccesses⟩ :=
            load_of_missing second alsoOn web has (gives ▸ found)
          rw [tree, accesses, alsoTree, alsoAccesses, looked]
          exact ⟨loads (by simp [accesses]), rfl⟩

/-- Nothing is kept on an empty shelf. -/
theorem get?_empty (settings : CacheSettings) :
    (DocumentCache.onShelf settings .empty).get? now location = none := by
  simp [DocumentCache.get?, DocumentCache.onShelf, Shelf.empty]

/-- A loader that has kept nothing loads what is loaded without a cache. -/
theorem surroundings_ofSettings (settings : Settings) (world : World) (now : Int) :
    (ofSettings settings).surroundings world now =
      world.surroundings settings.remote.enabled := by
  have loads : ∀ location, ((ofSettings settings).load world now location).tree =
      Reference.load world settings.remote.enabled location := by
    intro location
    cases on : settings.remote.enabled with
    | false =>
      rw [load_of_disabled on]
      rfl
    | true =>
      cases web : isWebAddress location with
      | false => rw [load_of_file on web]
      | true =>
        cases keeps : settings.cache.enabled with
        | false =>
          have bare : (ofSettings settings).cache = none := by simp [ofSettings, keeps]
          rw [load_without_cache on web bare]
        | true =>
          have has : (ofSettings settings).cache = some (.onShelf settings.cache .empty) := by
            simp [ofSettings, keeps]
          exact (load_of_missing world on web has (get?_empty settings.cache)).1
  unfold surroundings World.surroundings
  rw [funext loads]

end Loader

end ApiAdmission
