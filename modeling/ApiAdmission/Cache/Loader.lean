import ApiAdmission.Cache.Load
import ApiAdmission.Reference.Surroundings

/-!
# The loader of documents

Whoever replaces references asks a loader for the documents.  A loader may be disabled, and it may
have a cache.  It keeps to an order: one that is disabled refuses at once, and only then come the
cache, the network and the files.  Each loading gives an account of what it has looked at.
-/

namespace ApiAdmission

set_option autoImplicit false

/-- What loading looks at outside the run. -/
inductive Access where
  /-- The file at a location. -/
  | file (location : String)
  /-- The text that is kept for an address. -/
  | kept (address : String)
  /-- The answer of the network for an address. -/
  | network (address : String)
deriving DecidableEq, Repr

/-- A loader of documents. -/
structure Loader where
  /-- Whether it loads anything. -/
  enabled : Bool
  /-- Where it keeps what the network answers. -/
  cache : Option DocumentCache

/-- The outcome of a loading. -/
structure Loaded where
  /-- The document. -/
  tree : Except Reference.LoadFault Tree
  /-- The loader afterwards. -/
  loader : Loader
  /-- What was looked at, in order. -/
  accesses : List Access

namespace Loader

/-- The loader that settings ask for; nothing is kept yet. -/
def ofSettings (settings : Settings) : Loader :=
  ⟨settings.remote.enabled,
    if settings.cache.enabled then some (.onShelf settings.cache .empty) else none⟩

/-- What a cache looks at for an address, apart from the network. -/
def lookups (cache : DocumentCache) (address : String) : List Access :=
  if cache.settings.enabled then [.kept address] else []

/-- Loads the document at a location at a time. -/
def load (loader : Loader) (world : World) (now : Int) (location : String) : Loaded :=
  if !loader.enabled then ⟨.error .disabled, loader, []⟩
  else if !isWebAddress location then
    ⟨Reference.load world true location, loader, [.file location]⟩
  else
    match loader.cache with
    | none => ⟨Reference.load world true location, loader, [.network location]⟩
    | some cache =>
      let outcome := cache.load world now location
      ⟨outcome.tree, { loader with cache := some outcome.cache },
        lookups cache location ++ if outcome.asked then [.network location] else []⟩

/-- What work on references asks of a world through a loader.  The work asks for each document once,
so what the loader keeps on the way is of no use to it. -/
def surroundings (loader : Loader) (world : World) (now : Int) : Reference.Surroundings where
  locate := Reference.locate world.files
  load location := (loader.load world now location).tree

end Loader

end ApiAdmission
