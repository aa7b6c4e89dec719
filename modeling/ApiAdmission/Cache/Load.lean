import ApiAdmission.Cache.Basic
import ApiAdmission.Reference.Load

/-!
# Loading with a cache

A document at a web address is looked for among the kept texts before the network is asked, and what
the network answers is kept.  A failure is never kept.  Files are always read anew.
-/

namespace ApiAdmission

set_option autoImplicit false

/-- The outcome of loading with a cache. -/
structure CachedLoad where
  /-- The document. -/
  tree : Except Reference.LoadFault Tree
  /-- The cache afterwards. -/
  cache : DocumentCache
  /-- Whether the network was asked. -/
  asked : Bool

/-- Loads the document at a location at a time. -/
def DocumentCache.load (cache : DocumentCache) (world : World) (now : Int) (location : String) :
    CachedLoad :=
  let read (text : String) : Except Reference.LoadFault Tree := Reference.readLoaded location text
  if isWebAddress location then
    match cache.get? now location with
    | some text => ⟨read text, cache, false⟩
    | none =>
      match Reference.fetch world location with
      | .ok text => ⟨read text, cache.set now location text, true⟩
      | .error fault => ⟨.error fault, cache, true⟩
  else ⟨do read (← Reference.readFile world location), cache, false⟩

end ApiAdmission
