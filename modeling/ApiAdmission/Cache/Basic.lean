import ApiAdmission.Digest.Sha256
import ApiAdmission.Settings.Basic

/-!
# Kept documents

The texts of remote documents are kept on a shelf, each under the digest of its address and until it
expires.  The shelf outlives the caches that use it: a cache that is not enabled neither looks at it
nor changes it, and an entry keeps the lifetime with which it was stored.
-/

namespace ApiAdmission

set_option autoImplicit false

/-- A kept text. -/
structure KeptText where
  /-- The digest of its address. -/
  key : String
  /-- The text. -/
  text : String
  /-- The time from which on it is expired. -/
  expiry : Int
deriving DecidableEq, Repr

/-- What is kept. -/
structure Shelf where
  /-- Whether the shelf has been set up. -/
  made : Bool
  /-- The kept texts, one for each key. -/
  kept : List KeptText
deriving DecidableEq, Repr

/-- The shelf before any use. -/
def Shelf.empty : Shelf := ⟨false, []⟩

/-- A cache on a shelf. -/
structure DocumentCache where
  /-- How texts are kept. -/
  settings : CacheSettings
  /-- What is kept. -/
  shelf : Shelf
deriving DecidableEq, Repr

namespace DocumentCache

/-- Opens a cache on a shelf; one that is enabled sets the shelf up. -/
def onShelf (settings : CacheSettings) (shelf : Shelf) : DocumentCache :=
  ⟨settings, { shelf with made := shelf.made || settings.enabled }⟩

/-- The key of an address. -/
def keyOf (address : String) : String := Sha256.digestOfText address

/-- The text that is kept for an address at a time. -/
def get? (cache : DocumentCache) (now : Int) (address : String) : Option String :=
  if cache.settings.enabled then
    (cache.shelf.kept.find? fun entry =>
      entry.key == keyOf address && decide (now < entry.expiry)).map KeptText.text
  else none

/-- Keeps a text for an address from a time on. -/
def set (cache : DocumentCache) (now : Int) (address text : String) : DocumentCache :=
  if cache.settings.enabled then
    let key := keyOf address
    let others := cache.shelf.kept.filter fun entry => entry.key != key
    { cache with
      shelf.kept := ⟨key, text, now + cache.settings.lifetime⟩ :: others }
  else cache

end DocumentCache

end ApiAdmission
