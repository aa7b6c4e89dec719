import ApiAdmission.Proofs.Cache.Loader
import Mathlib.Data.Set.Function

/-!
# A cache cannot be told from the network

What happens to a cache is a list of events: documents are loaded through it, at any times and with
any files, it is opened again with any settings, and kept texts expire.  The answers of the network
are the same all the time.

Every event keeps the shelf current: each kept text is what the network answers for the address with
its key (`Shelf.Current.after`).  So as long as no two of the addresses share a key, every loading
gives what it gives without a cache (`map_tree_loads`).  Files pass the cache by, and a failed
request leaves it as it is.  A text that was kept lasts until its time is over, whatever happens in
between (`Lasts.cacheAfter`), and is not asked for again until then.
-/

namespace ApiAdmission

set_option autoImplicit false

/-! ## What happens to a cache -/

/-- A request for a document. -/
structure LoadRequest where
  /-- Whether its loader loads anything. -/
  enabled : Bool
  /-- The files that there are then. -/
  files : FileSystem
  /-- The time of the request. -/
  now : Int
  /-- The location of the document. -/
  location : String

/-- What may happen to a cache. -/
inductive CacheEvent where
  /-- A document is loaded through it. -/
  | load (request : LoadRequest)
  /-- It is closed, and opened again with other settings. -/
  | reopen (settings : CacheSettings)
  /-- What is kept under a key expires. -/
  | expire (key : String)

/-- The loading that a request asks for, with a cache or without one; the network has the answers of
a world. -/
def LoadRequest.through (request : LoadRequest) (world : World) (cache : Option DocumentCache) :
    Loaded :=
  Loader.load ⟨request.enabled, cache⟩ { world with files := request.files } request.now
    request.location

/-- The cache that a request leaves. -/
def LoadRequest.leaves (request : LoadRequest) (world : World) (cache : DocumentCache) :
    DocumentCache :=
  (request.through world (some cache)).loader.cache.getD cache

/-- The cache after an event. -/
def CacheEvent.after (world : World) (cache : DocumentCache) : CacheEvent → DocumentCache
  | .load request => request.leaves world cache
  | .reopen settings => .onShelf settings cache.shelf
  | .expire key =>
    { cache with shelf.kept := cache.shelf.kept.filter fun entry => entry.key != key }

/-- The cache after events. -/
def cacheAfter (world : World) (cache : DocumentCache) (events : List CacheEvent) : DocumentCache :=
  events.foldl (CacheEvent.after world) cache

/-- The request of an event. -/
def CacheEvent.request? : CacheEvent → Option LoadRequest
  | .load request => some request
  | _ => none

/-- The requests among events, in order. -/
def requestsIn (events : List CacheEvent) : List LoadRequest :=
  events.filterMap CacheEvent.request?

/-- The loadings among events, in order. -/
def loadsIn (world : World) : DocumentCache → List CacheEvent → List Loaded
  | _, [] => []
  | cache, event :: rest =>
    (event.request?.map fun request => request.through world (some cache)).toList ++
      loadsIn world (event.after world cache) rest

/-- The addresses that are asked for among events. -/
def addressesIn (events : List CacheEvent) : Set String :=
  {address | isWebAddress address = true ∧
    ∃ request, .load request ∈ events ∧ request.location = address}

variable {world : World} {cache : DocumentCache} {request : LoadRequest} {text : String}

/-! ## What is kept -/

/-- What a cache gives for an address is an entry under its key that is not expired. -/
theorem DocumentCache.get?_eq_some {now : Int} {address : String}
    (given : cache.get? now address = some text) :
    cache.settings.enabled = true ∧ ∃ entry ∈ cache.shelf.kept,
      entry.key = keyOf address ∧ now < entry.expiry ∧ entry.text = text := by
  unfold get? at given
  split at given
  case isTrue enabled =>
    obtain ⟨entry, found, same⟩ := Option.map_eq_some_iff.mp given
    have fits := List.find?_some found
    simp only [Bool.and_eq_true, beq_iff_eq, decide_eq_true_eq] at fits
    exact ⟨enabled, entry, List.mem_of_find?_eq_some found, fits.1, fits.2, same⟩
  case isFalse => cases given

/-- A cache that is enabled gives something while an entry is not expired. -/
theorem DocumentCache.get?_ne_none {now : Int} {address : String}
    (enabled : cache.settings.enabled = true) {entry : KeptText}
    (member : entry ∈ cache.shelf.kept) (key : entry.key = keyOf address)
    (fresh : now < entry.expiry) : cache.get? now address ≠ none := by
  rw [get?, if_pos enabled, Ne, Option.map_eq_none_iff, List.find?_eq_none]
  intro absent
  exact absent entry member (by simp [key, fresh])

/-- What is kept after a text was is the text, or was kept before under another key. -/
theorem DocumentCache.mem_kept_set {now : Int} {address : String} {entry : KeptText}
    (enabled : cache.settings.enabled = true) :
    entry ∈ (cache.set now address text).shelf.kept ↔
      entry = ⟨keyOf address, text, now + cache.settings.lifetime⟩ ∨
        entry ∈ cache.shelf.kept ∧ entry.key ≠ keyOf address := by
  simp [set, enabled]

/-! ## One loading -/

theorem through_of_disabled (off : request.enabled = false) (cache? : Option DocumentCache) :
    request.through world cache? = ⟨.error .disabled, ⟨request.enabled, cache?⟩, []⟩ :=
  Loader.load_of_disabled off

theorem through_of_file (on : request.enabled = true)
    (file : isWebAddress request.location = false) (cache? : Option DocumentCache) :
    request.through world cache? =
      ⟨Reference.load { world with files := request.files } true request.location,
        ⟨request.enabled, cache?⟩, [.file request.location]⟩ :=
  Loader.load_of_file on file

/-- Without a cache, an address is asked of the network. -/
theorem through_none (on : request.enabled = true) (web : isWebAddress request.location = true) :
    (request.through world none).tree =
      (Reference.fetch world request.location).bind (Reference.readLoaded request.location) := by
  have bare : request.through world none =
      ⟨Reference.load { world with files := request.files } true request.location,
        ⟨request.enabled, none⟩, [.network request.location]⟩ :=
    Loader.load_without_cache on web rfl
  rw [bare, Reference.load_eq, Reference.textAt, if_pos web]
  rfl

theorem through_of_kept (on : request.enabled = true) (web : isWebAddress request.location = true)
    (kept : cache.get? request.now request.location = some text) :
    request.through world (some cache) =
      ⟨Reference.readLoaded request.location text, ⟨request.enabled, some cache⟩,
        Loader.lookups cache request.location⟩ :=
  Loader.load_of_kept on web rfl kept

/-- What is not kept is asked of the network, and kept if it can be had. -/
theorem through_of_missing (on : request.enabled = true)
    (web : isWebAddress request.location = true)
    (missing : cache.get? request.now request.location = none) :
    request.through world (some cache) =
      ⟨(Reference.fetch world request.location).bind (Reference.readLoaded request.location),
        ⟨request.enabled, some (match Reference.fetch world request.location with
          | .ok text => cache.set request.now request.location text
          | .error _ => cache)⟩,
        Loader.lookups cache request.location ++ [.network request.location]⟩ := by
  have same : Reference.fetch { world with files := request.files } request.location =
      Reference.fetch world request.location := rfl
  cases fetches : Reference.fetch world request.location <;>
    simp [LoadRequest.through, Loader.load, on, web, DocumentCache.load, missing, same, fetches,
      Except.bind]

/-- A loading leaves the cache as it is, or keeps what was not kept and could be had. -/
theorem leaves_cases (world : World) (cache : DocumentCache) (request : LoadRequest) :
    request.leaves world cache = cache ∨
      ∃ text, isWebAddress request.location = true ∧
        cache.get? request.now request.location = none ∧
        Reference.fetch world request.location = .ok text ∧
        request.leaves world cache = cache.set request.now request.location text := by
  unfold LoadRequest.leaves
  cases on : request.enabled with
  | false =>
    rw [through_of_disabled on]
    exact .inl rfl
  | true =>
    cases web : isWebAddress request.location with
    | false =>
      rw [through_of_file on web]
      exact .inl rfl
    | true =>
      cases kept : cache.get? request.now request.location with
      | some text =>
        rw [through_of_kept on web kept]
        exact .inl rfl
      | none =>
        rw [through_of_missing on web kept]
        cases fetches : Reference.fetch world request.location with
        | error fault => exact .inl rfl
        | ok text => exact .inr ⟨text, rfl, rfl, rfl, rfl⟩

/-! ## The shelf stays current -/

/-- Every kept text is what the network has at one of some addresses, under the key of that. -/
def Shelf.Current (world : World) (addresses : Set String) (shelf : Shelf) : Prop :=
  ∀ entry ∈ shelf.kept, ∃ address ∈ addresses,
    entry.key = DocumentCache.keyOf address ∧ Reference.fetch world address = .ok entry.text

section Current

variable {addresses : Set String}

theorem Shelf.current_empty (world : World) (addresses : Set String) :
    Shelf.empty.Current world addresses :=
  fun _ member => (List.not_mem_nil member).elim

/-- **An event keeps the shelf current.** -/
theorem Shelf.Current.after (current : cache.shelf.Current world addresses) (event : CacheEvent)
    (asked : ∀ request, event = .load request → isWebAddress request.location = true →
      request.location ∈ addresses) :
    (event.after world cache).shelf.Current world addresses := by
  cases event with
  | reopen settings => exact current
  | expire key => exact fun entry member => current entry (List.mem_of_mem_filter member)
  | load request =>
    change (request.leaves world cache).shelf.Current world addresses
    rcases leaves_cases world cache request with same | ⟨text, web, _, fetches, same⟩
    · rw [same]
      exact current
    · rw [same]
      intro entry member
      cases enabled : cache.settings.enabled with
      | false =>
        rw [DocumentCache.set, if_neg (by simp [enabled])] at member
        exact current entry member
      | true =>
        rcases (DocumentCache.mem_kept_set enabled).mp member with rfl | ⟨before, _⟩
        · exact ⟨request.location, asked request rfl web, rfl, fetches⟩
        · exact current entry before

/-- What is kept for an address is what the network has there, where no two addresses share a
key. -/
theorem Shelf.Current.fetch_eq (current : cache.shelf.Current world addresses)
    (distinct : Set.InjOn DocumentCache.keyOf addresses) {now : Int} {address : String}
    (asked : address ∈ addresses) (kept : cache.get? now address = some text) :
    Reference.fetch world address = .ok text := by
  obtain ⟨_, entry, member, key, _, rfl⟩ := DocumentCache.get?_eq_some kept
  obtain ⟨other, known, same, fetches⟩ := current entry member
  rw [distinct asked known (key.symm.trans same)]
  exact fetches

/-- With a current shelf, a loading gives what it gives without a cache. -/
theorem Shelf.Current.tree_through (current : cache.shelf.Current world addresses)
    (distinct : Set.InjOn DocumentCache.keyOf addresses)
    (asked : isWebAddress request.location = true → request.location ∈ addresses) :
    (request.through world (some cache)).tree = (request.through world none).tree := by
  cases on : request.enabled with
  | false => rw [through_of_disabled on, through_of_disabled on]
  | true =>
    cases web : isWebAddress request.location with
    | false => rw [through_of_file on web, through_of_file on web]
    | true =>
      rw [through_none on web]
      cases kept : cache.get? request.now request.location with
      | some text =>
        rw [through_of_kept on web kept, current.fetch_eq distinct (asked web) kept]
        rfl
      | none => rw [through_of_missing on web kept]

theorem addressesIn_cons {event : CacheEvent} {rest : List CacheEvent}
    (asked : addressesIn (event :: rest) ⊆ addresses) :
    (∀ request, event = .load request → isWebAddress request.location = true →
      request.location ∈ addresses) ∧ addressesIn rest ⊆ addresses := by
  constructor
  · rintro request rfl web
    exact asked ⟨web, request, List.mem_cons_self, rfl⟩
  · rintro address ⟨web, request, among, same⟩
    exact asked ⟨web, request, List.mem_cons_of_mem _ among, same⟩

/-- The shelf stays current throughout. -/
theorem Shelf.Current.cacheAfter {events : List CacheEvent}
    (current : cache.shelf.Current world addresses) (asked : addressesIn events ⊆ addresses) :
    (cacheAfter world cache events).shelf.Current world addresses := by
  induction events generalizing cache with
  | nil => exact current
  | cons event rest ih =>
    obtain ⟨first, others⟩ := addressesIn_cons asked
    exact ih (current.after event first) others

/-- **All loadings give what they give without a cache.** -/
theorem Shelf.Current.map_tree_loadsIn {events : List CacheEvent}
    (current : cache.shelf.Current world addresses)
    (distinct : Set.InjOn DocumentCache.keyOf addresses) (asked : addressesIn events ⊆ addresses) :
    (loadsIn world cache events).map Loaded.tree =
      (requestsIn events).map fun request => (request.through world none).tree := by
  induction events generalizing cache with
  | nil => rfl
  | cons event rest ih =>
    obtain ⟨first, others⟩ := addressesIn_cons asked
    have onward := ih (current.after event first) others
    rw [loadsIn, List.map_append, onward]
    cases event with
    | load request =>
      have same := current.tree_through distinct (first request rfl)
      simp [requestsIn, CacheEvent.request?, same]
    | reopen | expire => rfl

end Current

/-! ## What is kept lasts -/

/-- Something is kept for an address that expires at a time or later. -/
def DocumentCache.Lasts (cache : DocumentCache) (address : String) (limit : Int) : Prop :=
  ∃ entry ∈ cache.shelf.kept, entry.key = keyOf address ∧ limit ≤ entry.expiry

namespace DocumentCache.Lasts

variable {address : String} {limit : Int}

/-- What lasts is found before its time is over. -/
theorem get?_ne_none (lasts : cache.Lasts address limit) {now : Int} (soon : now < limit)
    (enabled : cache.settings.enabled = true) : cache.get? now address ≠ none := by
  obtain ⟨entry, member, key, late⟩ := lasts
  exact DocumentCache.get?_ne_none enabled member key (Int.lt_of_lt_of_le soon late)

/-- Until then an event keeps it, unless it is that it expires. -/
theorem after (lasts : cache.Lasts address limit) (event : CacheEvent)
    (unexpired : event ≠ .expire (keyOf address))
    (soon : ∀ request, event = .load request → request.now < limit) :
    (event.after world cache).Lasts address limit := by
  obtain ⟨entry, member, key, late⟩ := lasts
  cases event with
  | reopen settings => exact ⟨entry, member, key, late⟩
  | expire other =>
    refine ⟨entry, List.mem_filter.mpr ⟨member, ?_⟩, key, late⟩
    rw [key, bne_iff_ne]
    rintro rfl
    exact unexpired rfl
  | load request =>
    change (request.leaves world cache).Lasts address limit
    rcases leaves_cases world cache request with same | ⟨text, _, missing, _, same⟩
    · rw [same]
      exact ⟨entry, member, key, late⟩
    · rw [same]
      cases enabled : cache.settings.enabled with
      | false =>
        rw [DocumentCache.set, if_neg (by simp [enabled])]
        exact ⟨entry, member, key, late⟩
      | true =>
        -- A text under the same key is not replaced: it would have been found.
        have fresh := Int.lt_of_lt_of_le (soon request rfl) late
        refine ⟨entry, (mem_kept_set enabled).mpr (.inr ⟨member, fun same => ?_⟩), key, late⟩
        exact DocumentCache.get?_ne_none enabled member same fresh missing

/-- It lasts until then, whatever happens. -/
theorem cacheAfter {events : List CacheEvent} (lasts : cache.Lasts address limit)
    (unexpired : .expire (keyOf address) ∉ events)
    (soon : ∀ request, .load request ∈ events → request.now < limit) :
    (cacheAfter world cache events).Lasts address limit := by
  induction events generalizing cache with
  | nil => exact lasts
  | cons event rest ih =>
    obtain ⟨other, others⟩ := List.ne_and_not_mem_of_not_mem_cons unexpired
    refine ih (lasts.after event (Ne.symm other) ?_) others ?_
    · rintro request rfl
      exact soon request List.mem_cons_self
    · exact fun request among => soon request (List.mem_cons_of_mem _ among)

end DocumentCache.Lasts

/-- The network has been asked for the document of a request. -/
def Loaded.Asked (loaded : Loaded) (request : LoadRequest) : Prop :=
  .network request.location ∈ loaded.accesses

/-- The network is asked exactly for what a loader loads from there and the cache does not give. -/
theorem asked_iff :
    (request.through world (some cache)).Asked request ↔
      request.enabled = true ∧ isWebAddress request.location = true ∧
        cache.get? request.now request.location = none := by
  have notLooked : ∀ address, .network address ∉ Loader.lookups cache address := by
    intro address
    unfold Loader.lookups
    split <;> simp
  unfold Loaded.Asked
  cases on : request.enabled with
  | false => simp [through_of_disabled on]
  | true =>
    cases web : isWebAddress request.location with
    | false => simp [through_of_file on web]
    | true =>
      cases kept : cache.get? request.now request.location with
      | some text => simp [through_of_kept on web kept, notLooked]
      | none => simp [through_of_missing on web kept]

/-- How a cache serves a request, and what follows in view of some later events. -/
structure DocumentCache.Serves (world : World) (cache : DocumentCache) (request : LoadRequest)
    (later : List CacheEvent) : Prop where
  /-- A file passes the cache by. -/
  file : isWebAddress request.location = false →
    request.leaves world cache = cache ∧
      ∀ address, .kept address ∉ (request.through world (some cache)).accesses
  /-- A request that fails is made, and nothing is kept. -/
  failure : ∀ fault, isWebAddress request.location = true →
    Reference.fetch world request.location = .error fault →
      request.leaves world cache = cache ∧
        (request.enabled = true →
          (request.through world (some cache)).Asked request)
  /-- What was had is not asked for again while it is kept and has not expired. -/
  once : ∀ text middle again rest, later = middle ++ .load again :: rest →
    cache.settings.enabled = true → Reference.fetch world request.location = .ok text →
    (request.through world (some cache)).Asked request →
    again.location = request.location →
    .expire (keyOf request.location) ∉ middle →
    (∀ other, .load other ∈ middle ++ [.load again] →
      other.now < request.now + cache.settings.lifetime) →
    let kept := cacheAfter world cache (.load request :: middle)
    kept.settings.enabled = true → ¬ (again.through world (some kept)).Asked again

/-- A cache that is current serves every request so. -/
theorem Shelf.Current.serves {addresses : Set String}
    (current : cache.shelf.Current world addresses)
    (distinct : Set.InjOn DocumentCache.keyOf addresses)
    (asked : isWebAddress request.location = true → request.location ∈ addresses)
    (later : List CacheEvent) : cache.Serves world request later where
  file file := by
    unfold LoadRequest.leaves
    cases on : request.enabled with
    | false => simp [through_of_disabled on]
    | true => simp [through_of_file on file]
  failure fault web fails := by
    have missing : cache.get? request.now request.location = none := by
      cases kept : cache.get? request.now request.location with
      | none => rfl
      | some text => cases fails.symm.trans (current.fetch_eq distinct (asked web) kept)
    refine ⟨?_, fun on => asked_iff.mpr ⟨on, web, missing⟩⟩
    unfold LoadRequest.leaves
    cases on : request.enabled with
    | false => simp [through_of_disabled on]
    | true => simp [through_of_missing on web missing, fails]
  once := by
    rintro text middle again rest rfl enabled fetches asks same unexpired soon kept enabledAgain
    obtain ⟨on, web, missing⟩ := asked_iff.mp asks
    have stored : request.leaves world cache = cache.set request.now request.location text := by
      simp [LoadRequest.leaves, through_of_missing on web missing, fetches]
    have lasts : (request.leaves world cache).Lasts request.location
        (request.now + cache.settings.lifetime) := by
      rw [stored]
      exact ⟨_, (DocumentCache.mem_kept_set enabled).mpr (.inl rfl), rfl, le_rfl⟩
    have stays : kept.Lasts request.location (request.now + cache.settings.lifetime) :=
      lasts.cacheAfter unexpired fun other among => soon other (List.mem_append_left _ among)
    intro asksAgain
    obtain ⟨_, _, missingAgain⟩ := asked_iff.mp asksAgain
    rw [same] at missingAgain
    exact stays.get?_ne_none (soon again (by simp)) enabledAgain missingAgain

/-- **A cache cannot be told from the network.**  Where no two of the addresses share a key, all
loadings through a cache that starts empty give what they give without it, whatever happens to it
between them, and every request is served as it should be. -/
theorem cache_is_transparent (world : World) (settings : CacheSettings) (events : List CacheEvent)
    (distinct : Set.InjOn DocumentCache.keyOf (addressesIn events)) :
    (loadsIn world (.onShelf settings .empty) events).map Loaded.tree =
        (requestsIn events).map (fun request => (request.through world none).tree) ∧
      ∀ before request later, events = before ++ .load request :: later →
        (cacheAfter world (.onShelf settings .empty) before).Serves world request later := by
  have current : (DocumentCache.onShelf settings .empty).shelf.Current world (addressesIn events) :=
    Shelf.current_empty world _
  refine ⟨current.map_tree_loadsIn distinct subset_rfl, ?_⟩
  rintro before request later rfl
  refine (current.cacheAfter ?_).serves distinct ?_ later
  · rintro address ⟨web, other, among, same⟩
    exact ⟨web, other, List.mem_append_left _ among, same⟩
  · exact fun web => ⟨web, request, by simp, rfl⟩

/-- A world with one document on the network. -/
def petWorld : World where
  files := ⟨.directory [], []⟩
  environment := []
  network := [("https://h/pet.json", .response 200 "\x7b\x7d")]
  standardInput := ""
  terminal := false
  systemName := "Linux"
  homes := []

/-- A request for the document at an address at a time. -/
def requestAt (now : Int) (address : String) : LoadRequest :=
  ⟨true, ⟨.directory [], []⟩, now, address⟩

/-- What happens between two requests for the document: another one is asked for in vain while the
cache is disabled, and then the cache is enabled with another lifetime. -/
def eventsBetween : List CacheEvent :=
  [.reopen ⟨false, 300⟩, .load (requestAt 5 "https://h/lost.json"), .reopen ⟨true, 10⟩]

/-- Two requests for the document and what happens between them. -/
def petEvents : List CacheEvent :=
  .load (requestAt 0 "https://h/pet.json") :: eventsBetween ++
    [.load (requestAt 59 "https://h/pet.json")]

theorem injOn_petEvents : Set.InjOn DocumentCache.keyOf (addressesIn petEvents) := by
  have apart : DocumentCache.keyOf "https://h/pet.json" ≠
      DocumentCache.keyOf "https://h/lost.json" := by decide +kernel
  have known : ∀ address ∈ addressesIn petEvents,
      address = "https://h/pet.json" ∨ address = "https://h/lost.json" := by
    rintro _ ⟨_, request, among, rfl⟩
    simp only [petEvents, eventsBetween, List.cons_append, List.nil_append, List.mem_cons,
      CacheEvent.load.injEq, reduceCtorEq, List.not_mem_nil, or_false, false_or] at among
    rcases among with rfl | rfl | rfl <;> simp [requestAt]
  intro first firstAsked second secondAsked same
  rcases known first firstAsked with rfl | rfl <;> rcases known second secondAsked with rfl | rfl
  · rfl
  · exact absurd same apart
  · exact absurd same.symm apart
  · rfl

/-- The second request is served from the shelf, though the cache was disabled in between. -/
theorem cache_is_transparent_petWorld :
    Set.InjOn DocumentCache.keyOf (addressesIn petEvents) ∧
    (loadsIn petWorld (.onShelf ⟨true, 60⟩ .empty) petEvents).map Loaded.tree =
      [.ok (.mapping []), .error (.unreachable "https://h/lost.json" "connection refused"),
        .ok (.mapping [])] ∧
    ¬ ((requestAt 59 "https://h/pet.json").through petWorld (some
      (cacheAfter petWorld (.onShelf ⟨true, 60⟩ .empty)
        (.load (requestAt 0 "https://h/pet.json") :: eventsBetween)))).Asked
          (requestAt 59 "https://h/pet.json") := by
  obtain ⟨trees, serves⟩ := cache_is_transparent petWorld ⟨true, 60⟩ petEvents injOn_petEvents
  have served := serves [] (requestAt 0 "https://h/pet.json") _ rfl
  have asks : ((requestAt 0 "https://h/pet.json").through petWorld
      (some (.onShelf ⟨true, 60⟩ .empty))).Asked (requestAt 0 "https://h/pet.json") :=
    asked_iff.mpr ⟨rfl, by decide +kernel, Loader.get?_empty ⟨true, 60⟩⟩
  refine ⟨injOn_petEvents, trees.trans (by rfl), ?_⟩
  refine served.once "\x7b\x7d" eventsBetween (requestAt 59 "https://h/pet.json") [] rfl rfl
    (by rfl) asks rfl (by simp [eventsBetween]) ?_ rfl
  simp [eventsBetween, requestAt, DocumentCache.onShelf, cacheAfter]

end ApiAdmission
