import ApiAdmission.Proofs.World.RealPath
import ApiAdmission.Proofs.World.Sound
import ApiAdmission.Proofs.World.TextFile

/-!
# Following links

Looking up a path and making it real follow links in different ways: the one puts the names of a
link in front of those that are left and counts the links, and the other works a link out by itself
and remembers what it means.  `Follows` says where names lead with neither, and at the cost of how
many links.  Whatever can be looked up is followed so (`follows_of_lookupFrom`), and is made real
the same way (`realFrom_of_follows`): a link that is met inside itself would cost more than itself,
so none is.

So the real path of what can be looked up consists of the names that it is stored under
(`Sound.realPath_of_lookup`).
-/

namespace ApiAdmission

set_option autoImplicit false

namespace FileSystem

variable {files : FileSystem}

/-! ## Where names lead -/

/-- Where the names of a link in a directory are followed from. -/
def linkStart (target : String) (here : List String) : List String :=
  if (Path.ofText target).isAbsolute then [] else here

/-- Names followed from a directory lead to other names, at the cost of some links. -/
inductive Follows (files : FileSystem) :
    List String → List String → List String → Nat → Prop where
  | here {here : List String} : Follows files here [] here 0
  | above {here rest there : List String} {cost : Nat}
      (onward : Follows files here.dropLast rest there cost) :
      Follows files here (Path.above :: rest) there cost
  | real {here rest there : List String} {name : String} {entry : Entry} {cost : Nat}
      (notAbove : name ≠ Path.above) (stored : files.root.descend? (here ++ [name]) = some entry)
      (noLink : ∀ target, entry ≠ .link target)
      (onward : Follows files (here ++ [name]) rest there cost) :
      Follows files here (name :: rest) there cost
  | link {here rest middle there : List String} {name target : String} {inner outer : Nat}
      (notAbove : name ≠ Path.above)
      (stored : files.root.descend? (here ++ [name]) = some (.link target))
      (through : Follows files (linkStart target here) (Path.ofText target).names middle inner)
      (onward : Follows files middle rest there outer) :
      Follows files here (name :: rest) there (inner + outer + 1)

/-- Names lead to one place, at one cost. -/
theorem Follows.unique {here names there other : List String} {cost price : Nat}
    (follows : files.Follows here names there cost) (again : files.Follows here names other price) :
    other = there ∧ price = cost := by
  induction follows generalizing other price with
  | here =>
    cases again
    exact ⟨rfl, rfl⟩
  | above _ ih =>
    cases again with
    | above onward => exact ih onward
    | real notAbove | link notAbove => exact absurd rfl notAbove
  | real notAbove stored noLink _ ih =>
    cases again with
    | above => exact absurd rfl notAbove
    | real _ _ _ onward => exact ih onward
    | link _ found => exact absurd (Option.some.inj (stored.symm.trans found)) (noLink _)
  | link notAbove stored _ _ ihThrough ihOnward =>
    cases again with
    | above => exact absurd rfl notAbove
    | real _ found noLink => exact absurd (Option.some.inj (found.symm.trans stored)) (noLink _)
    | link _ found through onward =>
      cases stored.symm.trans found
      obtain ⟨rfl, rfl⟩ := ihThrough through
      obtain ⟨rfl, rfl⟩ := ihOnward onward
      exact ⟨rfl, rfl⟩

/-- Names one after the other are followed one after the other. -/
theorem Follows.split {here first second there : List String} {cost : Nat}
    (follows : files.Follows here (first ++ second) there cost) :
    ∃ middle inner outer, files.Follows here first middle inner ∧
      files.Follows middle second there outer := by
  generalize whole : first ++ second = names at follows
  induction follows generalizing first with
  | here =>
    obtain ⟨rfl, rfl⟩ := List.append_eq_nil_iff.mp whole
    exact ⟨_, 0, 0, .here, .here⟩
  | above onward ih =>
    rcases List.append_eq_cons_iff.mp whole with ⟨rfl, rfl⟩ | ⟨rest, rfl, rfl⟩
    · exact ⟨_, 0, _, .here, .above onward⟩
    · obtain ⟨middle, inner, outer, before, after⟩ := ih rfl
      exact ⟨middle, inner, outer, .above before, after⟩
  | real notAbove stored noLink onward ih =>
    rcases List.append_eq_cons_iff.mp whole with ⟨rfl, rfl⟩ | ⟨rest, rfl, rfl⟩
    · exact ⟨_, 0, _, .here, .real notAbove stored noLink onward⟩
    · obtain ⟨middle, inner, outer, before, after⟩ := ih rfl
      exact ⟨middle, inner, outer, .real notAbove stored noLink before, after⟩
  | link notAbove stored through onward _ ih =>
    rcases List.append_eq_cons_iff.mp whole with ⟨rfl, rfl⟩ | ⟨rest, rfl, rfl⟩
    · exact ⟨_, 0, _, .here, .link notAbove stored through onward⟩
    · obtain ⟨middle, inner, outer, before, after⟩ := ih rfl
      exact ⟨middle, _, outer, .link notAbove stored through before, after⟩

/-- What a look-up finds is where the names lead. -/
theorem follows_of_lookupFrom {links : Nat} {here names there : List String} {entry : Entry}
    (finds : files.lookupFrom links here names = .ok (there, entry)) :
    ∃ cost, files.Follows here names there cost := by
  fun_induction files.lookupFrom links here names
  case case1 =>
    cases finds
    exact ⟨0, .here⟩
  case case3 here name rest entries directory same ih =>
    obtain ⟨cost, onward⟩ := ih finds
    exact ⟨cost, eq_of_beq same ▸ .above onward⟩
  case case7 here name rest entries directory notAbove _ target stored links path ih =>
    obtain ⟨cost, onward⟩ := ih finds
    obtain ⟨middle, inner, outer, through, after⟩ := onward.split
    have found := (Entry.descend?_concat directory).trans stored
    exact ⟨_, .link (by simpa using notAbove) found through after⟩
  case case8 here name rest entries directory notAbove _ entry noLink stored ih =>
    obtain ⟨cost, onward⟩ := ih finds
    have found := (Entry.descend?_concat directory).trans stored
    exact ⟨cost, .real (by simpa using notAbove) found noLink onward⟩
  all_goals cases finds

/-! ## Going on from a directory -/

/-- A look-up goes on from where its first names lead, with the links that are left. -/
theorem lookupFrom_onward {links : Nat} {here first there : List String} {entry : Entry}
    (finds : files.lookupFrom links here first = .ok (there, entry)) :
    ∃ left, ∀ second, files.lookupFrom links here (first ++ second) =
      files.lookupFrom left there second := by
  fun_induction files.lookupFrom links here first
  case case1 =>
    cases finds
    exact ⟨_, fun second => rfl⟩
  case case3 here name rest entries directory same ih =>
    obtain ⟨left, onward⟩ := ih finds
    refine ⟨left, fun second => ?_⟩
    rw [List.cons_append, lookupFrom, directory]
    simp only [same, if_true]
    exact onward second
  case case7 here name rest entries directory notAbove short target stored links path ih =>
    obtain ⟨left, onward⟩ := ih finds
    refine ⟨left, fun second => ?_⟩
    rw [List.cons_append, lookupFrom, directory]
    simp only [notAbove, short, if_false, stored]
    rw [← List.append_assoc]
    exact onward second
  case case8 here name rest entries directory notAbove short entry noLink stored ih =>
    obtain ⟨left, onward⟩ := ih finds
    refine ⟨left, fun second => ?_⟩
    rw [List.cons_append, lookupFrom, directory]
    simp only [notAbove, short, if_false, stored]
    exact onward second
  all_goals cases finds

/-- With any other number of links a look-up finds the same, or follows too many. -/
theorem lookupFrom_links {links other : Nat} {here names : List String}
    {found : List String × Entry} (finds : files.lookupFrom links here names = .ok found) :
    files.lookupFrom other here names = .ok found ∨
      files.lookupFrom other here names = .error .tooManyLinks := by
  fun_induction files.lookupFrom links here names generalizing other
  case case1 there =>
    cases finds
    rw [lookupFrom, there]
    exact .inl rfl
  case case3 here name rest entries directory same ih =>
    rw [lookupFrom, directory]
    simp only [same, if_true]
    exact ih finds
  case case7 here name rest entries directory notAbove short target stored links path ih =>
    rw [lookupFrom.eq_def, directory]
    simp only [notAbove, short, if_false, stored]
    cases other with
    | zero => exact .inr rfl
    | succ others => exact ih finds
  case case8 here name rest entries directory notAbove short entry noLink stored ih =>
    rw [lookupFrom, directory]
    simp only [notAbove, short, if_false, stored]
    exact ih finds
  all_goals cases finds

/-- The entry of a name in what a path leads to is looked up from there, unless its own path is too
long. -/
theorem lookup_child {path : Path} {real : List String} {entry : Entry}
    (leads : files.lookup path = .ok (real, entry)) (name : String) :
    (∃ left, files.lookup (path.child name) = files.lookupFrom left real [name]) ∨
      files.lookup (path.child name) = .error .nameTooLong := by
  unfold lookup at leads ⊢
  split at leads
  · cases leads
  · obtain ⟨left, onward⟩ := lookupFrom_onward leads
    split
    · exact .inr rfl
    · exact .inl ⟨left, onward [name]⟩

/-- **A directory has one entry under a name**, by whichever path it is reached: what is found by
one path is found by another one too, unless that is too long or follows too many links. -/
theorem lookup_child_cases {path other : Path} {real : List String} {name : String}
    {entry again : Entry} {found : List String × Entry}
    (here : files.lookup path = .ok (real, entry)) (there : files.lookup other = .ok (real, again))
    (finds : files.lookup (path.child name) = .ok found) :
    files.lookup (other.child name) = .ok found ∨
      files.lookup (other.child name) = .error .tooManyLinks ∨
      files.lookup (other.child name) = .error .nameTooLong := by
  rcases lookup_child there name with ⟨left, onward⟩ | tooLong
  · rw [onward]
    rcases lookup_child here name with ⟨less, first⟩ | tooLong
    · exact (lookupFrom_links (first ▸ finds)).imp_right .inl
    · cases tooLong.symm.trans finds
  · exact .inr (.inr tooLong)

/-! ## Making real what is followed -/

/-- A link leads to names at some cost, which is that of the names that it holds. -/
def LinkLeads (files : FileSystem) (names there : List String) (cost : Nat) : Prop :=
  ∃ target, files.root.descend? names = some (.link target) ∧
    files.Follows (linkStart target names.dropLast) (Path.ofText target).names there cost

theorem LinkLeads.unique {names there other : List String} {cost price : Nat}
    (leads : files.LinkLeads names there cost) (again : files.LinkLeads names other price) :
    other = there ∧ price = cost := by
  obtain ⟨target, stored, follows⟩ := leads
  obtain ⟨_, found, followsToo⟩ := again
  cases stored.symm.trans found
  exact follows.unique followsToo

/-- What is known about links is right where they have a meaning. -/
def Meaningful (files : FileSystem) (known : KnownLinks) : Prop :=
  ∀ names meaning, knownLink? known names = some (some meaning) →
    ∃ cost, files.LinkLeads names meaning cost

/-- Links without a meaning, which are being worked out, cost at least so much. -/
def Costly (files : FileSystem) (known : KnownLinks) (cost : Nat) : Prop :=
  ∀ names, knownLink? known names = some none →
    ∀ there price, files.LinkLeads names there price → cost ≤ price

/-- There are no more links to be worked out inside one another than is allowed. -/
def HasRoom (files : FileSystem) (known : KnownLinks) (nesting : Nat) : Prop :=
  ∃ stack : List (List String), stack.Nodup ∧
    (∀ names ∈ stack, knownLink? known names = some none ∧
      ∃ target, files.root.descend? names = some (.link target)) ∧
    files.root.count ≤ stack.length + nesting

theorem knownLink?_cons (names : List String) (meaning : Option (List String))
    (known : KnownLinks) (other : List String) :
    knownLink? ((names, meaning) :: known) other =
      if names = other then some meaning else knownLink? known other := by
  unfold knownLink?
  by_cases same : names = other
  · simp [same]
  · simp [same, beq_eq_false_iff_ne.mpr same]

section RealFrom

variable {known : KnownLinks} {names : List String} {target : String} {cost nesting : Nat}

theorem Meaningful.cons (meaningful : files.Meaningful known) {meaning : Option (List String)}
    (first : ∀ there, meaning = some there → ∃ cost, files.LinkLeads names there cost) :
    files.Meaningful ((names, meaning) :: known) := by
  intro other there found
  rw [knownLink?_cons] at found
  split at found
  case isTrue same => exact same ▸ first there (Option.some.inj found)
  case isFalse => exact meaningful other there found

/-- A link that is not known can be worked out inside the others. -/
theorem HasRoom.enter (room : files.HasRoom known nesting) (new : knownLink? known names = none)
    (stored : files.root.descend? names = some (.link target)) :
    ∃ rest, nesting = rest + 1 ∧ files.HasRoom ((names, none) :: known) rest := by
  obtain ⟨stack, nodup, working, enough⟩ := room
  have apart : names ∉ stack := fun member => nomatch new.symm.trans (working names member).1
  have workingToo : ∀ other ∈ names :: stack, knownLink? ((names, none) :: known) other =
      some none ∧ ∃ target, files.root.descend? other = some (.link target) := by
    intro other member
    rw [knownLink?_cons]
    rcases List.mem_cons.mp member with rfl | before
    · exact ⟨if_pos rfl, target, stored⟩
    · exact ⟨by split <;> [rfl; exact (working other before).1], (working other before).2⟩
  have fits := Entry.length_le_count (List.nodup_cons.mpr ⟨apart, nodup⟩)
    fun other member => ⟨_, (workingToo other member).2.choose_spec⟩
  rw [List.length_cons] at fits
  refine ⟨nesting - 1, by omega, names :: stack, List.nodup_cons.mpr ⟨apart, nodup⟩, workingToo, ?_⟩
  rw [List.length_cons]
  omega

theorem HasRoom.congr {after : KnownLinks} (room : files.HasRoom known nesting)
    (same : ∀ link, knownLink? after link = some none ↔ knownLink? known link = some none) :
    files.HasRoom after nesting := by
  obtain ⟨stack, nodup, working, enough⟩ := room
  exact ⟨stack, nodup, fun link member =>
    ⟨(same link).mpr (working link member).1, (working link member).2⟩, enough⟩

/-- A link that is being worked out costs no more than what it holds. -/
theorem Costly.enter (costly : files.Costly known cost) {there : List String} {inner : Nat}
    (less : inner ≤ cost) (itself : files.LinkLeads names there inner) :
    files.Costly ((names, none) :: known) inner := by
  intro link working other price leads
  rw [knownLink?_cons] at working
  split at working
  case isTrue same =>
    subst same
    exact (itself.unique leads).2.ge
  case isFalse => exact less.trans (costly link working other price leads)

/-- When a link has been worked out, the others are as before. -/
theorem working_after {between : KnownLinks} {meaning : List String}
    (new : knownLink? known names = none)
    (same : ∀ link, knownLink? between link = some none ↔
      knownLink? ((names, none) :: known) link = some none) (link : List String) :
    knownLink? ((names, some meaning) :: between) link = some none ↔
      knownLink? known link = some none := by
  rw [knownLink?_cons]
  split
  case isTrue here =>
    subst here
    simp [new]
  case isFalse other => rw [same, knownLink?_cons, if_neg other]

/-- **What can be followed is made real where it leads.**  Whatever is known of links on the way
stays right, and the links that are being worked out are the same afterwards. -/
theorem realFrom_of_follows {here names there : List String} {cost : Nat}
    (follows : files.Follows here names there cost) {nesting : Nat} {known : KnownLinks}
    (meaningful : files.Meaningful known) (costly : files.Costly known cost)
    (room : files.HasRoom known nesting) :
    ∃ after, files.realFrom nesting here names known = ⟨there, true, after⟩ ∧
      files.Meaningful after ∧
      ∀ link, knownLink? after link = some none ↔ knownLink? known link = some none := by
  induction follows generalizing nesting known with
  | here =>
    refine ⟨known, ?_, meaningful, fun _ => Iff.rfl⟩
    rw [realFrom]
  | above _ ih =>
    obtain ⟨after, leads, right, same⟩ := ih meaningful costly room
    refine ⟨after, ?_, right, same⟩
    rw [realFrom, if_pos (beq_self_eq_true _), leads]
  | @real here rest there name entry cost notAbove stored noLink _ ih =>
    obtain ⟨after, leads, right, same⟩ := ih meaningful costly room
    refine ⟨after, ?_, right, same⟩
    rw [realFrom, if_neg (by simpa using notAbove)]
    simp only [stored]
    cases entry with
    | link target => exact absurd rfl (noLink target)
    | _ => exact leads
  | @link here rest middle there name target inner outer notAbove stored through onward ihThrough
      ihOnward =>
    have itself : files.LinkLeads (here ++ [name]) middle inner :=
      ⟨target, stored, by rwa [List.dropLast_concat]⟩
    have cheaper : files.Costly known outer := fun link working there price leads =>
      (by omega : outer ≤ inner + outer + 1).trans (costly link working there price leads)
    rw [realFrom, if_neg (by simpa using notAbove)]
    simp only [stored]
    cases found : knownLink? known (here ++ [name]) with
    | some meaning =>
      cases meaning with
      | none =>
        have least := costly _ found _ _ itself
        omega
      | some meaning =>
        obtain ⟨price, other, storedToo, leads⟩ := meaningful _ _ found
        cases stored.symm.trans storedToo
        rw [List.dropLast_concat] at leads
        obtain ⟨rfl, _⟩ := through.unique leads
        exact ihOnward meaningful cheaper room
    | none =>
      obtain ⟨more, rfl, inside⟩ := room.enter found stored
      have rightInside : files.Meaningful ((here ++ [name], none) :: known) :=
        meaningful.cons fun _ meant => (Option.some_ne_none _ meant.symm).elim
      obtain ⟨between, leads, right, same⟩ :=
        ihThrough rightInside (costly.enter (by omega) itself) inside
      have others : ∀ link, knownLink? ((here ++ [name], some middle) :: between) link = some none ↔
          knownLink? known link = some none :=
        working_after found same
      obtain ⟨after, leadsOn, rightAfter, sameAfter⟩ :=
        ihOnward (right.cons fun _ meant => Option.some.inj meant ▸ ⟨inner, itself⟩)
          (fun link working => cheaper link ((others link).mp working)) (room.congr others)
      refine ⟨after, ?_, rightAfter, fun link => (sameAfter link).trans (others link)⟩
      rw [linkStart] at leads
      simp only [leads, if_true]
      exact leadsOn

end RealFrom

/-! ## What can be looked up -/

theorem collapse_of_noAbove {names : List String} (plain : Path.above ∉ names) :
    collapse names = names := by
  suffices whole : ∀ here, names.foldl (fun here name =>
      if name == Path.above then here.dropLast else here ++ [name]) here = here ++ names from
    whole []
  induction names with
  | nil => exact fun here => (List.append_nil here).symm
  | cons name rest ih =>
    rw [List.mem_cons, not_or] at plain
    intro here
    rw [List.foldl_cons, if_neg (by simpa using Ne.symm plain.1), ih plain.2, List.append_assoc]
    rfl

/-- A look-up never ends at a link. -/
theorem noLink_of_lookupFrom {links : Nat} {here names there : List String} {entry : Entry}
    (root : ∀ target, files.root ≠ .link target)
    (start : ∀ target, files.root.descend? here ≠ some (.link target))
    (finds : files.lookupFrom links here names = .ok (there, entry)) (target : String) :
    entry ≠ .link target := by
  have noLink : ∀ {names entries}, files.root.descend? names = some (.directory entries) →
      ∀ target, files.root.descend? names ≠ some (.link target) :=
    fun directory _ found => nomatch directory.symm.trans found
  fun_induction files.lookupFrom links here names
  case case1 found =>
    cases finds
    exact fun link => start target (link ▸ found)
  case case3 directory _ ih =>
    obtain ⟨above, found⟩ := Entry.descend?_dropLast directory
    exact ih (noLink found) finds
  case case7 directory _ _ _ _ _ path ih =>
    refine ih (fun target found => ?_) finds
    split at found
    · exact root target (Option.some.inj found)
    · exact noLink directory target found
  case case8 directory _ _ next real stored ih =>
    refine ih (fun target found => ?_) finds
    rw [Entry.descend?_concat directory, stored] at found
    exact real target (Option.some.inj found)
  all_goals cases finds

namespace Sound

variable {path : Path} {names : List String} {entry : Entry}

theorem noLink_of_lookup (sound : files.Sound) (finds : files.lookup path = .ok (names, entry)) :
    ∀ target, entry ≠ .link target := by
  unfold lookup at finds
  split at finds
  · cases finds
  · obtain ⟨top, root⟩ := sound.root_directory
    obtain ⟨entries, start⟩ := sound.startOf_directory path
    exact noLink_of_lookupFrom (fun _ link => nomatch root.symm.trans link)
      (fun _ link => nomatch start.symm.trans link) finds

theorem descend?_of_lookup (finds : files.lookup path = .ok (names, entry)) :
    files.root.descend? names = some entry := by
  unfold lookup at finds
  split at finds
  · cases finds
  · exact descend?_of_lookupFrom finds

theorem follows_of_lookup (finds : files.lookup path = .ok (names, entry)) :
    ∃ cost, files.Follows (files.startOf path) path.names names cost := by
  unfold lookup at finds
  split at finds
  · cases finds
  · exact follows_of_lookupFrom finds

/-- What is no link in a directory is really stored there. -/
theorem real_of_child (sound : files.Sound) {real : List String} {name : String}
    {entries : List (String × Entry)} {next : Entry}
    (here : files.lookup path = .ok (real, .directory entries))
    (stored : Entry.lookup? name entries = some next) (noLink : ∀ target, next ≠ .link target)
    (there : files.lookup (path.child name) = .ok (names, entry)) : names = real ++ [name] := by
  have found := (Entry.descend?_concat (descend?_of_lookup here)).trans stored
  have proper := sound.isEntryName found name (List.mem_append_right _ List.mem_cons_self)
  obtain ⟨_, whole⟩ := follows_of_lookup there
  obtain ⟨_, first⟩ := follows_of_lookup here
  obtain ⟨middle, _, _, again, last⟩ := whole.split
  obtain ⟨rfl, _⟩ := first.unique again
  cases last with
  | above => exact absurd rfl proper.plain.1
  | real _ _ _ onward =>
    cases onward
    rfl
  | link _ link => exact absurd (Option.some.inj (found.symm.trans link)) (noLink _)

/-- The names that a path really leads to are looked up without links. -/
theorem lookup_real_ne (sound : files.Sound) (finds : files.lookup path = .ok (names, entry)) :
    files.lookup ⟨"/", names⟩ ≠ .error .tooManyLinks := by
  have stored := descend?_of_lookup finds
  unfold lookup
  split
  · exact nofun
  · have leads : files.lookupFrom linkLimit [] names = .ok (names, entry) :=
      lookupFrom_of_descend? (fun name member => (sound.isEntryName stored name member).plain)
        (sound.noLink_of_lookup finds) stored
    have root : files.startOf ⟨"/", names⟩ = [] := rfl
    rw [root, leads]
    exact nofun

/-- **The real path of what can be looked up** is that of the names that it is stored under. -/
theorem realPath_of_lookup (sound : files.Sound) (noNull : '\x00' ∉ path.text.toList)
    (finds : files.lookup path = .ok (names, entry)) :
    files.realPath path = .ok ⟨"/", names⟩ := by
  have stored := descend?_of_lookup finds
  have plain : Path.above ∉ names :=
    fun member => (sound.isEntryName stored _ member).plain.1 rfl
  obtain ⟨cost, follows⟩ := follows_of_lookup finds
  have room : files.HasRoom [] files.root.count :=
    ⟨[], List.nodup_nil, fun _ member => (List.not_mem_nil member).elim, by simp⟩
  have meaningful : files.Meaningful [] := fun _ _ found => nomatch found
  have costly : files.Costly [] cost := fun _ found => nomatch found
  obtain ⟨known, leads, _⟩ := realFrom_of_follows follows meaningful costly room
  unfold realPath
  simp only [noNull, List.contains_eq_mem, decide_false, Bool.false_eq_true, if_false, leads,
    collapse_of_noAbove plain]
  split
  case h_1 circular => exact absurd circular (sound.lookup_real_ne finds)
  case h_2 => rfl

end Sound

end FileSystem

end ApiAdmission
