import ApiAdmission.Proofs.Reference.Strictness
import ApiAdmission.Proofs.Text.Search

/-!
# What messages about references say

Collecting mode leaves the messages of the problems that it meets, and no others
(`mem_messages_iff`).  Such a message is put together of fixed words and of texts that others have
written: the reference, and the reason why nothing was loaded.  A phrase that the fixed words cannot
be a part of (`Foreign`) occurs in the message exactly if it occurs in one of these texts
(`Expansion.Meets.contains_message`).  The name in a message about a pointer is no text of its own,
since it stands in the reference.
-/

namespace ApiAdmission.Reference

set_option autoImplicit false

/-! ## The messages of a run -/

theorem mem_addNew_iff {values : List String} {value other : String} :
    other ∈ addNew values value ↔ other ∈ values ∨ other = value := by
  unfold addNew
  split
  case isTrue known =>
    have stored : value ∈ values := by simpa using known
    constructor
    · exact .inl
    · rintro (member | rfl)
      · exact member
      · exact stored
  case isFalse => simp

/-- An expansion says a message: it is the one of the problem that it meets. -/
def Expansion.Says (surroundings : Surroundings) (message : String) (expansion : Expansion) :
    Prop :=
  ∃ problem, expansion.Meets surroundings problem ∧ message = problem.message

/-- The problem of a reference that leads nowhere. -/
def Lead.problem? (reference : String) : Lead → Option Problem
  | .noDocument reason => some (.noDocument reference reason)
  | .noNode fault => some (.noNode reference fault)
  | .back | .value .. => none

section Says

variable {surroundings : Surroundings} {place : Place} {seen : List String} {memory after : Memory}
  {entries : List (String × Tree)} {reference message : String}

/-- A reference says the message of its problem, if it has one. -/
theorem says_iff {goal : Lead} (found : referenceOf? entries = some reference)
    (leads : (lead surroundings place seen reference).run.run memory = (.ok goal, after)) :
    Expansion.Says surroundings message ⟨place, seen, .tree (.mapping entries), memory⟩ ↔
      ∃ problem, goal.problem? reference = some problem ∧ message = problem.message := by
  constructor
  · rintro ⟨problem, meets, rfl⟩
    cases meets with
    | noDocument same others | noNode same others =>
      cases found.symm.trans same
      cases leads.symm.trans others
      exact ⟨_, rfl, rfl⟩
  · rintro ⟨problem, has, rfl⟩
    cases goal with
    | noDocument reason =>
      cases has
      exact ⟨_, .noDocument found leads, rfl⟩
    | noNode fault =>
      cases has
      exact ⟨_, .noNode found leads, rfl⟩
    | back | value => cases has

/-- A mapping without a reference says nothing. -/
theorem not_says_of_mapping (absent : referenceOf? entries = none) :
    ¬ Expansion.Says surroundings message ⟨place, seen, .tree (.mapping entries), memory⟩ := by
  rintro ⟨problem, meets, _⟩
  cases meets with
  | noDocument found _ | noNode found _ => cases absent.symm.trans found

/-- What is no mapping says nothing. -/
theorem not_says_of_piece (piece : Piece)
    (noMapping : ∀ entries, piece ≠ .tree (.mapping entries)) :
    ¬ Expansion.Says surroundings message ⟨place, seen, piece, memory⟩ := by
  rintro ⟨problem, meets, _⟩
  cases meets with
  | noDocument | noNode => exact noMapping _ rfl

end Says

section Run

variable {surroundings : Surroundings} {message : String}

mutual
/-- After a run that gives a result there are the messages of before, and those of the problems
that it has met. -/
theorem Expands.mem_messages_iff {place : Place} {seen : List String} {tree : Tree}
    {memory : Memory} {outcome : Outcome Tree} :
    Expands surroundings .collecting place seen tree memory outcome →
      ∀ result, outcome.1 = .ok result →
        (message ∈ outcome.2.messages ↔
          message ∈ memory.messages ∨
            ReachesSome surroundings .collecting (·.Says surroundings message)
              ⟨place, seen, .tree tree, memory⟩)
  | .failed _ _ => nofun
  | .back found leads => by
    rintro _ ⟨⟩
    rw [reachesSome_of_none (not_enters_of_lead found leads nofun), says_iff found leads,
      (lead_grows leads).1.messages_eq]
    simp [Lead.problem?]
  | .noDocument found leads => by
    rintro _ ⟨⟩
    rw [reachesSome_of_none (not_enters_of_lead found leads nofun), says_iff found leads]
    show message ∈ addNew _ _ ↔ _
    rw [mem_addNew_iff, (lead_grows leads).1.messages_eq]
    simp [Lead.problem?, Problem.message]
  | .noNode found leads => by
    rintro _ ⟨⟩
    rw [reachesSome_of_none (not_enters_of_lead found leads nofun), says_iff found leads]
    show message ∈ addNew _ _ ↔ _
    rw [mem_addNew_iff, (lead_grows leads).1.messages_eq]
    simp [Lead.problem?, Problem.message]
  | .value found leads inner => by
    intro result gives
    rw [reachesSome_of_one (enters_value_iff found leads), says_iff found leads,
      inner.mem_messages_iff result gives, (lead_grows leads).1.messages_eq]
    simp [Lead.problem?]
  | .mapping absent inner => by
    have members := inner.mem_messages_iff
    intro result gives
    obtain ⟨results, rfl, rfl⟩ := map_eq_ok_iff.mp gives
    rw [reachesSome_of_one (enters_mapping_iff absent), or_iff_right (not_says_of_mapping absent)]
    exact members results rfl
  | .list inner => by
    have members := inner.mem_messages_iff
    intro result gives
    obtain ⟨results, rfl, rfl⟩ := map_eq_ok_iff.mp gives
    rw [reachesSome_of_one enters_list_iff,
      or_iff_right (not_says_of_piece (.tree (.list _)) nofun)]
    exact members results rfl
  | .scalar noMapping noList => by
    rintro _ ⟨⟩
    rw [reachesSome_of_none (not_enters_of_scalar noMapping noList), or_iff_left]
    exact not_says_of_piece _ fun entries same => noMapping entries (Piece.tree.inj same)

theorem ExpandsItems.mem_messages_iff {place : Place} {seen : List String} {items : List Tree}
    {memory : Memory} {outcome : Outcome (List Tree)} :
    ExpandsItems surroundings .collecting place seen items memory outcome →
      ∀ results, outcome.1 = .ok results →
        (message ∈ outcome.2.messages ↔
          message ∈ memory.messages ∨
            ReachesSome surroundings .collecting (·.Says surroundings message)
              ⟨place, seen, .items items, memory⟩)
  | .nil => by
    rintro _ ⟨⟩
    rw [reachesSome_of_none not_enters_of_noItems,
      or_iff_left (not_says_of_piece (.items []) nofun)]
  | .failed _ => nofun
  | .cons first others => by
    have one := first.mem_messages_iff
    have more := others.mem_messages_iff
    intro results gives
    obtain ⟨rest, rfl, rfl⟩ := map_eq_ok_iff.mp gives
    rw [reachesSome_of_two (enters_items_iff first),
      or_iff_right (not_says_of_piece (.items _) nofun), ← or_assoc, ← one _ rfl]
    exact more rest rfl

theorem ExpandsEntries.mem_messages_iff {place : Place} {seen : List String}
    {entries : List (String × Tree)} {memory : Memory}
    {outcome : Outcome (List (String × Tree))} :
    ExpandsEntries surroundings .collecting place seen entries memory outcome →
      ∀ results, outcome.1 = .ok results →
        (message ∈ outcome.2.messages ↔
          message ∈ memory.messages ∨
            ReachesSome surroundings .collecting (·.Says surroundings message)
              ⟨place, seen, .entries entries, memory⟩)
  | .nil => by
    rintro _ ⟨⟩
    rw [reachesSome_of_none not_enters_of_noEntries,
      or_iff_left (not_says_of_piece (.entries []) nofun)]
  | .failed _ => nofun
  | .cons first others => by
    have one := first.mem_messages_iff
    have more := others.mem_messages_iff
    intro results gives
    obtain ⟨rest, rfl, rfl⟩ := map_eq_ok_iff.mp gives
    rw [reachesSome_of_two (enters_entries_iff first),
      or_iff_right (not_says_of_piece (.entries _) nofun), ← or_assoc, ← one _ rfl]
    exact more rest rfl
end

/-- **The messages of collecting mode are those of the problems that it meets.** -/
theorem mem_messages_iff {base : Option String} {tree result : Tree} {messages : List String}
    (collects : resolveCollecting surroundings base tree = (.ok result, messages)) :
    message ∈ messages ↔
      ∃ inner problem, Reaches surroundings .collecting (.whole base tree .empty) inner ∧
        inner.Meets surroundings problem ∧ message = problem.message := by
  obtain ⟨after, expands, rfl⟩ := expands_of_resolveCollecting collects
  have noneBefore : message ∉ Memory.empty.messages := List.not_mem_nil
  rw [expands.mem_messages_iff result rfl, or_iff_right noneBefore]
  constructor
  · rintro ⟨inner, reaches, problem, meets, same⟩
    exact ⟨inner, problem, reaches, meets, same⟩
  · rintro ⟨inner, problem, reaches, meets, same⟩
    exact ⟨inner, reaches, problem, meets, same⟩

end Run

/-! ## The name in a fault of a pointer -/

/-- The names of the kinds of values. -/
def kindNames : List String :=
  ["NoneType", "bool", "int", "float", "str", "bytes", "date", "datetime", "list", "tuple", "set",
    "dict"]

theorem kindName_mem (tree : Tree) : tree.kindName ∈ kindNames := by
  cases tree with
  | moment value => cases value <;> simp [Tree.kindName, kindNames]
  | _ => simp [Tree.kindName, kindNames]

/-- What a fault of a pointer names. -/
def subject : PointerFault → String
  | .missingKey key => key
  | .badIndex segment => segment
  | .noParts kind => kind

theorem subject_of_step {tree : Tree} {segment : String} {fault : PointerFault}
    (fails : tree.step segment = .error fault) :
    subject fault = segment ∨ subject fault ∈ kindNames := by
  have kind := kindName_mem tree
  cases tree with
  | mapping entries =>
    rw [Tree.step] at fails
    split at fails <;> cases fails
    exact .inl rfl
  | list items =>
    rw [Tree.step] at fails
    split at fails <;> cases fails
    exact .inl rfl
  | _ =>
    cases fails
    exact .inr kind

theorem subject_of_followSegments {tree : Tree} {segments : List String} {fault : PointerFault}
    (fails : tree.followSegments segments = .error fault) :
    subject fault ∈ segments ∨ subject fault ∈ kindNames := by
  induction segments generalizing tree with
  | nil => cases fails
  | cons segment rest ih =>
    rw [Tree.followSegments] at fails
    cases steps : tree.step segment with
    | error other =>
      rw [steps] at fails
      cases fails
      rcases subject_of_step steps with rfl | kind
      · exact .inl List.mem_cons_self
      · exact .inr kind
    | ok next =>
      rw [steps] at fails
      rcases ih fails with member | kind
      · exact .inl (List.mem_cons_of_mem _ member)
      · exact .inr kind

/-- A fault of a pointer names a segment of it, or the kind of a value. -/
theorem subject_of_follow {tree : Tree} {pointer : String} {fault : PointerFault}
    (fails : tree.follow pointer = .error fault) :
    subject fault ∈ Tree.pointerSegments pointer ∨ subject fault ∈ kindNames := by
  unfold Tree.follow at fails
  split at fails
  · cases fails
  · exact subject_of_followSegments fails

/-! ## What a message quotes -/

/-- The fixed words of the messages about references. -/
def fixedWords : List String :=
  ["Unable to load remote reference ", ": ", "reference ", " could not be resolved: ",
    "key '", "' not found", "invalid array index '", "'", "cannot navigate into "]

/-- A phrase that can be no part of what these messages say in their own words: it passes by the
fixed ones, names no kind of value, and has none of the characters that a pointer writes in another
way. -/
structure Foreign (phrase : String) : Prop where
  words : ∀ words ∈ fixedWords, Text.PassesBy phrase.toList words.toList
  kinds : ∀ kind ∈ kindNames, Text.contains kind phrase = false
  slash : '/' ∉ phrase.toList
  tilde : '~' ∉ phrase.toList

/-- The texts that a problem quotes. -/
def Problem.texts : Problem → List String
  | .noDocument reference reason => [reference, reason]
  | .noNode reference _ => [reference]

section Foreign

variable {phrase : String} (foreign : Foreign phrase)
include foreign

theorem Foreign.contains_loadMessage (reference reason : String) :
    Text.contains (loadMessage reference reason) phrase =
      (Text.contains reference phrase || Text.contains reason phrase) := by
  have opening := foreign.words "Unable to load remote reference " (by simp [fixedWords])
  have colon := foreign.words ": " (by simp [fixedWords])
  unfold loadMessage
  rw [Text.contains_around colon, Text.contains_after opening]

theorem Foreign.contains_pointerMessage (reference reason : String) :
    Text.contains (pointerMessage reference reason) phrase =
      (Text.contains reference phrase || Text.contains reason phrase) := by
  have opening := foreign.words "reference " (by simp [fixedWords])
  have middle := foreign.words " could not be resolved: " (by simp [fixedWords])
  unfold pointerMessage
  rw [Text.contains_around middle, Text.contains_after opening]

theorem Foreign.contains_faultMessage (fault : PointerFault) :
    Text.contains fault.message phrase = Text.contains (subject fault) phrase := by
  cases fault with
  | missingKey key =>
    have opening := foreign.words "key '" (by simp [fixedWords])
    have closing := foreign.words "' not found" (by simp [fixedWords])
    show Text.contains ("key '" ++ key ++ "' not found") phrase = Text.contains key phrase
    rw [Text.contains_before closing, Text.contains_after opening]
  | badIndex segment =>
    have opening := foreign.words "invalid array index '" (by simp [fixedWords])
    have closing := foreign.words "'" (by simp [fixedWords])
    show Text.contains ("invalid array index '" ++ segment ++ "'") phrase =
      Text.contains segment phrase
    rw [Text.contains_before closing, Text.contains_after opening]
  | noParts kind =>
    have opening := foreign.words "cannot navigate into " (by simp [fixedWords])
    show Text.contains ("cannot navigate into " ++ kind) phrase = Text.contains kind phrase
    rw [Text.contains_after opening]

/-- What a segment of a pointer contains is written in the pointer. -/
theorem Foreign.contains_of_mem_pointerSegments {pointer segment : String}
    (member : segment ∈ Tree.pointerSegments pointer)
    (occurs : Text.contains segment phrase = true) : Text.contains pointer phrase = true := by
  obtain ⟨piece, pieceOf, rfl⟩ := List.mem_map.mp member
  rw [Text.contains_iff] at occurs ⊢
  unfold Tree.unescapeSegment Text.replaceAll at occurs
  simp only [String.toList_ofList] at occurs
  have tilde : "~".toList = ['~'] := rfl
  have slash : "/".toList = ['/'] := rfl
  rw [tilde, slash] at occurs
  have inPiece : phrase.toList <:+: piece :=
    Text.infix_of_replaceFrom foreign.slash (Text.infix_of_replaceFrom foreign.tilde occurs)
  exact (inPiece.trans (Text.infix_of_mem_splitAt pieceOf)).trans
    (List.dropWhile_suffix _).isInfix

/-- What a fault of the pointer of a reference says, is written in the reference. -/
theorem Foreign.contains_of_follow {tree : Tree} {reference : String} {fault : PointerFault}
    (fails : tree.follow (cut reference).2 = .error fault)
    (occurs : Text.contains fault.message phrase = true) :
    Text.contains reference phrase = true := by
  rw [foreign.contains_faultMessage] at occurs
  rcases subject_of_follow fails with member | kind
  · have inPointer := foreign.contains_of_mem_pointerSegments member occurs
    rw [Text.contains_iff] at inPointer ⊢
    simp only [cut, String.toList_ofList] at inPointer
    exact inPointer.trans (Text.cutAt_infix '#' reference.toList).2.isInfix
  · rw [foreign.kinds _ kind] at occurs
    cases occurs

/-- **A foreign phrase occurs in a message exactly if it occurs in a text that the message
quotes.** -/
theorem Foreign.contains_message {surroundings : Surroundings} {expansion : Expansion}
    {problem : Problem} (faithful : expansion.memory.Faithful surroundings)
    (meets : expansion.Meets surroundings problem) :
    Text.contains problem.message phrase = problem.texts.any (Text.contains · phrase) := by
  cases meets with
  | @noDocument _ _ _ reference reason =>
    simp only [Problem.message, Problem.texts, foreign.contains_loadMessage, List.any_cons,
      List.any_nil, Bool.or_false]
  | @noNode _ _ _ reference fault _ _ _ leads =>
    obtain ⟨leadsTo, _⟩ := lead_run_inv faithful leads
    obtain ⟨there, _, _, fails⟩ := leadOf_eq_noNode_iff.mp leadsTo
    simp only [Problem.message, Problem.texts, foreign.contains_pointerMessage, List.any_cons,
      List.any_nil, Bool.or_false]
    rw [Bool.or_eq_left_iff_imp]
    exact foreign.contains_of_follow fails

end Foreign

end ApiAdmission.Reference
