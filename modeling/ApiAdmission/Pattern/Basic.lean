import ApiAdmission.Text.Blank
import ApiAdmission.Text.Digit
import ApiAdmission.Text.Word

/-!
# Text patterns

A pattern describes stretches of a text.  Its meaning is a set of end positions for every start
position, which is all that is needed to tell whether a text contains a stretch that fits: which of
several fits would be preferred does not matter.
-/

namespace ApiAdmission

set_option autoImplicit false

/-- The named classes of characters. -/
inductive CharacterClass where
  | digit
  | blank
  | word
deriving DecidableEq, Repr

/-- Whether a character is in a named class. -/
def CharacterClass.accepts : CharacterClass → Char → Bool
  | .digit, c => (Text.digitValue? c).isSome
  | .blank, c => Text.isBlank c
  | .word, c => Text.isWordCharacter c

/-- A part of a set of characters. -/
inductive CharacterItem where
  /-- The characters from one to another. -/
  | range (first last : Char)
  /-- A named class or what it leaves out. -/
  | named (kind : CharacterClass) (negated : Bool)
deriving DecidableEq, Repr

/-- Whether a part of a set has a character. -/
def CharacterItem.accepts : CharacterItem → Char → Bool
  | .range first last, c => first ≤ c && c ≤ last
  | .named kind negated, c => kind.accepts c != negated

/-- A set of characters: those of its items, or all the others. -/
structure CharacterSet where
  /-- The parts of the set. -/
  items : List CharacterItem
  /-- Whether the set has what its parts leave out. -/
  negated : Bool
deriving DecidableEq, Repr

/-- Whether a set has a character. -/
def CharacterSet.accepts (set : CharacterSet) (c : Char) : Bool :=
  set.items.any (·.accepts c) != set.negated

/-- A condition on a position. -/
inductive Anchor where
  /-- The start of the text. -/
  | start
  /-- The end of the text, or the place before a line feed at the end. -/
  | lineEnd
  /-- The very end of the text. -/
  | finish
  /-- A place between a word character and another one. -/
  | wordEdge
  /-- Any other place. -/
  | noWordEdge
deriving DecidableEq, Repr

/-- A pattern of text. -/
inductive Pattern where
  /-- Nothing. -/
  | empty
  /-- One character of a set. -/
  | one (set : CharacterSet)
  /-- One pattern after another. -/
  | sequence (first second : Pattern)
  /-- One pattern or another. -/
  | either (first second : Pattern)
  /-- A pattern several times, at least and at most so often. -/
  | repeated (body : Pattern) (least : Nat) (most : Option Nat)
  /-- A condition on the position. -/
  | anchor (kind : Anchor)
  /-- A pattern that must fit, or must not fit, after the position. -/
  | ahead (body : Pattern) (negated : Bool)
  /-- A pattern that must fit, or must not fit, before the position. -/
  | behind (body : Pattern) (negated : Bool)
deriving Repr

namespace Anchor

/-- Whether a position lies between a word character and another one. -/
def isWordEdge (text : Array Char) (position : Nat) : Bool :=
  let isWord (index : Nat) : Bool := (text[index]?).any Text.isWordCharacter
  (0 < position && isWord (position - 1)) != isWord position

/-- Whether a position satisfies a condition. -/
def holds (anchor : Anchor) (text : Array Char) (position : Nat) : Bool :=
  match anchor with
  | .start => position == 0
  | .lineEnd =>
    position == text.size || (position + 1 == text.size && text[position]? == some '\n')
  | .finish => position == text.size
  | .wordEdge => isWordEdge text position
  | .noWordEdge => !isWordEdge text position

end Anchor

namespace Pattern

/-- The number of characters that every stretch which fits a pattern has, if it is always the
same. -/
def width? : Pattern → Option Nat
  | .empty | .anchor _ | .ahead .. | .behind .. => some 0
  | .one _ => some 1
  | .sequence first second => do return (← width? first) + (← width? second)
  | .either first second => do
    let width ← width? first
    if (← width? second) == width then some width else none
  | .repeated body least most =>
    if most == some 0 || width? body == some 0 then some 0
    else if most == some least then (width? body).map (least * ·)
    else none

/-- Joins two sets of positions. -/
def merge (first second : List Nat) : List Nat :=
  second.foldl (fun all position => if all.contains position then all else all ++ [position]) first

/-- The positions reached from a set of positions by one step. -/
def spread (step : Nat → List Nat) (positions : List Nat) : List Nat :=
  positions.foldl (fun all position => merge all (step position)) []

/-- The positions reached by exactly so many steps. -/
def steps (step : Nat → List Nat) : Nat → List Nat → List Nat
  | 0, positions => positions
  | count + 1, positions => steps step count (spread step positions)

/-- The positions reached by at most so many steps. -/
def stepsAtMost (step : Nat → List Nat) : Nat → List Nat → List Nat
  | 0, positions => positions
  | count + 1, positions =>
    let wider := merge positions (spread step positions)
    if wider.length == positions.length then positions else stepsAtMost step count wider

/-- The positions where a stretch that fits the pattern and starts at a position can end. -/
def ends (text : Array Char) : Pattern → Nat → List Nat
  | .empty, position => [position]
  | .one set, position =>
    if (text[position]?).any set.accepts then [position + 1] else []
  | .sequence first second, position => spread (ends text second) (ends text first position)
  | .either first second, position => merge (ends text first position) (ends text second position)
  | .repeated body least most, position =>
    let required := steps (ends text body) least [position]
    let further := match most with
      | some most => most - least
      | none => text.size + 1
    if (most.any (· < least)) then [] else stepsAtMost (ends text body) further required
  | .anchor kind, position => if kind.holds text position then [position] else []
  | .ahead body negated, position =>
    if (ends text body position).isEmpty == negated then [position] else []
  | .behind body negated, position =>
    let fits := (List.range (position + 1)).any fun start =>
      (ends text body start).contains position
    if fits != negated then [position] else []

/-- Whether a text contains a stretch that fits a pattern. -/
def occursIn (pattern : Pattern) (text : String) : Bool :=
  let characters := text.toList.toArray
  (List.range (characters.size + 1)).any fun start => !(ends characters pattern start).isEmpty

end Pattern

end ApiAdmission
