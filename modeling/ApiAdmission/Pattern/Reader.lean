import ApiAdmission.Pattern.Basic
import ApiAdmission.Text.Search

/-!
# Reading a text pattern

The usual notation: alternatives, sequences, repetitions in braces or by sign, groups, sets in
brackets, anchors, and conditions on what stands before or after.  A brace that begins no repetition
stands for itself.  An anchor cannot be repeated, and what stands before must be of one width.  A
text that breaks the notation is no pattern.
-/

namespace ApiAdmission.Pattern

set_option autoImplicit false

/-- The set of a single character. -/
def only (c : Char) : CharacterSet := ⟨[.range c c], false⟩

/-- The set of a named class. -/
def named (kind : CharacterClass) (negated : Bool) : CharacterSet := ⟨[.named kind negated], false⟩

/-- The number that some hexadecimal digits write, and what follows them. -/
def takeCode? (width : Nat) (characters : List Char) : Option (Char × List Char) :=
  let digits := characters.take width
  if digits.length == width then
    ((digits.mapM Text.hexValue?).map (Text.ofDigits 16)).map fun code =>
      (Char.ofNat code, characters.drop width)
  else none

/-- The value of an octal digit. -/
def octalValue? (c : Char) : Option Nat :=
  if '0' ≤ c && c ≤ '7' then some (c.toNat - '0'.toNat) else none

/-- The character that at most so many octal digits write, and what follows them. -/
def takeOctal? (most : Nat) (characters : List Char) : Option (Char × List Char) :=
  let digits := (characters.take most).takeWhile fun c => (octalValue? c).isSome
  let code := Text.ofDigits 8 (digits.filterMap octalValue?)
  if digits.isEmpty || 0xFF < code then none
  else some (Char.ofNat code, characters.drop digits.length)

/-- What an escape stands for inside and outside a set, and what follows it. -/
def takeEscape? : List Char → Option (CharacterItem × List Char)
  | [] => none
  | c :: rest =>
    let itself (c : Char) : Option (CharacterItem × List Char) := some (.range c c, rest)
    match c with
    | 'd' => some (.named .digit false, rest)
    | 'D' => some (.named .digit true, rest)
    | 's' => some (.named .blank false, rest)
    | 'S' => some (.named .blank true, rest)
    | 'w' => some (.named .word false, rest)
    | 'W' => some (.named .word true, rest)
    | 'n' => itself '\n'
    | 'r' => itself '\r'
    | 't' => itself '\t'
    | 'f' => itself '\x0c'
    | 'v' => itself '\x0b'
    | 'a' => itself '\x07'
    | '0' => (takeOctal? 3 (c :: rest)).map fun (c, rest) => (.range c c, rest)
    | 'x' => (takeCode? 2 rest).map fun (c, rest) => (.range c c, rest)
    | 'u' => (takeCode? 4 rest).map fun (c, rest) => (.range c c, rest)
    | 'U' => (takeCode? 8 rest).map fun (c, rest) => (.range c c, rest)
    | c => if c.isAlphanum then none else itself c

/-- One member of a set in brackets, and what follows it. -/
def takeMember? : List Char → Option (CharacterItem × List Char)
  | [] => none
  | '\\' :: 'b' :: rest => some (.range '\x08' '\x08', rest)
  | '\\' :: c :: rest =>
    if (octalValue? c).isSome then
      (takeOctal? 3 (c :: rest)).map fun (c, rest) => (.range c c, rest)
    else takeEscape? (c :: rest)
  | ['\\'] => none
  | c :: rest => some (.range c c, rest)

/-- The members of a set up to its closing bracket; those read so far stand in reverse. -/
def takeMembers? : Nat → List CharacterItem → List Char → Option (List CharacterItem × List Char)
  | 0, _, _ => none
  | budget + 1, reversed, characters =>
    if characters.head? == some ']' && !reversed.isEmpty then
      some (reversed.reverse, characters.drop 1)
    else do
      let (member, rest) ← takeMember? characters
      match rest with
      | '-' :: next :: more =>
        if next == ']' then takeMembers? budget (member :: reversed) rest
        else
          let (other, rest) ← takeMember? (next :: more)
          match member, other with
          | .range first _, .range last _ =>
            if first ≤ last then takeMembers? budget (.range first last :: reversed) rest else none
          | _, _ => none
      | _ => takeMembers? budget (member :: reversed) rest

/-- A set in brackets after the opening one, and what follows it. -/
def takeSet? (characters : List Char) : Option (CharacterSet × List Char) :=
  let (negated, body) := match characters with
    | '^' :: rest => (true, rest)
    | _ => (false, characters)
  (takeMembers? (body.length + 1) [] body).map fun (items, rest) => (⟨items, negated⟩, rest)

/-- A repetition in braces after the opening one: its bounds, and what follows. -/
def takeBounds? (characters : List Char) : Option (Nat × Option Nat × List Char) :=
  let isDigit := Text.isAsciiDigit
  let number (digits : List Char) : Nat :=
    Text.ofDigits 10 (digits.filterMap Text.digitValue?)
  let low := characters.takeWhile isDigit
  match characters.dropWhile isDigit with
  | '\x7d' :: rest => if low.isEmpty then none else some (number low, some (number low), rest)
  | ',' :: rest =>
    let high := rest.takeWhile isDigit
    match rest.dropWhile isDigit with
    | '\x7d' :: rest =>
      some (number low, if high.isEmpty then none else some (number high), rest)
    | _ => none
  | _ => none

/-- A repetition sign at the front: its bounds, and what follows. -/
def takeRepetition? : List Char → Option (Nat × Option Nat × List Char)
  | '*' :: rest => some (0, none, rest)
  | '+' :: rest => some (1, none, rest)
  | '?' :: rest => some (0, some 1, rest)
  | '\x7b' :: rest => takeBounds? rest
  | _ => none

/-- What follows the sign after a repetition that says which of several fits is preferred. -/
def dropPreference : List Char → List Char
  | '?' :: rest => rest
  | '+' :: rest => rest
  | characters => characters

/-- Whether the characters are the name of a group. -/
def isGroupName : List Char → Bool
  | [] => false
  | c :: rest =>
    Text.isWordCharacter c && (Text.digitValue? c).isNone && rest.all Text.isWordCharacter

/-- The condition that a pattern stands before a position; the pattern must be of one width. -/
def before? (negated : Bool) (body : Pattern) : Option Pattern :=
  body.width?.map fun _ => .behind body negated

/-- What a group makes of the pattern in it, and what follows its opening. -/
def takeGroupKind? : List Char → Option ((Pattern → Option Pattern) × List Char)
  | '?' :: ':' :: rest => some (some, rest)
  | '?' :: '>' :: rest => some (some, rest)
  | '?' :: '=' :: rest => some (fun body => some (.ahead body false), rest)
  | '?' :: '!' :: rest => some (fun body => some (.ahead body true), rest)
  | '?' :: '<' :: '=' :: rest => some (before? false, rest)
  | '?' :: '<' :: '!' :: rest => some (before? true, rest)
  | '?' :: 'P' :: '<' :: rest =>
    match Text.cutAt '>' rest with
    | (name, some rest) => if isGroupName name then some (some, rest) else none
    | _ => none
  | '?' :: _ => none
  | rest => some (some, rest)

mutual
/-- Alternatives up to a closing parenthesis or the end, and what follows. -/
def takeAlternatives? : Nat → List Char → Option (Pattern × List Char)
  | 0, _ => none
  | budget + 1, characters => do
    let (first, rest) ← takeSequence? budget .empty characters
    match rest with
    | '|' :: rest =>
      let (second, rest) ← takeAlternatives? budget rest
      return (.either first second, rest)
    | _ => return (first, rest)

/-- A sequence of repeated atoms after what has been read, and what follows. -/
def takeSequence? : Nat → Pattern → List Char → Option (Pattern × List Char)
  | 0, _, _ => none
  | budget + 1, read, characters =>
    match characters with
    | [] => some (read, [])
    | ')' :: _ => some (read, characters)
    | '|' :: _ => some (read, characters)
    | _ => do
      let (atom, repeatable, rest) ← takeAtom? budget characters
      match takeRepetition? rest with
      | none => takeSequence? budget (.sequence read atom) rest
      | some (least, most, rest) =>
        let rest := dropPreference rest
        if !repeatable || (takeRepetition? rest).isSome || most.any (· < least) then none
        else takeSequence? budget (.sequence read (.repeated atom least most)) rest

/-- An atom, whether it can be repeated, and what follows. -/
def takeAtom? : Nat → List Char → Option (Pattern × Bool × List Char)
  | 0, _ => none
  | budget + 1, characters =>
    match characters with
    | [] => none
    | '(' :: rest => do
      let (wrap, rest) ← takeGroupKind? rest
      let (body, rest) ← takeAlternatives? budget rest
      match rest with
      | ')' :: rest => return (← wrap body, true, rest)
      | _ => none
    | '[' :: rest => (takeSet? rest).map fun (set, rest) => (.one set, true, rest)
    | '.' :: rest => some (.one ⟨[.range '\n' '\n'], true⟩, true, rest)
    | '^' :: rest => some (.anchor .start, false, rest)
    | '$' :: rest => some (.anchor .lineEnd, false, rest)
    | '\\' :: 'A' :: rest => some (.anchor .start, false, rest)
    | '\\' :: 'Z' :: rest => some (.anchor .finish, false, rest)
    | '\\' :: 'b' :: rest => some (.anchor .wordEdge, false, rest)
    | '\\' :: 'B' :: rest => some (.anchor .noWordEdge, false, rest)
    | '\\' :: rest => (takeEscape? rest).map fun (item, rest) => (.one ⟨[item], false⟩, true, rest)
    | c :: rest =>
      if (takeRepetition? characters).isSome then none else some (.one (only c), true, rest)
end

/-- The pattern that a text writes, if it is one. -/
def ofText? (text : String) : Option Pattern :=
  match takeAlternatives? (4 * text.length + 8) text.toList with
  | some (pattern, []) => some pattern
  | _ => none

/-- Whether a text contains a stretch that fits a written pattern; what is no pattern fits
nothing. -/
def search (pattern text : String) : Bool :=
  (ofText? pattern).any (·.occursIn text)

end ApiAdmission.Pattern
