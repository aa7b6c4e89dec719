import ApiAdmission.Yaml.Token

/-!
# Scalars

The three ways to write a scalar.  A plain scalar ends where an indicator could begin something
else; a quoted one ends at its quote; a block scalar ends where the indentation does.  In the first
two a single line end becomes a space and further ones stay, in a literal block every line end
stays, and in a folded block a line end between two lines that do not start with a blank is folded.

Each loop consumes at least one character per turn, so the length of the text, plus one, bounds it.
What has been read is kept with its last character first, so that a turn costs what it adds.
-/

namespace ApiAdmission.Yaml

set_option autoImplicit false

/-- The white space and line ends between two parts of a scalar. -/
structure Gap where
  /-- Blanks on the line of the first part, the last first. -/
  blanks : List Char
  /-- The first line end. -/
  leading : List Char
  /-- The line ends after the first one, the last first. -/
  trailing : List Char
  /-- Whether there is a line end. -/
  broken : Bool

/-- No white space at all. -/
def Gap.none : Gap := ⟨[], [], [], false⟩

/-- What a gap contributes to the scalar. -/
def Gap.folded (gap : Gap) : List Char :=
  if !gap.broken then gap.blanks.reverse
  else if gap.leading == ['\n'] then (if gap.trailing.isEmpty then [' '] else gap.trailing.reverse)
  else gap.leading ++ gap.trailing.reverse

/-- Whether a tab stands before the given column after a line end. -/
def Gap.refusesTab (gap : Gap) (column : Nat) (cursor : Cursor) : Bool :=
  gap.broken && cursor.mark.column < column && cursor.isAt '\t'

/-- Reads blanks and line ends.  In a plain scalar, whose start and least column are given, a tab
before that column after a line end is refused. -/
def scanGap (limit : Option (Mark × Nat)) : Nat → Gap → Cursor → Except Fault (Gap × Cursor)
  | 0, gap, cursor => .ok (gap, cursor)
  | budget + 1, gap, cursor =>
    match cursor.rest with
    | [] => .ok (gap, cursor)
    | c :: _ =>
      if isBlank c then
        match limit.filter fun bound => gap.refusesTab bound.2 cursor with
        | some (start, _) =>
          .error (.during .scanningPlainScalar start .tabInPlainScalar cursor.mark)
        | none =>
          let kept := if gap.broken then gap else { gap with blanks := c :: gap.blanks }
          scanGap limit budget kept (cursor.skip 1)
      else if isBreak c then
        let (kept, next) := cursor.takeBreak
        let extended :=
          if gap.broken then { gap with trailing := kept ++ gap.trailing }
          else { gap with blanks := [], leading := kept, broken := true }
        scanGap limit budget extended next
      else .ok (gap, cursor)

/-! ## Plain scalars -/

/-- Whether a plain scalar ends before the given characters. -/
def endsPlain (inFlow : Bool) : List Char → Bool
  | [] => true
  | c :: rest =>
    isBlank c || isBreak c || (c == ':' && atBlankOrEnd rest) ||
      (inFlow && (c == ',' || c == '[' || c == ']' || c == '\x7b' || c == '\x7d'))

/-- Whether a colon stands before an indicator of a flow collection. -/
def isStrayColon : List Char → Bool
  | ':' :: c :: _ =>
    c == ',' || c == '?' || c == '[' || c == ']' || c == '\x7b' || c == '\x7d'
  | _ => false

/-- Reads the characters of a plain scalar up to a blank or an indicator. -/
def scanPlainRun (inFlow : Bool) (start : Mark) : Nat → List Char → Cursor →
    Except Fault (List Char × Cursor)
  | 0, reversed, cursor => .ok (reversed.reverse, cursor)
  | budget + 1, reversed, cursor =>
    if endsPlain inFlow cursor.rest then .ok (reversed.reverse, cursor)
    else if inFlow && isStrayColon cursor.rest then
      .error (.during .scanningPlainScalar start .unexpectedColon cursor.mark)
    else
      match cursor.rest with
      | [] => .ok (reversed.reverse, cursor)
      | c :: _ => scanPlainRun inFlow start budget (c :: reversed) (cursor.skip 1)

/-- What has been read of a plain scalar. -/
structure PlainProgress where
  /-- The text so far, its last character first. -/
  reversed : List Char
  /-- Where the text ends. -/
  finish : Mark
  /-- The white space after it. -/
  gap : Gap
  /-- The place after the white space. -/
  cursor : Cursor

/-- Reads the parts of a plain scalar and the white space between them. -/
def scanPlainParts (inFlow : Bool) (column : Nat) (start : Mark) :
    Nat → PlainProgress → Except Fault PlainProgress
  | 0, progress => .ok progress
  | budget + 1, progress => do
    let cursor := progress.cursor
    if cursor.atDocumentMarker || cursor.isAt '#' then return progress
    else
      let (run, after) ← scanPlainRun inFlow start cursor.bound [] cursor
      let read : PlainProgress :=
        if run.isEmpty then progress
        else
          { reversed := (progress.gap.folded ++ run).reverse ++ progress.reversed,
            finish := after.mark, gap := .none, cursor := after }
      match after.rest with
      | [] => return read
      | c :: _ =>
        if !(isBlank c || isBreak c) then return read
        else
          let (gap, next) ← scanGap (some (start, column)) after.bound read.gap after
          let read := { read with gap := gap, cursor := next }
          if !inFlow && next.mark.column < column then return read
          else scanPlainParts inFlow column start budget read

/-- Reads a plain scalar.  The last component says whether a line end follows it. -/
def scanPlain (inFlow : Bool) (indent : Int) (cursor : Cursor) :
    Except Fault (Token × Cursor × Bool) := do
  let begun : PlainProgress := ⟨[], cursor.mark, .none, cursor⟩
  let read ←
    scanPlainParts inFlow (indent + 1).toNat cursor.mark cursor.bound begun
  let text := String.ofList read.reversed.reverse
  return (⟨.scalar text true, cursor.mark, read.finish⟩, read.cursor, read.gap.broken)

/-! ## Quoted scalars -/

/-- What the letter after a backslash stands for: a character, or a code of so many digits. -/
inductive Escape where
  | character (c : Char)
  | code (digits : Nat)

/-- The meaning of the letter after a backslash. -/
def escape? (c : Char) : Option Escape :=
  match c with
  | '0' => some (.character '\x00')
  | 'a' => some (.character '\x07')
  | 'b' => some (.character '\x08')
  | 't' => some (.character '\t')
  | '\t' => some (.character '\t')
  | 'n' => some (.character '\n')
  | 'v' => some (.character '\x0b')
  | 'f' => some (.character '\x0c')
  | 'r' => some (.character '\r')
  | 'e' => some (.character '\x1b')
  | ' ' => some (.character ' ')
  | '"' => some (.character '"')
  | '/' => some (.character '/')
  | '\\' => some (.character '\\')
  | 'N' => some (.character '\u0085')
  | '_' => some (.character '\u00a0')
  | 'L' => some (.character '\u2028')
  | 'P' => some (.character '\u2029')
  | 'x' => some (.code 2)
  | 'u' => some (.code 4)
  | 'U' => some (.code 8)
  | _ => none

/-- Reads a character code of a given number of hexadecimal digits. -/
def scanCode (start : Mark) (digits : Nat) (cursor : Cursor) : Except Fault (Char × Cursor) :=
  let written := cursor.rest.take digits
  match (written.mapM Text.hexValue?), written.length == digits with
  | some values, true =>
    let code := Text.ofDigits 16 values
    if (0xD800 ≤ code && code ≤ 0xDFFF) || 0x10FFFF < code then
      .error (.during .parsingQuotedScalar start .invalidCharacterCode cursor.mark)
    else .ok (Char.ofNat code, cursor.skip digits)
  | _, _ => .error (.during .parsingQuotedScalar start .missingHexadecimal cursor.mark)

/-- Reads the characters of a quoted scalar up to a blank, a line end or the closing quote.  The
flag says whether the run ended with an escaped line end. -/
def scanQuotedRun (single : Bool) (start : Mark) : Nat → List Char → Cursor →
    Except Fault (List Char × Bool × Cursor)
  | 0, reversed, cursor => .ok (reversed.reverse, false, cursor)
  | budget + 1, reversed, cursor =>
    match cursor.rest with
    | [] => .ok (reversed.reverse, false, cursor)
    | c :: rest =>
      if isBlank c || isBreak c then .ok (reversed.reverse, false, cursor)
      else if single then
        if c == '\'' then
          if rest.head? == some '\'' then
            scanQuotedRun single start budget ('\'' :: reversed) (cursor.skip 2)
          else .ok (reversed.reverse, false, cursor)
        else scanQuotedRun single start budget (c :: reversed) (cursor.skip 1)
      else if c == '"' then .ok (reversed.reverse, false, cursor)
      else if c == '\\' then
        match rest with
        | [] => .error (.during .parsingQuotedScalar start .unknownEscape cursor.mark)
        | letter :: _ =>
          if isBreak letter then .ok (reversed.reverse, true, (cursor.skip 1).skipBreak)
          else
            match escape? letter with
            | none => .error (.during .parsingQuotedScalar start .unknownEscape cursor.mark)
            | some (.character meant) =>
              scanQuotedRun single start budget (meant :: reversed) (cursor.skip 2)
            | some (.code digits) =>
              match scanCode start digits (cursor.skip 2) with
              | .error fault => .error fault
              | .ok (meant, next) => scanQuotedRun single start budget (meant :: reversed) next
      else scanQuotedRun single start budget (c :: reversed) (cursor.skip 1)

/-- Reads the parts of a quoted scalar and the white space between them. -/
def scanQuotedParts (single : Bool) (start : Mark) : Nat → List Char → Cursor →
    Except Fault (List Char × Cursor)
  | 0, _, cursor => .error (.during .scanningQuotedScalar start .endOfStream cursor.mark)
  | budget + 1, reversed, cursor => do
    if cursor.atDocumentMarker then
      .error (.during .scanningQuotedScalar start .documentIndicator cursor.mark)
    else if cursor.rest.isEmpty then
      .error (.during .scanningQuotedScalar start .endOfStream cursor.mark)
    else
      let (run, continued, after) ←
        scanQuotedRun single start cursor.bound [] cursor
      if after.isAt (if single then '\'' else '"') then
        return ((run.reverse ++ reversed).reverse, after.skip 1)
      else
        let begun : Gap := if continued then { Gap.none with broken := true } else .none
        let (gap, next) ← scanGap none after.bound begun after
        scanQuotedParts single start budget ((run ++ gap.folded).reverse ++ reversed) next

/-- Reads a quoted scalar. -/
def scanQuoted (single : Bool) (cursor : Cursor) : Except Fault (Token × Cursor) := do
  let (text, after) ←
    scanQuotedParts single cursor.mark cursor.bound [] (cursor.skip 1)
  return (⟨.scalar (String.ofList text) false, cursor.mark, after.mark⟩, after)

/-! ## Block scalars -/

/-- What becomes of the line ends after a block scalar. -/
inductive Chomping where
  /-- All but the first are dropped. -/
  | clip
  /-- All are dropped. -/
  | strip
  /-- All are kept. -/
  | keep
deriving DecidableEq

/-- Reads the chomping indicator, if there is one. -/
def scanChomping (cursor : Cursor) : Option Chomping × Cursor :=
  if cursor.isAt '+' then (some .keep, cursor.skip 1)
  else if cursor.isAt '-' then (some .strip, cursor.skip 1)
  else (none, cursor)

/-- Reads the indentation indicator, if there is one. -/
def scanIncrement (start : Mark) (cursor : Cursor) : Except Fault (Option Nat × Cursor) :=
  match cursor.rest with
  | c :: _ =>
    if !Text.isAsciiDigit c then .ok (none, cursor)
    else if c == '0' then
      .error (.during .scanningBlockScalar start .zeroIndentation cursor.mark)
    else .ok (some (c.toNat - '0'.toNat), cursor.skip 1)
  | [] => .ok (none, cursor)

/-- Skips the blanks and the comment at the end of a line. -/
def skipLineTail (cursor : Cursor) : Cursor :=
  let cursor := cursor.skipWhile isBlank
  if cursor.isAt '#' then cursor.skipWhile (fun c => !isBreak c) else cursor

/-- The empty lines and the indentation before a line of a block scalar. -/
structure BlockGap where
  /-- The line ends, the last first. -/
  breaks : List Char
  /-- The widest indentation seen. -/
  widest : Nat
  /-- Where the last of the lines ends. -/
  finish : Mark
  /-- The place after the indentation. -/
  cursor : Cursor

/-- Reads empty lines and indentation; `indent` is zero while it is unknown. -/
def scanBlockGap (start : Mark) (indent : Nat) : Nat → BlockGap → Except Fault BlockGap
  | 0, gap => .ok gap
  | budget + 1, gap =>
    let cursor := gap.cursor
    let ahead :=
      if indent == 0 then cursor.rest else cursor.rest.take (indent - cursor.mark.column)
    let cursor := cursor.skip (ahead.takeWhile (· == ' ')).length
    let widest := max gap.widest cursor.mark.column
    if (indent == 0 || cursor.mark.column < indent) && cursor.isAt '\t' then
      .error (.during .scanningBlockScalar start .tabIndentation cursor.mark)
    else if !cursor.rest.isEmpty && atBreakOrEnd cursor.rest then
      let (kept, next) := cursor.takeBreak
      scanBlockGap start indent budget
        { breaks := kept ++ gap.breaks, widest := widest, finish := next.mark, cursor := next }
    else .ok { gap with widest := widest, cursor := cursor }

/-- What has been read of a block scalar. -/
structure BlockProgress where
  /-- The text so far, its last character first. -/
  reversed : List Char
  /-- The line end after the last line. -/
  leading : List Char
  /-- The line ends after that one. -/
  trailing : List Char
  /-- Whether the last line starts with a blank. -/
  startsBlank : Bool
  /-- Where the scalar ends. -/
  finish : Mark
  /-- The place after it. -/
  cursor : Cursor

/-- Reads the lines of a block scalar. -/
def scanBlockLines (literal : Bool) (start : Mark) (indent : Nat) :
    Nat → BlockProgress → Except Fault BlockProgress
  | 0, progress => .ok progress
  | budget + 1, progress =>
    let cursor := progress.cursor
    match cursor.rest with
    | [] => .ok progress
    | first :: _ =>
      if cursor.mark.column != indent then .ok progress
      else do
        let blank := isBlank first
        let joined :=
          if !literal && progress.leading == ['\n'] && !progress.startsBlank && !blank then
            if progress.trailing.isEmpty then [' '] else []
          else progress.leading
        let (line, after) := cursor.take (fun c => !isBreak c)
        let (leading, next) := after.takeBreak
        let gap ← scanBlockGap start indent next.bound ⟨[], 0, next.mark, next⟩
        scanBlockLines literal start indent budget
          { reversed := (joined ++ progress.trailing ++ line).reverse ++ progress.reversed,
            leading := leading, trailing := gap.breaks.reverse, startsBlank := blank,
            finish := gap.finish, cursor := gap.cursor }

/-- Reads a block scalar. -/
def scanBlock (literal : Bool) (parentIndent : Int) (cursor : Cursor) :
    Except Fault (Token × Cursor) := do
  let start := cursor.mark
  let (chomping, afterChomping) := scanChomping (cursor.skip 1)
  let (increment, afterIncrement) ← scanIncrement start afterChomping
  let (chomping, afterHeader) :=
    if chomping.isNone && increment.isSome then scanChomping afterIncrement
    else (chomping, afterIncrement)
  let lineEnd := skipLineTail afterHeader
  if !atBreakOrEnd lineEnd.rest then
    .error (.during .scanningBlockScalar start .trailingText lineEnd.mark)
  else
    let body := lineEnd.skipBreak
    let base := parentIndent.toNat
    let known := match increment with
      | some increment => base + increment
      | none => 0
    let gap ← scanBlockGap start known body.bound ⟨[], 0, body.mark, body⟩
    let indent :=
      if known == 0 then max (max gap.widest (parentIndent + 1).toNat) 1 else known
    let read ← scanBlockLines literal start indent body.bound
      { reversed := [], leading := [], trailing := gap.breaks.reverse, startsBlank := false,
        finish := gap.finish, cursor := gap.cursor }
    let chomping := chomping.getD .clip
    let ending := match chomping with
      | .strip => []
      | .clip => read.leading
      | .keep => read.leading ++ read.trailing
    let text := String.ofList (read.reversed.reverse ++ ending)
    return (⟨.scalar text false, start, read.finish⟩, read.cursor)

end ApiAdmission.Yaml
