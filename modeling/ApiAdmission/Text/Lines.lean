/-!
# Lines

Two rules about the ends of lines.  Text read from a file has its carriage returns, with or without
a line feed after them, made into line feeds.  A list of patterns is split at every character that
ends a line in any convention, and an end at the very last position begins no further line.
-/

namespace ApiAdmission.Text

set_option autoImplicit false

/-- Makes every end of line a line feed: CR LF, CR and LF alike. -/
def normalizeNewlines : List Char → List Char
  | [] => []
  | '\r' :: '\n' :: rest => '\n' :: normalizeNewlines rest
  | '\r' :: rest => '\n' :: normalizeNewlines rest
  | c :: rest => c :: normalizeNewlines rest

/-- Whether a character ends a line in some convention. -/
def isLineEnd (c : Char) : Bool :=
  let code := c.toNat
  (0x0A ≤ code && code ≤ 0x0D) || (0x1C ≤ code && code ≤ 0x1E) || code == 0x85 ||
    code == 0x2028 || code == 0x2029

/-- The lines of a list of characters, without their ends; CR LF is one end. -/
def linesOf : List Char → List (List Char)
  | [] => []
  | '\r' :: '\n' :: rest => [] :: linesOf rest
  | c :: rest =>
    if isLineEnd c then [] :: linesOf rest
    else
      match rest, linesOf rest with
      | [], _ => [[c]]
      | _ :: _, [] => [[c]]
      | _ :: _, line :: lines => (c :: line) :: lines

/-- The lines of a text. -/
def lines (text : String) : List String :=
  (linesOf text.toList).map String.ofList

end ApiAdmission.Text
