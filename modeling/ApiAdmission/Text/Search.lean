/-!
# Searching and splitting texts

The operations work on lists of characters, so that what they keep and drop can be read off the
recursion; the versions on texts only wrap them.
-/

namespace ApiAdmission.Text

set_option autoImplicit false

/-- What follows `start` at the front of a list, if the list starts so. -/
def dropPrefix? (start : List Char) (characters : List Char) : Option (List Char) :=
  match start, characters with
  | [], rest => some rest
  | _ :: _, [] => none
  | a :: start, b :: rest => if a == b then dropPrefix? start rest else none

/-- Splits a list of characters at every occurrence of one character. -/
def splitAt (separator : Char) : List Char → List (List Char)
  | [] => [[]]
  | c :: rest =>
    match splitAt separator rest with
    | [] => [[c]]
    | piece :: pieces => if c == separator then [] :: piece :: pieces else (c :: piece) :: pieces

/-- Cuts a list of characters at the first occurrence of one character: what stands before it, and
what stands after it if it occurs. -/
def cutAt (separator : Char) : List Char → List Char × Option (List Char)
  | [] => ([], none)
  | c :: rest =>
    if c == separator then ([], some rest)
    else
      let (before, after) := cutAt separator rest
      (c :: before, after)

/-- Replaces every occurrence of a non-empty pattern, from left to right; `skip` characters of the
occurrence being replaced are still to be passed over. -/
def replaceFrom (pattern replacement : List Char) : Nat → List Char → List Char
  | _, [] => []
  | skip + 1, _ :: rest => replaceFrom pattern replacement skip rest
  | 0, c :: rest =>
    if pattern.isPrefixOf (c :: rest) then
      replacement ++ replaceFrom pattern replacement (pattern.length - 1) rest
    else c :: replaceFrom pattern replacement 0 rest

/-- Replaces every occurrence of a non-empty pattern in a text, from left to right. -/
def replaceAll (pattern replacement text : String) : String :=
  String.ofList (replaceFrom pattern.toList replacement.toList 0 text.toList)

/-- Whether a pattern occurs in a list of characters. -/
def occursIn (pattern : List Char) : List Char → Bool
  | [] => pattern.isEmpty
  | c :: rest => pattern.isPrefixOf (c :: rest) || occursIn pattern rest

/-- Whether a text contains another one. -/
def contains (text pattern : String) : Bool :=
  occursIn pattern.toList text.toList

/-- Whether a text starts with another one. -/
def startsWith (text start : String) : Bool :=
  start.toList.isPrefixOf text.toList

/-- Whether a text ends with another one. -/
def endsWith (text ending : String) : Bool :=
  ending.toList.isSuffixOf text.toList

/-- Joins texts with a separator between them. -/
def join (separator : String) (texts : List String) : String :=
  separator.intercalate texts

/-- Splits a text at every occurrence of one character. -/
def split (separator : Char) (text : String) : List String :=
  (splitAt separator text.toList).map String.ofList

/-- A text with its ASCII capitals made small. -/
def asciiLower (text : String) : String :=
  String.ofList (text.toList.map Char.toLower)

end ApiAdmission.Text
