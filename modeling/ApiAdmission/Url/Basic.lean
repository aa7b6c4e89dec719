import ApiAdmission.Breakdown
import ApiAdmission.Text.Digit
import ApiAdmission.Text.Search

/-!
# Addresses

An address is taken apart into scheme, host, path, parameters, query and fragment.  The parameters
are what follows a semicolon in the last segment of the path.  Line ends and tabs inside an address
do not count, nor do blanks and control characters in front of it.

A host may hold an address in brackets, which must then be a numeric one of the long form, and no
character that stands for a separator in another guise.
-/

namespace ApiAdmission

set_option autoImplicit false

/-- The parts of an address; an absent part is empty. -/
structure Url where
  /-- The scheme, in small letters. -/
  scheme : String
  /-- The host. -/
  host : String
  /-- The path. -/
  path : String
  /-- The parameters of the last segment of the path. -/
  parameters : String
  /-- The query. -/
  query : String
  /-- The fragment. -/
  fragment : String
deriving DecidableEq, Repr

/-- Whether a location is an address of the web. -/
def isWebAddress (location : String) : Bool :=
  Text.startsWith location "http://" || Text.startsWith location "https://"

namespace Url

/-- Whether a character may stand in a scheme. -/
def isSchemeCharacter (c : Char) : Bool :=
  c.isAlphanum || c == '+' || c == '-' || c == '.'

/-- Takes the scheme off the front of an address, if there is one. -/
def takeScheme (characters : List Char) : Option (String × List Char) :=
  match Text.cutAt ':' characters with
  | (name, some rest) =>
    if name.all isSchemeCharacter && name.head?.any Char.isAlpha then
      some (Text.asciiLower (String.ofList name), rest)
    else none
  | _ => none

/-- Whether four hexadecimal digits at most stand for one group of a long numeric address. -/
def isGroup (characters : List Char) : Bool :=
  !characters.isEmpty && characters.length ≤ 4 && characters.all fun c => (Text.hexValue? c).isSome

/-- Whether a text is one of the four numbers of a short numeric address. -/
def isOctet (characters : List Char) : Bool :=
  !characters.isEmpty && characters.length ≤ 3 && characters.all Text.isAsciiDigit &&
    (characters.length == 1 || characters.head? != some '0') &&
    Text.ofDigits 10 (characters.filterMap Text.digitValue?) ≤ 255

/-- Whether a text is a short numeric address. -/
def isShortAddress (characters : List Char) : Bool :=
  let parts := Text.splitAt '.' characters
  parts.length == 4 && parts.all isOctet

/-- How many groups the parts of a long numeric address stand for, if they are well formed; a short
address at the end stands for two. -/
def groupCount? (parts : List (List Char)) : Option Nat :=
  match parts.reverse with
  | [] => some 0
  | last :: earlier =>
    if earlier.all isGroup then
      if isGroup last then some parts.length
      else if isShortAddress last then some (parts.length + 1)
      else none
    else none

/-- Splits at the first pair of colons. -/
def cutAtDoubleColon : List Char → List Char × Option (List Char)
  | [] => ([], none)
  | ':' :: ':' :: rest => ([], some rest)
  | c :: rest =>
    let (before, after) := cutAtDoubleColon rest
    (c :: before, after)

/-- The parts between colons; nothing has no parts. -/
def colonParts (characters : List Char) : List (List Char) :=
  if characters.isEmpty then [] else Text.splitAt ':' characters

/-- Whether a text is a long numeric address, perhaps with the name of a zone. -/
def isLongAddress (characters : List Char) : Bool :=
  let (address, zone) := Text.cutAt '%' characters
  let zoned := match zone with
    | none => true
    | some name => !name.isEmpty && !name.contains '%'
  let wellFormed := match cutAtDoubleColon address with
    | (whole, none) => groupCount? (colonParts whole) == some 8
    | (before, some after) =>
      before.all (· != '.') &&
      match groupCount? (colonParts before), groupCount? (colonParts after) with
      | some a, some b => a + b < 8
      | _, _ => false
  zoned && wellFormed

/-- Whether a text is an address of a future form. -/
def isFutureAddress (characters : List Char) : Bool :=
  match Text.cutAt '.' (characters.drop 1) with
  | (version, some rest) =>
    !version.isEmpty && version.all (fun c => (Text.hexValue? c).isSome) && !rest.isEmpty &&
      !rest.contains '\n'
  | _ => false

/-- Checks an address in brackets. -/
def checkBracketed (characters : List Char) : Except Breakdown Unit :=
  if characters.head? == some 'v' then
    if isFutureAddress characters then .ok ()
    else .error (.illegalValue "IPvFuture address is invalid")
  else if isShortAddress characters then
    .error (.illegalValue "An IPv4 address cannot be in brackets")
  else if isLongAddress characters then .ok ()
  else
    .error (.illegalValue (Text.quote (String.ofList characters) ++
      " does not appear to be an IPv4 or IPv6 address"))

/-- The characters outside ASCII that stand for something with a separator in it. -/
def disguisedSeparators : List Nat :=
  [0x2047, 0x2048, 0x2049, 0x2100, 0x2101, 0x2105, 0x2106, 0x2A74, 0xFE13, 0xFE16, 0xFE55, 0xFE56,
    0xFE5F, 0xFE6B, 0xFF03, 0xFF0F, 0xFF1A, 0xFF1F, 0xFF20]

/-- Checks a host. -/
def checkHost (host : List Char) : Except Breakdown Unit := do
  let opens := host.contains '['
  let closes := host.contains ']'
  if opens != closes then throw (.illegalValue "Invalid IPv6 URL")
  if opens then
    let inside := ((Text.cutAt '[' host).2).getD []
    checkBracketed (Text.cutAt ']' inside).1
  if host.any fun c => disguisedSeparators.contains c.toNat then
    throw (.illegalValue ("netloc '" ++ String.ofList host ++
      "' contains invalid characters under NFKC normalization"))

/-- Splits the parameters off the last segment of a path. -/
def cutParameters (path : List Char) : List Char × List Char :=
  match (Text.splitAt '/' path).reverse with
  | [] => (path, [])
  | last :: _ =>
    match Text.cutAt ';' last with
    | (_, none) => (path, [])
    | (kept, some parameters) => (path.take (path.length - last.length + kept.length), parameters)

/-- Takes an address apart; an address without a scheme has the given one. -/
def read (scheme text : String) : Except Breakdown Url := do
  let started := text.toList.dropWhile fun c => c.toNat ≤ 0x20
  let cleaned := started.filter fun c => c != '\t' && c != '\r' && c != '\n'
  let (scheme, rest) := (takeScheme cleaned).getD (scheme, cleaned)
  let (host, rest) := match rest with
    | '/' :: '/' :: rest =>
      let isHostEnd (c : Char) : Bool := c == '/' || c == '?' || c == '#'
      (rest.takeWhile fun c => !isHostEnd c, rest.dropWhile fun c => !isHostEnd c)
    | _ => ([], rest)
  checkHost host
  let (rest, fragment) := Text.cutAt '#' rest
  let (path, query) := Text.cutAt '?' rest
  let (path, parameters) := cutParameters path
  return {
    scheme := scheme
    host := String.ofList host
    path := String.ofList path
    parameters := String.ofList parameters
    query := String.ofList (query.getD [])
    fragment := String.ofList (fragment.getD []) }

/-- A part with its separator in front, unless it is empty. -/
def partAfter (separator part : String) : String :=
  if part == "" then "" else separator ++ part

/-- The text of an address with a scheme. -/
def text (url : Url) : String :=
  let path := url.path ++ partAfter ";" url.parameters
  let rooted := if path == "" || Text.startsWith path "/" then path else "/" ++ path
  url.scheme ++ "://" ++ url.host ++ rooted ++ partAfter "?" url.query ++
    partAfter "#" url.fragment

end Url

end ApiAdmission
