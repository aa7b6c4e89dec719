import ApiAdmission.Url.Basic

/-!
# Relative addresses

A relative address is read against a base address.  One with another scheme stands for itself, and
one with a host of its own keeps it.  Otherwise its path is appended to the directory of the base
path, unless it starts with a slash; dots and pairs of dots are worked out, never leaving the root.
-/

namespace ApiAdmission.Url

set_option autoImplicit false

/-- The segments of a path. -/
def segments (path : String) : List String := Text.split '/' path

/-- The segments of a base path that a relative path is appended to. -/
def directorySegments (path : String) : List String :=
  match (segments path).reverse with
  | "" :: _ => segments path
  | _ :: rest => rest.reverse
  | [] => []

/-- A list without the empty texts inside it; the first and the last one stay. -/
def dropInnerEmpty : List String → List String
  | [] => []
  | first :: rest =>
    match rest.reverse with
    | [] => [first]
    | last :: inner => first :: (inner.reverse.filter (· != "")) ++ [last]

/-- Works out dots and pairs of dots; those at the end leave a slash there. -/
def workOutDots (segments : List String) : List String :=
  let reached := segments.foldl (fun reached segment =>
    if segment == ".." then reached.dropLast
    else if segment == "." then reached
    else reached ++ [segment]) []
  if segments.getLast? == some "." || segments.getLast? == some ".." then reached ++ [""]
  else reached

/-- The path that a relative path means from a base path. -/
def joinPaths (base path : String) : String :=
  let all :=
    if Text.startsWith path "/" then segments path
    else dropInnerEmpty (directorySegments base ++ segments path)
  let joined := Text.join "/" (workOutDots all)
  if joined == "" then "/" else joined

/-- The address that a text means at a base address; an empty text means the base address as it is
written. -/
def join (base text : String) : Except Breakdown String := do
  if text == "" then return base
  let base ← read "" base
  let url ← read base.scheme text
  if url.scheme != base.scheme then return text
  else if url.host != "" then return url.text
  else if url.path == "" && url.parameters == "" then
    return Url.text { url with
      host := base.host
      path := base.path
      parameters := base.parameters
      query := if url.query == "" then base.query else url.query }
  else return Url.text { url with host := base.host, path := joinPaths base.path url.path }

end ApiAdmission.Url
