import ApiAdmission.Schema.Kind
import ApiAdmission.Schema.Violation

/-!
# The most relevant violation

Among the violations of alternatives one says best what is wrong.  A violation nearer to the top of
the value counts for more, then one further on in the value, then one that is no violation of
alternatives itself, then one whose schema is not even about values of this kind.  Inside the chosen
violation the search goes down to the least relevant one of its context, unless two are equally
so.
-/

namespace ApiAdmission.Schema

set_option autoImplicit false

/-- What decides the relevance of a violation, the most important part first. -/
structure Relevance where
  /-- The steps down to the value. -/
  path : List Step
  /-- Whether the keyword says more than that alternatives fail. -/
  specific : Bool
  /-- Whether the schema is about values of another kind. -/
  foreign : Bool
deriving DecidableEq, Repr

/-- The order of steps: positions by number, keys by their characters. -/
def Step.compare : Step → Step → Ordering
  | .key a, .key b => Ord.compare a b
  | .index a, .index b => Ord.compare a b
  | .index _, .key _ => .lt
  | .key _, .index _ => .gt

/-- The order of lists of steps. -/
def comparePaths : List Step → List Step → Ordering
  | [], [] => .eq
  | [], _ :: _ => .lt
  | _ :: _, [] => .gt
  | a :: restA, b :: restB => (a.compare b).then (comparePaths restA restB)

/-- The order of relevance. -/
def Relevance.compare (first second : Relevance) : Ordering :=
  (Ord.compare second.path.length first.path.length).then <|
    (comparePaths first.path second.path).then <|
      (Ord.compare first.specific second.specific).then <|
        Ord.compare first.foreign second.foreign

namespace Violation

/-- Whether the schema of a violation is about values of the kind of the value. -/
def matchesKind (dialect : Dialect) (violation : Violation) : Bool :=
  match violation.schema.get? "type" with
  | some kinds => (isOfKinds dialect (kindNames kinds) violation.subject).toOption.getD false
  | none => false

/-- The relevance of a violation. -/
def relevance (dialect : Dialect) (violation : Violation) : Relevance where
  path := violation.path
  specific := !(violation.keyword == some "anyOf" || violation.keyword == some "oneOf")
  foreign := !violation.matchesKind dialect

/-- Whether one violation is less relevant than another. -/
def lessRelevant (dialect : Dialect) (first second : Violation) : Bool :=
  (first.relevance dialect).compare (second.relevance dialect) == .lt

/-- The first of the most relevant violations. -/
def mostRelevant (dialect : Dialect) : Violation → List Violation → Violation
  | best, [] => best
  | best, violation :: rest =>
    mostRelevant dialect (if lessRelevant dialect best violation then violation else best) rest

/-- The first of the least relevant violations, and whether another one is equally so. -/
def leastRelevant (dialect : Dialect) : Violation × Bool → List Violation → Violation × Bool
  | least, [] => least
  | (least, shared), violation :: rest =>
    leastRelevant dialect
      (if lessRelevant dialect violation least then (violation, false)
        else (least, shared || !lessRelevant dialect least violation)) rest

/-- Goes down from a violation to the least relevant one of its context, with the path from the
start, at most so many times. -/
def narrow (dialect : Dialect) : Nat → Violation → Violation
  | 0, violation => violation
  | depth + 1, violation =>
    match violation.context with
    | [] => violation
    | first :: rest =>
      let (least, shared) := leastRelevant dialect (first, false) rest
      if shared then violation else narrow dialect depth (least.under violation.path)

/-- The violation that says best what is wrong where a violation has a context. -/
def best (dialect : Dialect) (violation : Violation) : Violation :=
  match violation.context with
  | [] => violation
  | first :: rest =>
    let chosen := mostRelevant dialect first rest
    narrow dialect violation.count (chosen.under violation.path)

end Violation

end ApiAdmission.Schema
