import ApiAdmission.Family
import ApiAdmission.Tree.Basic

/-!
# What a resolver offers

Validation consults a resolver in three ways: it asks for a document rendered in either of the two
families, which normally yields a result with messages, and it asks for a lenient reading, which may
fail.  A consultation keeps a log of these calls, also when it fails.
-/

namespace ApiAdmission

set_option autoImplicit false

/-- A document rendered in a family, with its references replaced. -/
structure ResolvedDocument where
  /-- The family. -/
  family : Family
  /-- The version that the document declares. -/
  version : String
  /-- The value. -/
  tree : Tree

/-- What a resolver returns for a document: the document, if it can be rendered, and messages. -/
structure Resolution where
  /-- The rendered document. -/
  document : Option ResolvedDocument
  /-- What the resolver has to say. -/
  messages : List String

/-- Why an answer cannot be given. -/
inductive Failure where
  /-- A text is no document. -/
  | unreadable (message : String)
  /-- A reference has no target. -/
  | badReference (message : String)
  /-- A remote reference cannot be loaded. -/
  | badRemoteReference (message : String)
  /-- The run breaks down. -/
  | breakdown (breakdown : Breakdown)
deriving DecidableEq, Repr

/-- The capability that validation consults; the second argument is the location of the text. -/
structure Resolver where
  /-- Renders a text in the older family. -/
  resolveSwagger2 : String → Option String → Except Failure Resolution
  /-- Renders a text in the newer family. -/
  resolveOpenapi3 : String → Option String → Except Failure Resolution
  /-- Reads a text and replaces its references, and fails at the first one that has no target. -/
  parseLenient : String → Option String → Except Failure Tree

/-- A call of a resolver. -/
inductive Call where
  | swagger2
  | openapi3
  | lenient
deriving DecidableEq, Repr

/-- The name of a call. -/
def Call.name : Call → String
  | .swagger2 => "swagger2"
  | .openapi3 => "openapi3"
  | .lenient => "lenient"

/-- A computation that consults a resolver, logs the calls in order, and may fail. -/
abbrev Consultation (α : Type) := ExceptT Failure (StateM (List Call)) α

namespace Consultation

/-- Logs a call. -/
def log (call : Call) : Consultation Unit :=
  modify (· ++ [call])

/-- Passes on a result that breaks down or not. -/
def ofBreakdown {α : Type} : Except Breakdown α → Consultation α
  | .ok value => pure value
  | .error breakdown => throw (.breakdown breakdown)

/-- Passes on a result that fails or not. -/
def ofFailure {α : Type} : Except Failure α → Consultation α
  | .ok value => pure value
  | .error failure => throw failure

/-- Runs a consultation with an empty log. -/
def start {α : Type} (consultation : Consultation α) : Except Failure α × List Call :=
  StateT.run (ExceptT.run consultation) []

end Consultation

namespace Resolver

/-- Asks for a document rendered in a family. -/
def render (resolver : Resolver) (family : Family) (text : String) (location : Option String) :
    Consultation Resolution :=
  match family with
  | .swagger2 => do
    Consultation.log .swagger2
    Consultation.ofFailure (resolver.resolveSwagger2 text location)
  | .openapi3 => do
    Consultation.log .openapi3
    Consultation.ofFailure (resolver.resolveOpenapi3 text location)
  | .unknown => throw (.breakdown Family.noRules)

/-- Asks for a lenient reading, and hands its outcome over. -/
def readLeniently (resolver : Resolver) (text : String) (location : Option String) :
    Consultation (Except Failure Tree) := do
  Consultation.log .lenient
  return resolver.parseLenient text location

end Resolver

end ApiAdmission
