/-!
# Diagnostics

A diagnostic is one finding about a document: a code from a closed list, a severity, a message and
the part of the work that found it.  Every code belongs to one kind of error, and a finding blocks
the document exactly when its severity is that of an error.
-/

namespace ApiAdmission

set_option autoImplicit false

/-- How grave a finding is. -/
inductive Severity where
  | info
  | warning
  | error
deriving DecidableEq, Repr

namespace Severity

/-- All severities. -/
def all : List Severity := [.info, .warning, .error]

/-- The name of a severity. -/
def name : Severity → String
  | .info => "info"
  | .warning => "warning"
  | .error => "error"

/-- The severity with a given name. -/
def ofName? (name : String) : Option Severity :=
  all.find? fun severity => severity.name == name

end Severity

/-- Which part of the work made a finding. -/
inductive Origin where
  | parser
  | semanticCheck
  | referenceScan
deriving DecidableEq, Repr

namespace Origin

/-- All origins. -/
def all : List Origin := [.parser, .semanticCheck, .referenceScan]

/-- The name of an origin. -/
def name : Origin → String
  | .parser => "parser"
  | .semanticCheck => "semantic_check"
  | .referenceScan => "reference_scan"

/-- The origin with a given name. -/
def ofName? (name : String) : Option Origin :=
  all.find? fun origin => origin.name == name

end Origin

/-- The kinds of errors that the codes fall into. -/
inductive ErrorKind where
  | documentUnparsable
  | familyUnrecognized
  | titleMissing
  | wrongFamily
  | resolverDiagnostic
  | semanticViolation
  | inputFailure
deriving DecidableEq, Repr

/-- The name of a kind of error. -/
def ErrorKind.name : ErrorKind → String
  | .documentUnparsable => "document_unparsable"
  | .familyUnrecognized => "family_unrecognized"
  | .titleMissing => "title_missing"
  | .wrongFamily => "wrong_family"
  | .resolverDiagnostic => "resolver_diagnostic"
  | .semanticViolation => "semantic_violation"
  | .inputFailure => "io_failure"

/-- The code of a finding. -/
inductive Code where
  | documentUnparsable
  | familyUnrecognized
  | titleMissing
  | swaggerMissing
  | openapiMissing
  | malformed
  | schemaReference
  | schemaUnexpected
  | remoteReference
  | generic
  | emptyPaths
  | emptyOperations
  | nullOperation
  | duplicatePath
  | inputFailure
deriving DecidableEq, Repr

namespace Code

/-- All codes. -/
def all : List Code :=
  [.documentUnparsable, .familyUnrecognized, .titleMissing, .swaggerMissing, .openapiMissing,
    .malformed, .schemaReference, .schemaUnexpected, .remoteReference, .generic, .emptyPaths,
    .emptyOperations, .nullOperation, .duplicatePath, .inputFailure]

/-- The name of a code. -/
def name : Code → String
  | .documentUnparsable => "DOCUMENT_UNPARSABLE"
  | .familyUnrecognized => "FAMILY_UNRECOGNIZED"
  | .titleMissing => "TITLE_MISSING"
  | .swaggerMissing => "SWAGGER_MISSING"
  | .openapiMissing => "OPENAPI_MISSING"
  | .malformed => "MALFORMED"
  | .schemaReference => "SCHEMA_REF"
  | .schemaUnexpected => "SCHEMA_UNEXPECTED"
  | .remoteReference => "REMOTE_REF"
  | .generic => "GENERIC"
  | .emptyPaths => "EMPTY_PATHS"
  | .emptyOperations => "EMPTY_OPERATIONS"
  | .nullOperation => "NULL_OPERATION"
  | .duplicatePath => "DUPLICATE_PATH"
  | .inputFailure => "IO_FAILURE"

/-- The code with a given name. -/
def ofName? (name : String) : Option Code :=
  all.find? fun code => code.name == name

/-- The kind of error that a code stands for. -/
def kind : Code → ErrorKind
  | .documentUnparsable => .documentUnparsable
  | .familyUnrecognized => .familyUnrecognized
  | .titleMissing => .titleMissing
  | .swaggerMissing | .openapiMissing => .wrongFamily
  | .malformed | .schemaReference | .schemaUnexpected | .remoteReference | .generic =>
    .resolverDiagnostic
  | .emptyPaths | .emptyOperations | .nullOperation | .duplicatePath => .semanticViolation
  | .inputFailure => .inputFailure

end Code

/-- A finding about a document. -/
structure Diagnostic where
  /-- What is found. -/
  code : Code
  /-- How grave it is. -/
  severity : Severity
  /-- The sentence for the reader. -/
  message : String
  /-- What found it. -/
  source : Origin
deriving DecidableEq, Repr

namespace Diagnostic

/-- A finding of the parser that blocks the document. -/
def blocking (code : Code) (message : String) : Diagnostic :=
  ⟨code, .error, message, .parser⟩

/-- Whether a finding blocks the document. -/
def isBlocking (diagnostic : Diagnostic) : Bool := diagnostic.severity == .error

/-- A finding with another severity. -/
def withSeverity (diagnostic : Diagnostic) (severity : Severity) : Diagnostic :=
  { diagnostic with severity := severity }

end Diagnostic

end ApiAdmission
