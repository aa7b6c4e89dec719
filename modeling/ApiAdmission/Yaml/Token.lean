import ApiAdmission.Yaml.Cursor

/-!
# Tokens

A document is read as a sequence of tokens.  Besides what is written there are tokens that the
indentation stands for: the start of a block collection, its end, and the mark before a simple key.
-/

namespace ApiAdmission.Yaml

set_option autoImplicit false

/-- What a token is. -/
inductive TokenKind where
  | streamStart
  | streamEnd
  | versionDirective (major minor : Nat)
  | tagDirective (handle start : String)
  | documentStart
  | documentEnd
  | blockSequenceStart
  | blockMappingStart
  | blockEnd
  | flowSequenceStart
  | flowSequenceEnd
  | flowMappingStart
  | flowMappingEnd
  | blockEntry
  | flowEntry
  | key
  | value
  | alias (name : String)
  | anchor (name : String)
  | tag (handle suffix : String)
  | scalar (text : String) (plain : Bool)
deriving DecidableEq, Repr, Inhabited

/-- A token with the places where it starts and ends. -/
structure Token where
  /-- What the token is. -/
  kind : TokenKind
  /-- Where it starts. -/
  start : Mark
  /-- Where it ends. -/
  finish : Mark
deriving DecidableEq, Repr, Inhabited

/-- The tokens of a text up to its end or up to a fault. -/
structure TokenStream where
  /-- The tokens in order. -/
  tokens : List Token
  /-- The fault after the last token, if the text was not read to its end. -/
  fault : Option Fault
deriving Repr, Inhabited

end ApiAdmission.Yaml
