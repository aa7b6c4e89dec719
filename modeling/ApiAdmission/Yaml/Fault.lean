import ApiAdmission.Text.Digit
import ApiAdmission.Text.Quoted
import ApiAdmission.Text.Search

/-!
# Why a text is no YAML document

A complaint about the notation says what is wrong and where, and mostly also what was being read
and where that began.  The two places are shown as line and column, the first one only when it
differs from the second.  Faults of a value, such as a number that is none, carry no place.
-/

namespace ApiAdmission.Yaml

set_option autoImplicit false

/-- A place in the text: characters before it, line and column, all from zero. -/
structure Mark where
  /-- The number of characters before the place. -/
  index : Nat
  /-- The number of line ends before the place. -/
  line : Nat
  /-- The number of characters before the place on its line. -/
  column : Nat
deriving DecidableEq, Repr, Inhabited

/-- How a place is shown. -/
def Mark.text (mark : Mark) : String :=
  "  in \"<unicode string>\", line " ++ toString (mark.line + 1) ++ ", column " ++
    toString (mark.column + 1)

/-- What was being read when a fault was found. -/
inductive Activity where
  | scanningToken
  | scanningSimpleKey
  | scanningDirective
  | scanningVersionDirective
  | scanningTagDirective
  | scanningTagDirectiveHandle
  | parsingTagDirectiveHandle
  | parsingTagDirective
  | scanningAnchor
  | scanningAlias
  | scanningTag
  | parsingTag
  | scanningBlockScalar
  | scanningQuotedScalar
  | parsingQuotedScalar
  | scanningPlainScalar
  | parsingNode
  | parsingBlockNode
  | parsingFlowNode
  | parsingBlockCollection
  | parsingBlockMapping
  | parsingFlowSequence
  | parsingFlowMapping
  | duplicateAnchor
  | singleDocument
  | constructingMapping
  | constructingOrderedMap
  | constructingPairs
deriving DecidableEq, Repr

/-- The words for an activity. -/
def Activity.words : Activity → String
  | .scanningToken => "while scanning for the next token"
  | .scanningSimpleKey => "while scanning a simple key"
  | .scanningDirective => "while scanning a directive"
  | .scanningVersionDirective => "while scanning a %YAML directive"
  | .scanningTagDirective => "while scanning a %TAG directive"
  | .scanningTagDirectiveHandle => "while scanning a tag directive"
  | .parsingTagDirectiveHandle => "while parsing a tag directive"
  | .parsingTagDirective => "while parsing a %TAG directive"
  | .scanningAnchor => "while scanning an anchor"
  | .scanningAlias => "while scanning an alias"
  | .scanningTag => "while scanning a tag"
  | .parsingTag => "while parsing a tag"
  | .scanningBlockScalar => "while scanning a block scalar"
  | .scanningQuotedScalar => "while scanning a quoted scalar"
  | .parsingQuotedScalar => "while parsing a quoted scalar"
  | .scanningPlainScalar => "while scanning a plain scalar"
  | .parsingNode => "while parsing a node"
  | .parsingBlockNode => "while parsing a block node"
  | .parsingFlowNode => "while parsing a flow node"
  | .parsingBlockCollection => "while parsing a block collection"
  | .parsingBlockMapping => "while parsing a block mapping"
  | .parsingFlowSequence => "while parsing a flow sequence"
  | .parsingFlowMapping => "while parsing a flow mapping"
  | .duplicateAnchor => "found duplicate anchor; first occurrence"
  | .singleDocument => "expected a single document in the stream"
  | .constructingMapping => "while constructing a mapping"
  | .constructingOrderedMap => "while constructing an ordered map"
  | .constructingPairs => "while constructing pairs"

/-- What is wrong. -/
inductive Problem where
  | unexpectedStart
  | missingColon
  | misplacedSequenceEntry
  | misplacedKey
  | misplacedValue
  | unknownDirective
  | missingDirectiveName
  | oddDirectiveName
  | trailingText
  | missingVersionDigit
  | missingVersionNumber
  | longVersionNumber
  | missingWhitespace
  | missingWhitespaceOrBreak
  | missingAnchorName
  | missingExclamationMark
  | missingClosingAngle
  | missingTagUri
  | missingEscapedOctet
  | badLeadingOctet
  | badTrailingOctet
  | zeroIndentation
  | tabIndentation
  | documentIndicator
  | endOfStream
  | unknownEscape
  | missingHexadecimal
  | invalidCharacterCode
  | unexpectedColon
  | tabInPlainScalar
  | missingDocumentStart
  | duplicateVersionDirective
  | incompatibleVersion
  | duplicateTagDirective
  | undefinedTagHandle
  | missingNodeContent
  | missingSequenceIndicator
  | missingKey
  | missingSequenceEnd
  | missingMappingEnd
  | undefinedAlias
  | secondOccurrence
  | anotherDocument
  | unknownTag (tag : String)
  | unhashableKey
  | expectedKind (kind found : String)
  | expectedMappingForMerge (found : String)
  | expectedMappingsForMerge (found : String)
  | expectedSequenceOfEntries (found : String)
  | expectedEntry (found : String)
  | expectedSingleItem (count : Nat)
  | nonAsciiBinary (message : String)
  | undecodableBinary (message : String)
deriving DecidableEq, Repr

/-- The words for a problem. -/
def Problem.words : Problem → String
  | .unexpectedStart => "found character that cannot start any token"
  | .missingColon => "could not find expected ':'"
  | .misplacedSequenceEntry => "block sequence entries are not allowed in this context"
  | .misplacedKey => "mapping keys are not allowed in this context"
  | .misplacedValue => "mapping values are not allowed in this context"
  | .unknownDirective => "found unknown directive name"
  | .missingDirectiveName => "could not find expected directive name"
  | .oddDirectiveName => "found unexpected non-alphabetical character"
  | .trailingText => "did not find expected comment or line break"
  | .missingVersionDigit => "did not find expected digit or '.' character"
  | .missingVersionNumber => "did not find expected version number"
  | .longVersionNumber => "found extremely long version number"
  | .missingWhitespace => "did not find expected whitespace"
  | .missingWhitespaceOrBreak => "did not find expected whitespace or line break"
  | .missingAnchorName => "did not find expected alphabetic or numeric character"
  | .missingExclamationMark => "did not find expected '!'"
  | .missingClosingAngle => "did not find the expected '>'"
  | .missingTagUri => "did not find expected tag URI"
  | .missingEscapedOctet => "did not find URI escaped octet"
  | .badLeadingOctet => "found an incorrect leading UTF-8 octet"
  | .badTrailingOctet => "found an incorrect trailing UTF-8 octet"
  | .zeroIndentation => "found an indentation indicator equal to 0"
  | .tabIndentation => "found a tab character where an indentation space is expected"
  | .documentIndicator => "found unexpected document indicator"
  | .endOfStream => "found unexpected end of stream"
  | .unknownEscape => "found unknown escape character"
  | .missingHexadecimal => "did not find expected hexdecimal number"
  | .invalidCharacterCode => "found invalid Unicode character escape code"
  | .unexpectedColon => "found unexpected ':'"
  | .tabInPlainScalar => "found a tab character that violates indentation"
  | .missingDocumentStart => "did not find expected <document start>"
  | .duplicateVersionDirective => "found duplicate %YAML directive"
  | .incompatibleVersion => "found incompatible YAML document"
  | .duplicateTagDirective => "found duplicate %TAG directive"
  | .undefinedTagHandle => "found undefined tag handle"
  | .missingNodeContent => "did not find expected node content"
  | .missingSequenceIndicator => "did not find expected '-' indicator"
  | .missingKey => "did not find expected key"
  | .missingSequenceEnd => "did not find expected ',' or ']'"
  | .missingMappingEnd => "did not find expected ',' or '\x7d'"
  | .undefinedAlias => "found undefined alias"
  | .secondOccurrence => "second occurrence"
  | .anotherDocument => "but found another document"
  | .unknownTag tag => "could not determine a constructor for the tag " ++ Text.quote tag
  | .unhashableKey => "found unhashable key"
  | .expectedKind kind found => "expected a " ++ kind ++ " node, but found " ++ found
  | .expectedMappingForMerge found => "expected a mapping for merging, but found " ++ found
  | .expectedMappingsForMerge found =>
    "expected a mapping or list of mappings for merging, but found " ++ found
  | .expectedSequenceOfEntries found => "expected a sequence, but found " ++ found
  | .expectedEntry found => "expected a mapping of length 1, but found " ++ found
  | .expectedSingleItem count =>
    "expected a single mapping item, but found " ++ toString count ++ " items"
  | .nonAsciiBinary message => "failed to convert base64 data into ascii: " ++ message
  | .undecodableBinary message => "failed to decode base64 data: " ++ message

/-- What is wrong with the value of a scalar. -/
inductive ValueFault where
  /-- The text is no integer in the base. -/
  | integer (base : Nat) (text : String)
  /-- The integer has more digits than are read. -/
  | longInteger (digits : Nat)
  /-- The text is no number. -/
  | number (text : String)
  /-- A number is empty. -/
  | emptyNumber
  /-- The word is no truth value. -/
  | truthValue (word : String)
  /-- The text is no moment. -/
  | moment
  /-- A part of a moment is out of its range. -/
  | momentRange (message : String)
deriving DecidableEq, Repr

/-- Why a text is no YAML document. -/
inductive Fault where
  /-- The text holds a character that no document may hold; the offset counts bytes. -/
  | forbiddenCharacter (code offset : Nat)
  /-- The notation is broken. -/
  | complaint (activity : Option (Activity × Mark)) (problem : Problem) (place : Mark)
  /-- A scalar has no value of the kind its tag asks for. -/
  | value (fault : ValueFault)
  /-- A node contains itself. -/
  | endless
deriving DecidableEq, Repr

/-- A complaint found while something was being read. -/
def Fault.during (activity : Activity) (start : Mark) (problem : Problem) (place : Mark) : Fault :=
  .complaint (some (activity, start)) problem place

/-- The message of a complaint. -/
def complaintMessage (activity : Option (Activity × Mark)) (problem : Problem) (place : Mark) :
    String :=
  let before := match activity with
    | none => []
    | some (activity, start) =>
      if start.line == place.line && start.column == place.column then [activity.words]
      else [activity.words, start.text]
  Text.join "\n" (before ++ [problem.words, place.text])

/-- The message for a forbidden character. -/
def forbiddenMessage (code offset : Nat) : String :=
  "unacceptable character #x" ++ Text.toHex 4 code ++
    ": control characters are not allowed\n  in \"<unicode string>\", position " ++ toString offset

end ApiAdmission.Yaml
