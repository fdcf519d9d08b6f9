import Stencil.Diagnostic
import Stencil.Value.Kind
import Stencil.Number.Notation
import Stencil.Text.Quoted

/-!
# Template errors

Every failure of scanning, parsing, rendering or configuration is a
`TemplateError`: a `Fault`, which says what went wrong, and where it went wrong
when that is known. The wording of each fault is in one place, `Fault.message`,
with its code (`Fault.code`), its hints and the class of error it belongs to
(`Fault.errorClass`).

The classes form three families:

* parse errors (`E0xx`, `E1xx`): an unclosed tag, a malformed literal, a
  syntax error, an unbalanced block;
* evaluation errors (`E4xx`): an undefined variable, an unknown method, a wrong
  number of arguments, a value of the wrong kind, an index out of range, an
  invalid argument, an unknown global function;
* collaborator errors (`E5xx`): a collaborator that failed, a partial that is
  missing, does not parse or cannot be loaded, partials nested too deep, a
  collaborator that is not configured.

An error found inside an expression learns its place on the way out:
`TemplateError.locate` gives it the span of the innermost expression around
it, unless it has a place already.
-/

namespace Stencil

/-- The class of an error, as hosts tell errors apart. -/
inductive ErrorClass where
  | unterminatedTag
  | malformedLiteral
  | templateSyntax
  | unbalancedBlock
  | undefinedVariable
  | unknownMethod
  | arityMismatch
  | typeMismatch
  | indexOutOfRange
  | invalidArgument
  | unknownGlobalFunction
  | collaborator
  | partialNotFound
  | partialParse
  | load
  | recursionLimit
  | missingCollaborator
  deriving Repr, DecidableEq, Inhabited

namespace ErrorClass

/-- The name of an error class. -/
def name : ErrorClass → String
  | .unterminatedTag => "UnterminatedTag"
  | .malformedLiteral => "MalformedLiteral"
  | .templateSyntax => "TemplateSyntaxError"
  | .unbalancedBlock => "UnbalancedBlock"
  | .undefinedVariable => "UndefinedVariable"
  | .unknownMethod => "UnknownMethod"
  | .arityMismatch => "ArityMismatch"
  | .typeMismatch => "TypeMismatch"
  | .indexOutOfRange => "IndexOutOfRange"
  | .invalidArgument => "InvalidArgument"
  | .unknownGlobalFunction => "UnknownGlobalFunction"
  | .collaborator => "CollaboratorError"
  | .partialNotFound => "PartialNotFound"
  | .partialParse => "PartialParseError"
  | .load => "LoadError"
  | .recursionLimit => "RecursionLimitExceeded"
  | .missingCollaborator => "MissingCollaborator"

/-- The code a class gives its diagnostics unless a fault names a finer one. -/
def code : ErrorClass → String
  | .unterminatedTag => "E010"
  | .malformedLiteral => "E001"
  | .templateSyntax => "E101"
  | .unbalancedBlock => "E110"
  | .undefinedVariable => "E401"
  | .unknownMethod => "E402"
  | .arityMismatch => "E403"
  | .typeMismatch => "E404"
  | .indexOutOfRange => "E405"
  | .invalidArgument => "E406"
  | .unknownGlobalFunction => "E407"
  | .collaborator => "E500"
  | .partialNotFound => "E501"
  | .partialParse => "E502"
  | .load => "E503"
  | .recursionLimit => "E504"
  | .missingCollaborator => "E505"

/-- Whether errors of a class come from scanning or parsing. -/
def isParse : ErrorClass → Bool
  | .unterminatedTag | .malformedLiteral | .templateSyntax | .unbalancedBlock => true
  | _ => false

end ErrorClass

/-- What went wrong. -/
inductive Fault where
  /-- A tag that is still open at the end of the text; the UTF-8 byte offset of its opener. -/
  | unterminatedTag (byteOffset : Nat)
  /-- A character that starts no token inside a tag. -/
  | unexpectedCharacter (c : Char)
  /-- A string literal without its closing quote. -/
  | unterminatedString
  /-- Digits run into a letter or underscore. -/
  | invalidNumber (lexeme : String)
  /-- An integer literal above `2^63 - 1`. -/
  | integerLiteralRange (lexeme : String)
  /-- A token other than the one the grammar needs. -/
  | unexpectedToken (expected found : String)
  /-- The end of the text where the grammar needs more. -/
  | unexpectedEnd (expected : String)
  /-- An `if` or `for` whose body runs to the end of the text. -/
  | unclosedBlock (construct : String) (at_ : Location)
  /-- An `elsif` or `else` after the `else` of an `if`. -/
  | afterElse (keyword : String) (at_ ifAt : Location)
  /-- An `elsif` or `else` closing the body of a `for`. -/
  | insideFor (keyword : String) (at_ forAt : Location)
  /-- An `end`, `else` or `elsif` with no open block. -/
  | strayCloser (keyword : String) (at_ : Location)
  /-- A name bound neither by a loop nor by the host. -/
  | undefinedVariable (name : String)
  /-- A method the kind does not have. -/
  | unknownMethod (kind : Kind) (method : String)
  /-- A method called with the wrong number of arguments. -/
  | methodArity (kind : Kind) (method : String) (arity given : Nat)
  /-- A global function called with the wrong number of arguments. -/
  | globalArity (name : String) (arity given : Nat)
  /-- A value with no text form in an output tag. -/
  | noText (kind : Kind)
  /-- A host integer outside the 64-bit range. -/
  | hostIntegerRange (n : Int)
  /-- A host mapping with a key that is not a string. -/
  | hostKey (typeName : String)
  /-- A host value of a type templates cannot hold. -/
  | hostValue (typeName : String)
  /-- A method argument that must be a String. -/
  | methodArgument (method : String) (kind : Kind)
  /-- Positional access on a value that is not a Tuple. -/
  | positionalAccess (index : Int) (kind : Kind)
  /-- A List or Tuple indexed by a value that is not an Integer. -/
  | indexKind (container index : Kind)
  /-- A Hash indexed by a value that is not a String. -/
  | hashKeyKind (index : Kind)
  /-- Indexing a value that cannot be indexed. -/
  | notIndexable (kind : Kind)
  /-- An `if` or `elsif` condition that is not a Bool. -/
  | conditionKind (kind : Kind)
  /-- A `for` loop over a value that is not a List. -/
  | loopKind (kind : Kind)
  /-- An element that cannot be unpacked into the loop variables. -/
  | unpack (kind : Kind) (count : Nat)
  /-- Negation of a value that is not a number. -/
  | negate (kind : Kind)
  /-- A global function argument that must be a String. -/
  | globalArgument (name : String) (kind : Kind)
  /-- A collaborator that answered with something other than a text. -/
  | collaboratorResult (name typeName : String)
  /-- Positional access past the end of a Tuple. -/
  | tupleIndexRange (index : Int) (length : Nat)
  /-- An index outside a List or Tuple. -/
  | indexRange (index : Int) (kind : Kind) (length : Nat)
  /-- A key that a Hash does not have. -/
  | missingKey (key : String)
  /-- `first` or `last` of an empty List. -/
  | emptyList (method : String)
  /-- An integer result outside the 64-bit range. -/
  | overflow (n : Int)
  /-- `times` of a negative integer. -/
  | negativeTimes (n : Int)
  /-- The square root of a negative number. -/
  | negativeSqrt (x : Float)
  /-- Rounding a NaN or an infinity to an integer. -/
  | cannotRound (x : Float)
  /-- A setting that must be an integer. -/
  | settingNotInteger (setting raw : String)
  /-- A setting that must be a boolean. -/
  | settingNotBoolean (setting raw : String)
  /-- A negative nesting limit for partials. -/
  | negativeDepth (n : Int)
  /-- A call of a global function that does not exist. -/
  | unknownGlobal (name : String)
  /-- A collaborator that failed, with its own message. -/
  | collaboratorFailed (name message : String)
  /-- A partial that the loader does not have. -/
  | partialNotFound (path : String)
  /-- A partial that the file loader does not find under its root. -/
  | partialNotFoundUnder (path root : String)
  /-- A partial whose text does not parse; the parse error's diagnostic. -/
  | partialParse (path : String) (cause : Diagnostic)
  /-- A loader that failed, with its own message. -/
  | loadFailed (path message : String)
  /-- A loader that answered with something other than a template. -/
  | loaderResult (typeName path : String)
  /-- A partial file that cannot be read, with the reason. -/
  | unreadablePartial (path message : String)
  /-- A partial nested deeper than the limit. -/
  | nestingLimit (path : String) (limit : Nat)
  /-- A global function whose collaborator is not configured. -/
  | missingCollaborator (name collaborator : String)
  deriving Inhabited

namespace Fault

/-- The class of error a fault belongs to. -/
def errorClass : Fault → ErrorClass
  | .unterminatedTag _ => .unterminatedTag
  | .unexpectedCharacter _ | .unterminatedString | .invalidNumber _
  | .integerLiteralRange _ => .malformedLiteral
  | .unexpectedToken _ _ | .unexpectedEnd _ => .templateSyntax
  | .unclosedBlock _ _ | .afterElse _ _ _ | .insideFor _ _ _ | .strayCloser _ _ => .unbalancedBlock
  | .undefinedVariable _ => .undefinedVariable
  | .unknownMethod _ _ => .unknownMethod
  | .methodArity _ _ _ _ | .globalArity _ _ _ => .arityMismatch
  | .noText _ | .hostIntegerRange _ | .hostKey _ | .hostValue _ | .methodArgument _ _
  | .positionalAccess _ _ | .indexKind _ _ | .hashKeyKind _ | .notIndexable _
  | .conditionKind _ | .loopKind _ | .unpack _ _ | .negate _ | .globalArgument _ _
  | .collaboratorResult _ _ => .typeMismatch
  | .tupleIndexRange _ _ | .indexRange _ _ _ | .missingKey _ | .emptyList _ => .indexOutOfRange
  | .overflow _ | .negativeTimes _ | .negativeSqrt _ | .cannotRound _
  | .settingNotInteger _ _ | .settingNotBoolean _ _ | .negativeDepth _ => .invalidArgument
  | .unknownGlobal _ => .unknownGlobalFunction
  | .collaboratorFailed _ _ => .collaborator
  | .partialNotFound _ | .partialNotFoundUnder _ _ => .partialNotFound
  | .partialParse _ _ => .partialParse
  | .loadFailed _ _ | .loaderResult _ _ | .unreadablePartial _ _ => .load
  | .nestingLimit _ _ => .recursionLimit
  | .missingCollaborator _ _ => .missingCollaborator

/-- The code of a fault: its class's code, or a finer one. -/
def code : Fault → String
  | .unterminatedString => "E002"
  | .invalidNumber _ => "E006"
  | .integerLiteralRange _ => "E007"
  | .unexpectedEnd _ => "E102"
  | f => f.errorClass.code

/-- The message of a fault. -/
def message : Fault → String
  | .unterminatedTag offset => "unterminated tag starting at byte offset " ++ toString offset
  | .unexpectedCharacter c => "unexpected character '" ++ String.ofList [c] ++ "'"
  | .unterminatedString => "unterminated string literal"
  | .invalidNumber lexeme => "invalid number literal '" ++ lexeme ++ "'"
  | .integerLiteralRange lexeme => "integer literal '" ++ lexeme ++ "' does not fit in 64 bits"
  | .unexpectedToken expected found => "expected " ++ expected ++ ", found " ++ found
  | .unexpectedEnd expected => "unexpected end of template, expected " ++ expected
  | .unclosedBlock construct at_ =>
    "'" ++ construct ++ "' at " ++ at_.render ++ " is never closed with 'end'"
  | .afterElse keyword at_ ifAt =>
    "'" ++ keyword ++ "' at " ++ at_.render ++ " cannot follow the 'else' of the 'if' at " ++
      ifAt.render
  | .insideFor keyword at_ forAt =>
    "'" ++ keyword ++ "' at " ++ at_.render ++ " has no matching 'if' inside the 'for' at " ++
      forAt.render
  | .strayCloser keyword at_ =>
    "'" ++ keyword ++ "' at " ++ at_.render ++ " has no matching 'if' or 'for'"
  | .undefinedVariable name => "undefined variable '" ++ name ++ "'"
  | .unknownMethod kind method => kind.name ++ " has no method '" ++ method ++ "'"
  | .methodArity kind method arity given =>
    kind.name ++ "." ++ method ++ " takes " ++ toString arity ++ " argument(s), got " ++
      toString given
  | .globalArity name arity given =>
    name ++ "() takes " ++ toString arity ++ " argument(s), got " ++ toString given
  | .noText kind => "cannot render " ++ kind.name ++ " as text"
  | .hostIntegerRange n => "integer " ++ toString n ++ " does not fit in 64 bits"
  | .hostKey typeName => "hash keys must be strings, got " ++ typeName
  | .hostValue typeName => "cannot use " ++ typeName ++ " as a template value"
  | .methodArgument method kind => method ++ " expects a String argument, got " ++ kind.name
  | .positionalAccess index kind =>
    "positional access ." ++ toString index ++ " needs a Tuple, got " ++ kind.name
  | .indexKind container index =>
    container.name ++ " index must be an Integer, got " ++ index.name
  | .hashKeyKind index => "Hash key must be a String, got " ++ index.name
  | .notIndexable kind => kind.name ++ " cannot be indexed"
  | .conditionKind kind => "if condition must be a Bool, got " ++ kind.name
  | .loopKind kind => "for loop needs a List, got " ++ kind.name
  | .unpack kind count =>
    "cannot unpack " ++ kind.name ++ " into " ++ toString count ++ " loop variables"
  | .negate kind => "cannot negate " ++ kind.name
  | .globalArgument name kind => name ++ "() expects a String argument, got " ++ kind.name
  | .collaboratorResult name typeName =>
    name ++ "() collaborator returned " ++ typeName ++ ", expected str"
  | .tupleIndexRange index length =>
    "tuple index " ++ toString index ++ " out of range for a Tuple of length " ++ toString length
  | .indexRange index kind length =>
    "index " ++ toString index ++ " out of range for a " ++ kind.name ++ " of length " ++
      toString length
  | .missingKey key => "key '" ++ key ++ "' not found in Hash"
  | .emptyList method => method ++ " called on an empty List"
  | .overflow n => "integer overflow: " ++ toString n ++ " does not fit in 64 bits"
  | .negativeTimes n => "times needs a non-negative integer, got " ++ toString n
  | .negativeSqrt x => "sqrt of negative number " ++ Number.floatText x
  | .cannotRound x => "cannot round " ++ Number.floatText x ++ " to an integer"
  | .settingNotInteger setting raw => setting ++ " must be an integer, got " ++ Text.quote raw
  | .settingNotBoolean setting raw => setting ++ " must be a boolean, got " ++ Text.quote raw
  | .negativeDepth n => "max_partial_depth must be >= 0, got " ++ toString n
  | .unknownGlobal name => "unknown global function '" ++ name ++ "'"
  | .collaboratorFailed name message => name ++ "() failed: " ++ message
  | .partialNotFound path => "partial '" ++ path ++ "' not found"
  | .partialNotFoundUnder path root => "partial '" ++ path ++ "' not found under " ++ root
  | .partialParse path cause => "partial '" ++ path ++ "' failed to parse: " ++ cause.message
  | .loadFailed path message => "failed to load partial '" ++ path ++ "': " ++ message
  | .loaderResult typeName path =>
    "loader returned " ++ typeName ++ " for partial '" ++ path ++ "', expected a Template"
  | .unreadablePartial path message => "cannot read partial '" ++ path ++ "': " ++ message
  | .nestingLimit path limit =>
    "partial '" ++ path ++ "' exceeds the nesting limit of " ++ toString limit
  | .missingCollaborator name collaborator =>
    name ++ "() needs a " ++ collaborator ++ " but none is configured"

/-- The names of the global functions, as the hint for an unknown one lists them. -/
def globalNames : List String := ["render", "rwf_head", "rwf_turbo_stream"]

/-- The hints of a fault. -/
def hints : Fault → List String
  | .unterminatedTag _ => ["tags must be closed with '%>'"]
  | .unterminatedString => ["string literals must be closed with matching quotes"]
  | .noText _ => ["call a method that produces a String, Integer, Float or Bool"]
  | .unknownGlobal _ => ["available: " ++ ", ".intercalate globalNames]
  | .nestingLimit _ _ => ["check for a partial that renders itself"]
  | _ => []

/-- The diagnostics a fault points to. -/
def related : Fault → List Diagnostic
  | .partialParse _ cause => [cause]
  | _ => []

end Fault

/-- A failure, with its place when known, and the engine error it was raised from, if
it was raised from one. -/
structure TemplateError where
  fault : Fault
  span : Option Span := none
  sourceLine : Option String := none
  cause : Option TemplateError := none
  deriving Inhabited

namespace TemplateError

/-- An error with no place yet. -/
def ofFault (f : Fault) : TemplateError := { fault := f }

/-- An error at a span, with the source line there if known. -/
def at_ (f : Fault) (span : Span) (sourceLine : Option String) : TemplateError :=
  { fault := f, span := some span, sourceLine := sourceLine }

/-- Give an error a place, unless it has one. -/
def locate (e : TemplateError) (span : Span) (sourceLine : Option String) : TemplateError :=
  match e.span with
  | some _ => e
  | none => { e with span := some span, sourceLine := sourceLine }

/-- The class of the error. -/
def errorClass (e : TemplateError) : ErrorClass := e.fault.errorClass

/-- The diagnostic the error shows. -/
def diagnostic (e : TemplateError) : Diagnostic where
  code := e.fault.code
  message := e.fault.message
  span := e.span
  sourceLine := e.sourceLine
  hints := e.fault.hints
  related := e.fault.related

/-- The message of the error. -/
def message (e : TemplateError) : String := e.fault.message

/-- The error as text: its diagnostic, formatted. -/
def format (e : TemplateError) : String := e.diagnostic.format

end TemplateError

/-- A failure that the host runtime reports rather than the engine: the name of
its class and its message. -/
structure HostFailure where
  className : String
  message : String
  deriving Inhabited

/-- A failure of an operation: an engine error with its diagnostic, or a host failure.
The engine's handlers see its own errors only; a host failure passes through them. -/
inductive Failure where
  | template (e : TemplateError)
  | host (f : HostFailure)
  deriving Inhabited

namespace Failure

/-- An engine error with no place yet. -/
abbrev ofFault (φ : Fault) : Failure := .template (.ofFault φ)

/-- An engine error at a span, with the source line there if known. -/
abbrev at_ (φ : Fault) (span : Span) (sourceLine : Option String) : Failure :=
  .template (.at_ φ span sourceLine)

end Failure

end Stencil
