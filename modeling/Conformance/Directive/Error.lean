import Conformance.Json.Cursor
import Conformance.Path

/-!
# Errors of directives

A directive refuses a payload for a reason of its own, or because an operand in the payload cannot be
decoded. A document cannot be decoded because its text is no JSON, or because a directive in it refuses its
payload; the error then names the directive, its place and the reason.
-/

set_option autoImplicit false

namespace Conformance

mutual

inductive RuleError where
  | pattern
  | requiredFalse
  | negativeLength
  | fractionalLength
  | noLengthBound
  | exactWithRelational
  | unknownLengthBound (name : String)
  | emptyOperands (token : String)
  | payload (expected found : String)
  | notNumeric (found : String)
  | nested (inner : DecodeError)

inductive DecodeError where
  | json (error : Json.ReadError)
  | directive (token : String) (path : Path) (source : RuleError)

end

mutual

def RuleError.message : RuleError → String
  | .pattern => "invalid pattern"
  | .requiredFalse => "required directive must be true"
  | .negativeLength => "length must be non-negative"
  | .fractionalLength => "length value must be integer"
  | .noLengthBound => "no length comparator provided"
  | .exactWithRelational => "eq cannot be combined with other length comparators"
  | .unknownLengthBound name => "unknown length comparator " ++ Text.quoted name
  | .emptyOperands token => token ++ " directive requires non-empty array"
  | .payload expected found => "expected " ++ expected ++ " payload, got " ++ found
  | .notNumeric found => "expected numeric value, got " ++ found
  | .nested inner => inner.message

def DecodeError.message : DecodeError → String
  | .json error => "invalid JSON: " ++ error.message
  | .directive token path source =>
    (if path.isRoot then "" else path.text ++ ": ") ++ token ++ ": " ++ source.message

end

namespace DecodeError

/-- The same error seen from further up: its path continues `base`. -/
def under (base : Path) : DecodeError → DecodeError
  | .json error => .json error
  | .directive token path source => .directive token (base.join path) source

end DecodeError

mutual

/-- The messages of an error and of the errors behind it, outermost first. A nested error speaks for
itself and is not listed twice. -/
def RuleError.chain : RuleError → List String
  | .nested inner => inner.chain
  | other => [other.message]

def DecodeError.chain : DecodeError → List String
  | .json error => [(DecodeError.json error).message, error.message]
  | .directive token path source => (DecodeError.directive token path source).message :: source.chain

end

end Conformance
