/-!
# What can be wrong with a pattern

## What is here

* `PatternError` — the causes, and `PatternError.message`.
-/

set_option autoImplicit false

namespace JsonSchema

/-- Why a text is not a regular expression. -/
inductive PatternError where
  | classEscape
  | classRange
  | classRangeEnd
  | classOpen
  | decimalEmpty
  | decimalTooLarge
  | hexEmpty
  | hexNoCharacter
  | hexDigit
  | escapeEnds
  | escapeUnknown
  | flagNegationDangling
  | flagNegationRepeated
  | flagRepeated
  | flagEnds
  | flagUnknown
  | groupNameRepeated
  | groupNameEmpty
  | groupNameCharacter
  | groupNameEnds
  | groupOpen
  | groupNotOpened
  | tooDeep (limit : Nat)
  | tooLarge (limit : Nat)
  | repetitionRange
  | repetitionOpen
  | repetitionOfNothing
  | boundaryOpen
  | boundaryUnknown
  | propertyForm
  | propertyUnknown
  | propertyValueUnknown
  | backreference
  | lookAround
  | unicodeDisabled
  | notUtf8
deriving DecidableEq, Repr

namespace PatternError

/-- The reason in words. -/
def reason : PatternError → String
  | classEscape => "invalid escape sequence found in character class"
  | classRange => "invalid character class range, the start must be <= the end"
  | classRangeEnd => "invalid range boundary, must be a literal"
  | classOpen => "unclosed character class"
  | decimalEmpty => "repetition quantifier expects a valid decimal"
  | decimalTooLarge => "decimal literal invalid"
  | hexEmpty => "hexadecimal literal empty"
  | hexNoCharacter => "hexadecimal literal is not a Unicode scalar value"
  | hexDigit => "invalid hexadecimal digit"
  | escapeEnds => "incomplete escape sequence, reached end of pattern prematurely"
  | escapeUnknown => "unrecognized escape sequence"
  | flagNegationDangling => "dangling flag negation operator"
  | flagNegationRepeated => "flag negation operator repeated"
  | flagRepeated => "duplicate flag"
  | flagEnds => "expected flag but got end of regex"
  | flagUnknown => "unrecognized flag"
  | groupNameRepeated => "duplicate capture group name"
  | groupNameEmpty => "empty capture group name"
  | groupNameCharacter => "invalid capture group character"
  | groupNameEnds => "unclosed capture group name"
  | groupOpen => "unclosed group"
  | groupNotOpened => "unopened group"
  | tooDeep limit =>
    "exceed the maximum number of nested parentheses/brackets (" ++ String.ofList (Nat.toDigits 10 limit) ++ ")"
  | tooLarge limit => "compiled regex exceeds size limit of " ++ String.ofList (Nat.toDigits 10 limit) ++ " bytes"
  | repetitionRange => "invalid repetition count range, the start must be <= the end"
  | repetitionOpen => "unclosed counted repetition"
  | repetitionOfNothing => "repetition operator missing expression"
  | boundaryOpen =>
    "special word boundary assertion is either unclosed or contains an invalid character"
  | boundaryUnknown =>
    "unrecognized special word boundary assertion, valid choices are: start, end, start-half or end-half"
  | propertyForm => "invalid Unicode character class"
  | propertyUnknown => "Unicode property not found"
  | propertyValueUnknown => "Unicode property value not found"
  | backreference => "backreferences are not supported"
  | lookAround => "look-around, including look-ahead and look-behind, is not supported"
  | unicodeDisabled => "Unicode not allowed here"
  | notUtf8 => "pattern can match invalid UTF-8"

/-- The report of the failure. -/
def message (e : PatternError) : String := "regex parse error: " ++ e.reason

end PatternError

end JsonSchema
