import ExprLang.Number.Digits

/-!
# Errors of patterns

What can be wrong with the text of a regular expression.
-/

namespace ExprLang

/-- Why a text is no regular expression. -/
inductive PatternError where
  | captureNameInvalid | captureNameMissing | captureNameRepeated | captureNameUnclosed
  | classInvalidEscape | classInvalidRange | classRangeEnd | classUnclosed
  | countInvalid | countMissing | countTooLarge | countUnclosed
  | escapeCodeInvalid | escapeDigitInvalid | escapeUnfinished | escapeUnknown
  | flagAfterDash | flagDashRepeated | flagRepeated | flagUnknown | flagsUnclosed
  | groupUnclosed | groupUnopened
  | lookAround | backreference
  | nothingToRepeat
  | propertyInvalid | propertyUnknown
  | wordEdgeUnclosed | wordEdgeUnknown
  /-- without the flag `u`, what is asked for is not made of whole characters -/
  | notUtf8
  /-- without the flag `u`, a class has characters beyond ASCII or asks for their properties -/
  | unicodeNotAllowed
  | nestedTooDeep (limit : Nat)
  | tooLarge (limit : Nat)
  deriving DecidableEq, Repr

namespace PatternError

def text : PatternError → String
  | captureNameInvalid => "invalid capture group character"
  | captureNameMissing => "empty capture group name"
  | captureNameRepeated => "duplicate capture group name"
  | captureNameUnclosed => "unclosed capture group name"
  | classInvalidEscape => "invalid escape sequence found in character class"
  | classInvalidRange => "invalid character class range, the start must be <= the end"
  | classRangeEnd => "invalid range boundary, must be a literal"
  | classUnclosed => "unclosed character class"
  | countInvalid => "invalid repetition count range, the start must be <= the end"
  | countMissing => "repetition quantifier expects a valid decimal"
  | countTooLarge => "decimal literal invalid"
  | countUnclosed => "unclosed counted repetition"
  | escapeCodeInvalid => "hexadecimal literal is not a Unicode scalar value"
  | escapeDigitInvalid => "invalid hexadecimal digit"
  | escapeUnfinished => "incomplete escape sequence, reached end of pattern prematurely"
  | escapeUnknown => "unrecognized escape sequence"
  | flagAfterDash => "dangling flag negation operator"
  | flagDashRepeated => "flag negation operator repeated"
  | flagRepeated => "duplicate flag"
  | flagUnknown => "unrecognized flag"
  | flagsUnclosed => "expected flag but got end of regex"
  | groupUnclosed => "unclosed group"
  | groupUnopened => "unopened group"
  | lookAround => "look-around, including look-ahead and look-behind, is not supported"
  | backreference => "backreferences are not supported"
  | nothingToRepeat => "repetition operator missing expression"
  | propertyInvalid => "invalid Unicode character class"
  | propertyUnknown => "Unicode property not found"
  | wordEdgeUnclosed =>
    "special word boundary assertion is either unclosed or contains an invalid character"
  | wordEdgeUnknown =>
    "unrecognized special word boundary assertion, valid choices are: start, end, start-half or end-half"
  | notUtf8 => "pattern can match invalid UTF-8"
  | unicodeNotAllowed => "Unicode not allowed here"
  | nestedTooDeep limit =>
    "exceeded the maximum number of nested parentheses/brackets (" ++ String.ofList (Digits.write 10 limit 1) ++ ")"
  | tooLarge limit => "compiled regex exceeds size limit of " ++ String.ofList (Digits.write 10 limit 1) ++ " bytes"

end PatternError

/-- Something read from a pattern, or what is wrong with the pattern. -/
abbrev Checked := Except PatternError

end ExprLang
