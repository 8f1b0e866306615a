import ExprLang.Library.Collection
import ExprLang.Regex.Pattern

/-!
# The standard library

The functions that expressions have when nothing else is said. One of them reads patterns, and what a pattern matches is
a parameter; `standard` takes the regular expressions for it.
-/

namespace ExprLang.Library

/-- The registry of the standard functions, where patterns mean what the matcher says. -/
def standardWith (matcher : Matcher) : Registry :=
  .ofList [size, startsWith, endsWith, contains, matching matcher, int, uint, double, string]

/-- The registry of the standard functions. A text matches a regular expression if some stretch of it does. -/
def standard : Registry := standardWith Regex.matcher

end ExprLang.Library
