import ExprLang.Environment
import ExprLang.Syntax.Session
import ExprLang.Proofs.Syntax.Grammar
import ExprLang.Proofs.Syntax.Reading
import ExprLang.Proofs.Syntax.Height
import ExprLang.Proofs.Number.Exact
import ExprLang.Proofs.Number.Bits
import ExprLang.Proofs.Value.Lookup
import ExprLang.Proofs.Value.Pairing
import ExprLang.Proofs.Value.Structure
import ExprLang.Proofs.Number.Digits
import ExprLang.Proofs.Number.Rounding
import ExprLang.Proofs.Value.Comparison
import ExprLang.Proofs.Value.Equality
import ExprLang.Proofs.Number.Decimal
import ExprLang.Proofs.Number.Numeral
import ExprLang.Proofs.Text.Quoted
import ExprLang.Proofs.Token.Recognise
import ExprLang.Proofs.Token.Scan
import ExprLang.Proofs.Token.Layout
import ExprLang.Proofs.Eval.Notes
import ExprLang.Proofs.Eval.Operands
import ExprLang.Proofs.Value.Entries
import ExprLang.Proofs.Value.Spelling
import ExprLang.Proofs.Value.RoundTrip
import ExprLang.Proofs.Value.Address
import ExprLang.Proofs.Eval.Membership
import ExprLang.Proofs.Number.Order
import ExprLang.Proofs.Syntax.Nesting
import ExprLang.Proofs.Syntax.Session
import ExprLang.Proofs.Number.Truncate
import ExprLang.Proofs.Value.Order
import ExprLang.Proofs.Token.Lexical
import ExprLang.Proofs.Token.Spaced
import ExprLang.Proofs.Syntax.Lookahead
import ExprLang.Proofs.Syntax.Completion
import ExprLang.Proofs.Syntax.Counting
import ExprLang.Proofs.Syntax.FirstFault
import ExprLang.Proofs.Eval.Pairwise
import ExprLang.Proofs.Token.Marks
import ExprLang.Proofs.Token.Extent
import ExprLang.Proofs.Token.BeforeBlank
import ExprLang.Proofs.Token.Joining
import ExprLang.Proofs.Token.Fragment
import ExprLang.Proofs.Eval.Contexts
import ExprLang.Proofs.Eval.Registration
import ExprLang.Proofs.Syntax.Places
import ExprLang.Proofs.Syntax.Nodes
import ExprLang.Proofs.Eval.Errors
import ExprLang.Proofs.Eval.Guards
import ExprLang.Proofs.Eval.History
import ExprLang.Proofs.Eval.Integers
import ExprLang.Proofs.Token.Prefixed
import ExprLang.Proofs.Syntax.Depth
import ExprLang.Proofs.Eval.Negation
import ExprLang.Proofs.Number.Cut
import ExprLang.Proofs.Library.Conversion
import ExprLang.Proofs.Syntax.Calls
import ExprLang.Proofs.Eval.Containers
import ExprLang.Proofs.Eval.Relations
import ExprLang.Proofs.Value.Identity
import ExprLang.Proofs.Library.Rejection
import ExprLang.Proofs.Eval.Occurrence
import ExprLang.Proofs.Text.Order
import ExprLang.Proofs.Value.Insertion
import ExprLang.Proofs.Eval.MapLiteral
import ExprLang.Proofs.Number.Positional
import ExprLang.Proofs.Text.Escapes
import ExprLang.Proofs.Token.Tiling
import ExprLang.Proofs.Syntax.Spans
import ExprLang.Proofs.Syntax.Longest
import ExprLang.Proofs.Library.Numerals
import ExprLang.Proofs.Syntax.Routes
