import FormLang.CommandLine.Answer
import FormLang.Main
import FormLang.Proofs.Expr.Attribution
import FormLang.Proofs.Expr.Relocation
import FormLang.Proofs.Expr.Replacement
import FormLang.Proofs.Expr.Trace
import FormLang.Proofs.Binary64.Rounding
import FormLang.Proofs.Expr.Depth
import FormLang.Proofs.Binary64.Decimal
import FormLang.Proofs.Binary64.Display
import FormLang.Proofs.Calls.Regular
import FormLang.Proofs.Expr.Invariant
import FormLang.Proofs.Expr.Typing
import FormLang.Proofs.Expr.ReturnType
import FormLang.Proofs.Expr.Recovery
import FormLang.Proofs.Binary64.Equality
import FormLang.Proofs.Expr.Equality
import FormLang.Proofs.Expr.Origin
import FormLang.Proofs.Value.Idempotent
import FormLang.Proofs.Sources.Hidden
import FormLang.Proofs.Sources.History
import FormLang.Proofs.CommandLine.Order
import FormLang.Proofs.Decimal.Increment
import FormLang.Proofs.Value.NumberText
import FormLang.Proofs.Binary64.NearTie
import FormLang.Proofs.Binary64.Fixed
import FormLang.Proofs.Binary64.FixedReading
import FormLang.Proofs.Expr.Rounding
import FormLang.Proofs.Value.StrictText
import FormLang.Proofs.Date.Standard
import FormLang.Proofs.Value.DateText
import FormLang.Proofs.Date.Pattern
import FormLang.Proofs.Json.Pick
import FormLang.Proofs.Date.Runs
import FormLang.Proofs.Date.WallClock
import FormLang.Proofs.Sources.References
import FormLang.Proofs.Json.Address
import FormLang.Proofs.Expr.DeMorgan
import FormLang.Proofs.Expr.Omitted
import FormLang.Proofs.Expr.ComponentText
import FormLang.Proofs.Expr.Cast
import FormLang.Proofs.Expr.Concat
import FormLang.Proofs.Value.Json
import FormLang.Proofs.Decimal.Successor
import FormLang.Proofs.Calls.CommaList
import FormLang.Proofs.Calls.ItemTexts
import FormLang.Proofs.Calls.Links
