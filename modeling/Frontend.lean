import Frontend.Main
import Frontend.Proofs.Diagnostic.Marker
import Frontend.Proofs.Diagnostic.Site
import Frontend.Proofs.Lexer.Chunk
import Frontend.Proofs.Lexer.Decoding
import Frontend.Proofs.Lexer.Number
import Frontend.Proofs.Lexer.OperatorRun
import Frontend.Proofs.Lexer.Progress
import Frontend.Proofs.Lexer.Spacing
import Frontend.Proofs.Lexer.Window
import Frontend.Proofs.Locale
import Frontend.Proofs.Source.LineQuery
import Frontend.Proofs.Source.Registered
import Frontend.Proofs.Source.Tiling
import Frontend.Proofs.TestFile.Divider
import Frontend.Proofs.TestFile.LineNumber
import Frontend.Proofs.TestRun.TokenDump
import Frontend.Proofs.TestRun.Verdict
import Frontend.Proofs.Text.Numeral
import Frontend.Proofs.Ty.CallStack
import Frontend.Proofs.Ty.Identity
import Frontend.Proofs.Ty.Name
import Frontend.Proofs.Ty.Replacement
import Frontend.Proofs.Ty.Stepwise
import Frontend.Proofs.Ty.Substitution
import Frontend.Token.Wording
import Frontend.Proofs.TestRun.Closing
