import PlainQuiz.Main
import PlainQuiz.Proofs.Text.Trim
import PlainQuiz.Proofs.Block.Line
import PlainQuiz.Proofs.Block.Reading
import PlainQuiz.Proofs.Block.Canonical
import PlainQuiz.Proofs.Block.RoundTrip
import PlainQuiz.Proofs.Text.LetterCase
import PlainQuiz.Proofs.Terminal.Chips
import PlainQuiz.Proofs.Truth
import PlainQuiz.Proofs.Terminal.Blanks
import PlainQuiz.Proofs.Terminal.ChipOrder
import PlainQuiz.Proofs.Review
import PlainQuiz.Proofs.Program.Strict
import PlainQuiz.Proofs.Block.Shape
import PlainQuiz.Proofs.Terminal.Answerable
import PlainQuiz.Proofs.Text.Utf8
import PlainQuiz.Proofs.Program.Accounting
import PlainQuiz.Proofs.Block.Layout
import PlainQuiz.Proofs.Markdown.Layout
import PlainQuiz.Proofs.Document
import PlainQuiz.Proofs.Block.Captured
import PlainQuiz.Proofs.Markdown.Fences
import PlainQuiz.Proofs.Markdown.SourceLines
import PlainQuiz.Proofs.Markdown.LongFences
import PlainQuiz.Proofs.References
import PlainQuiz.Proofs.Terminal.IdLine
import PlainQuiz.Proofs.Block.Feed
import PlainQuiz.Proofs.Access
import PlainQuiz.Proofs.Selection
import PlainQuiz.Proofs.BlankOrder
import PlainQuiz.Proofs.Terminal.Filling
import PlainQuiz.Proofs.Terminal.OneLine
import PlainQuiz.Proofs.Terminal.Tray
import PlainQuiz.Proofs.Terminal.Attempts
import PlainQuiz.Proofs.Terminal.Labels
import PlainQuiz.Proofs.Terminal.Respelling
import PlainQuiz.Proofs.Files.Loading
import PlainQuiz.Proofs.Block.Moves
import PlainQuiz.Proofs.Gaps
