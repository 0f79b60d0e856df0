import HeaderNotes.Main
import HeaderNotes.Proofs.Header.Parts
import HeaderNotes.Proofs.Header.Lookahead
import HeaderNotes.Proofs.Header.Grammar
import HeaderNotes.Proofs.Header.AsyncPrefix
import HeaderNotes.Proofs.Source.Comments
import HeaderNotes.Proofs.Source.Agreement
import HeaderNotes.Proofs.Source.Stability
import HeaderNotes.Proofs.Source.Resumption
import HeaderNotes.Proofs.Source.ControlFlow
import HeaderNotes.Proofs.Files.Locating
import HeaderNotes.Proofs.Files.Candidates
import HeaderNotes.Proofs.Batch.Treatment
import HeaderNotes.Proofs.Batch.Effect
import HeaderNotes.Proofs.Batch.DryRun
import HeaderNotes.Proofs.Batch.Repetition
import HeaderNotes.Proofs.Command.Check
import HeaderNotes.Proofs.Note.Comment
import HeaderNotes.Proofs.Batch.Interleaving
import HeaderNotes.Proofs.Text.Bytes
import HeaderNotes.Proofs.Files.Selecting
import HeaderNotes.Proofs.Settings.Tokens
import HeaderNotes.Proofs.Files.Writing
import HeaderNotes.Proofs.Settings.RoundTrip
import HeaderNotes.Proofs.Source.Joining
import HeaderNotes.Proofs.Files.Replacing
import HeaderNotes.Proofs.Header.Margins
import HeaderNotes.Proofs.Source.LineEndings
import HeaderNotes.Proofs.Source.Reach
import HeaderNotes.Proofs.Batch.Rereading
import HeaderNotes.Proofs.Batch.Accounting
import HeaderNotes.Proofs.Settings.Precedence
