import SqlDialects.Choice
import SqlDialects.Column.Declared
import SqlDialects.Column.Feature
import SqlDialects.Column.Suffix
import SqlDialects.Command.Arguments
import SqlDialects.Command.Outcome
import SqlDialects.Dialect.Catalog
import SqlDialects.Dialect.Transaction
import SqlDialects.Log.Logger
import SqlDialects.Main
import SqlDialects.Profile.BuiltIn
import SqlDialects.Profile.Literal
import SqlDialects.Proofs.Column.Cap
import SqlDialects.Proofs.Column.Length
import SqlDialects.Proofs.Dialect.Comment
import SqlDialects.Proofs.Dialect.FirstWord
import SqlDialects.Proofs.Dialect.Identifier
import SqlDialects.Proofs.Dialect.LetterCase
import SqlDialects.Proofs.Dialect.QualifiedName
import SqlDialects.Proofs.Dialect.Recognition
import SqlDialects.Proofs.Dialect.Sharing
import SqlDialects.Proofs.Dialect.Shelter
import SqlDialects.Proofs.Dialect.StoredName
import SqlDialects.Proofs.Dialect.Transaction
import SqlDialects.Proofs.Dialect.Trimming
import SqlDialects.Proofs.Dialect.Unquoting
import SqlDialects.Proofs.Profile.Bytes
import SqlDialects.Proofs.Profile.Literal
import SqlDialects.Proofs.Routine.BindName
import SqlDialects.Proofs.Routine.Call
import SqlDialects.Proofs.Statement.Alike
import SqlDialects.Proofs.Statement.Comment.Closing
import SqlDialects.Proofs.Statement.Comment.Line
import SqlDialects.Proofs.Statement.Comment.Mark
import SqlDialects.Proofs.Statement.Comment.Uncommented
import SqlDialects.Proofs.Statement.Cut
import SqlDialects.Proofs.Statement.Dollar
import SqlDialects.Proofs.Statement.Filler
import SqlDialects.Proofs.Statement.LetterCase
import SqlDialects.Proofs.Statement.Lexeme
import SqlDialects.Proofs.Statement.Meaning
import SqlDialects.Proofs.Statement.Outline
import SqlDialects.Proofs.Statement.Quoted
import SqlDialects.Proofs.Statement.Rereading
import SqlDialects.Proofs.Statement.TimeZone
import SqlDialects.Proofs.Statement.Verb
import SqlDialects.Proofs.Statement.Word
import SqlDialects.Proofs.Text.Character
import SqlDialects.Proofs.Text.LetterCase
import SqlDialects.Proofs.Text.Quotation
import SqlDialects.Proofs.Text.UpperCase
import SqlDialects.Proofs.Word.Agreement
import SqlDialects.Proofs.Word.History
import SqlDialects.Routine.BindName
import SqlDialects.Routine.Call
import SqlDialects.Statement.Comment.Block
import SqlDialects.Statement.Comment.Line
import SqlDialects.Statement.Lexeme
import SqlDialects.Statement.Reader
import SqlDialects.Text.CaseMapping
import SqlDialects.Text.Quoted
import SqlDialects.Word.Map
import SqlDialects.Word.Registry
import SqlDialects.Word.Reserved
import SqlDialects.Word.Standard
