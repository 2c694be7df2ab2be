/-
The commands that can be given, and what each answers.
-/
import SqlDialects.Dialect.Catalog
import SqlDialects.Dialect.Identifier
import SqlDialects.Dialect.Transaction
import SqlDialects.Profile.Literal

namespace SqlDialects

inductive Command
  | quote
  | unquote
  | literal
  | classify
  | complete
  | transaction
deriving DecidableEq, Repr

namespace Command

def all : List Command := [.quote, .unquote, .literal, .classify, .complete, .transaction]

def name : Command → Text
  | quote => "quote"
  | unquote => "unquote"
  | literal => "literal"
  | classify => "classify"
  | complete => "complete"
  | transaction => "txn"

def ofName? (name : Text) : Option Command := all.find? fun c => c.name = name

/-- What a command answers about a text. The two switches are for quoting names. -/
def answer (c : Command) (d : Dialect) (text : Text) (caseSensitive forceQuotes : Bool) : Text :=
  match c with
  | quote => d.quote text caseSensitive forceQuotes
  | unquote => d.profile.unquote text
  | literal => d.profile.quoteLiteral text
  | classify => (d.words.classify text).elim "UNKNOWN" Choice.label
  | complete => Text.join "\n" (d.words.matchesOf text)
  | transaction => if d.isModifying text then "modifying" else "read-only"

/-- What a command answers when it may lack its text. Quoting and judging nothing come to nothing; the
other commands cannot do without. -/
def answer? (c : Command) (d : Dialect) (text : Option Text) (caseSensitive forceQuotes : Bool) :
    Except Error Text :=
  match text, c with
  | some text, c => .ok (c.answer d text caseSensitive forceQuotes)
  | none, literal => .error (.missingText .replace)
  | none, classify | none, complete => .error (.missingText .upper)
  | none, c => .ok (c.answer d [] caseSensitive forceQuotes)

/-- The answer of the command of a name, with a dialect that has been looked up before. -/
def answerByName (command : Text) (d : Dialect) (text : Text) (caseSensitive forceQuotes : Bool) :
    Except Error Text :=
  match ofName? command with
  | some c => .ok (c.answer d text caseSensitive forceQuotes)
  | none => .error (.unknownCommand command)

/-- The answer of the command and the dialect of the given names, and the catalog afterwards. The
dialect is looked up first. -/
def run (catalog : Catalog) (command dialect text : Text) (caseSensitive forceQuotes : Bool) :
    Except Error Text × Catalog :=
  ((catalog.get dialect).1.bind fun s => answerByName command s.dialect text caseSensitive forceQuotes,
    (catalog.get dialect).2)

end Command

end SqlDialects
