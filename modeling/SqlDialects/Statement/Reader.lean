/-
Reading statements as an engine does: taking the comments out and finding the first word. Comments that
the lexer does not know by itself are taken out before the statement is cut into lexemes.
-/
import SqlDialects.Profile.Basic
import SqlDialects.Statement.Comment.Block
import SqlDialects.Statement.Comment.Line
import SqlDialects.Statement.Lexeme

namespace SqlDialects

/-- What has to be known of a statement in order to classify it. -/
structure Reader where
  stripComments : Text → Text
  leadingWord : Text → Text

/-! ## Lexemes -/

namespace Lexeme

/-- What a lexeme leaves behind when comments are taken out: a comment leaves the line feed that it ends
with, or else a space. -/
def withoutComment (l : Lexeme) : Text :=
  match l.kind with
  | .comment => if l.text.endsWith "\n" then "\n" else " "
  | _ => l.text

/-- Whether the lexeme stands for nothing in a statement. -/
def isFiller (l : Lexeme) : Bool := l.kind = .blank || l.kind = .comment

/-- The text of a keyword or a name that is a single word, otherwise nothing. -/
def word (l : Lexeme) : Text :=
  if (l.kind = .keyword || l.kind = .name) && l.text.all Character.isWordChar then l.text else []

end Lexeme

/-- The first word of a text, behind blanks and comments; nothing if something else comes first. -/
def leadingWord (s : Text) : Text :=
  match (lexemes s).find? fun l => !l.isFiller with
  | some l => l.word
  | none => []

/-! ## Profiles -/

namespace Profile

/-- The marks of line comments that the lexer does not know. -/
def extraLineComments (p : Profile) : List Text :=
  p.lineComments.filter fun m => !(["--", "#"] : List Text).contains m

/-- The block comments that the lexer would not read as the engine does. -/
def extraBlockComments (p : Profile) : Option BlockComments :=
  match p.blockComments with
  | some d =>
    if p.supportsNestedComments || d ≠ ⟨"/*", "*/"⟩ then
      some ⟨d.opening, d.closing, p.supportsNestedComments, p.lineComments⟩
    else none
  | none => none

/-- The statement without the comments that the lexer does not know. -/
def eraseExtraComments (p : Profile) (s : Text) : Text :=
  let s := if p.extraLineComments.isEmpty then s else eraseLineComments p.extraLineComments s
  match p.extraBlockComments with
  | some m => m.erase s
  | none => s

/-- The statement without comments, and without blanks at its ends. -/
def stripComments (p : Profile) (s : Text) : Text :=
  Text.trim ((lexemes (p.eraseExtraComments s)).flatMap Lexeme.withoutComment)

/-- How the engine of the profile reads statements. -/
def reader (p : Profile) : Reader := ⟨p.stripComments, SqlDialects.leadingWord⟩

end Profile

/-- A reader that keeps comments and finds the same word everywhere. -/
def Reader.constant (word : Text) : Reader := ⟨id, fun _ => word⟩

/-- The first word of a statement from which the comments have been taken out. -/
def Reader.firstWord (r : Reader) (s : Text) : Text := r.leadingWord (r.stripComments s)

end SqlDialects
