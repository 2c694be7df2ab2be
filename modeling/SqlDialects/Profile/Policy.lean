/-
The policies that profiles choose from: which characters names are made of, how quotes inside quotes are
written, how values are rendered in scripts, and how a call ends.
-/
import SqlDialects.Profile.Basic
import SqlDialects.Text.Character
import SqlDialects.Text.Hexadecimal

namespace SqlDialects

namespace Policy

/-! ## Characters of names -/

def isLetter (c : Char) : Bool := Character.isLetter c

def isLetterOrUnderscore (c : Char) : Bool := Character.isLetter c || c == '_'

def isLetterDigitOrUnderscore (c : Char) : Bool :=
  Character.isLetter c || Character.isDigit c || c == '_'

def isAlphanumericUnderscoreOrDollar (c : Char) : Bool :=
  Character.isAlphanumeric c || c == '_' || c == '$'

/-! ## Quotes inside quoted names -/

/-- The quotation mark of a pair that is one of the two usual marks on both sides. -/
def selfPaired? (q : Delimiters) : Option Char :=
  if q = ⟨"\"", "\""⟩ then some '"' else if q = ⟨"'", "'"⟩ then some '\'' else none

def brackets : Delimiters := ⟨"[", "]"⟩

/-- The usual marks are doubled inside themselves; nothing is done between other marks. -/
def doubleQuotes (q : Delimiters) (name : Text) : Text :=
  match selfPaired? q with
  | some mark => name.double mark
  | none => name

def undoubleQuotes (q : Delimiters) (body : Text) : Text :=
  match selfPaired? q with
  | some mark => body.undouble mark
  | none => body

/-- Between brackets, closing brackets are doubled. -/
def doubleBrackets (q : Delimiters) (name : Text) : Text :=
  if q = brackets then name.double ']' else doubleQuotes q name

def undoubleBrackets (q : Delimiters) (body : Text) : Text :=
  if q = brackets then body.undouble ']' else undoubleQuotes q body

/-! ## Quotes inside string literals -/

def doubleApostrophes (s : Text) : Text := s.double '\''

def undoubleApostrophes (s : Text) : Text := s.undouble '\''

/-- Apostrophes are doubled, then backslashes. -/
def doubleApostrophesAndBackslashes (s : Text) : Text := (s.double '\'').double '\\'

def undoubleApostrophesAndBackslashes (s : Text) : Text := (s.undouble '\\').undouble '\''

/-- A backslash goes before each apostrophe. -/
def backslashApostrophes (s : Text) : Text :=
  s.flatMap fun c => if c = '\'' then ['\\', '\''] else [c]

def unbackslashApostrophes (s : Text) : Text := s.contract '\\' '\'' '\''

/-! ## Values in scripts -/

/-- Two hexadecimal digits for each byte. -/
def hexOfBytes (content : List UInt8) : Text := content.flatMap fun b => Text.hexadecimal 2 b.toNat

/-- A UUID is written as a string literal, any other value as it is. -/
def quoteUuids (quote : Text → Text) (_ : Option ColumnType) (value : ScriptValue) (text : Text) : Text :=
  match value with
  | .uuid => quote text
  | _ => text

/-- Bytes are written by a rule of their own, other values as ever. -/
def withBytes (write : Text → Text) (quote : Text → Text) (type : Option ColumnType)
    (value : ScriptValue) (text : Text) : Text :=
  match value with
  | .bytes content => write (hexOfBytes content)
  | _ => quoteUuids quote type value text

def bytesAsNumber : (Text → Text) → Option ColumnType → ScriptValue → Text → Text :=
  withBytes fun hex => "0x" ++ hex

def bytesAsDecoding : (Text → Text) → Option ColumnType → ScriptValue → Text → Text :=
  withBytes fun hex => "decode('" ++ hex ++ "', 'hex')"

def bytesAsLiteral : (Text → Text) → Option ColumnType → ScriptValue → Text → Text :=
  withBytes fun hex => "X'" ++ hex ++ "'"

/-- Every value is written as a literal of the national character set. -/
def nationalLiteral (quote : Text → Text) (_ : Option ColumnType) (_ : ScriptValue) (text : Text) : Text :=
  'N' :: quote text

/-! ## Ends of calls -/

def noEnd (_ : Routine) : Text := []

/-- A function is selected from the table that is there for it. -/
def fromDual (r : Routine) : Text := if r.isFunction then "FROM DUAL" else []

def intoResult (_ : Routine) : Text := "INTO :result"

end Policy

namespace Profile

/-- A plain engine. -/
def basic : Profile where
  validStart := Policy.isLetter
  validPart := Policy.isLetterDigitOrUnderscore
  escapeIdentifier := Policy.doubleQuotes
  unescapeIdentifier := Policy.undoubleQuotes
  escapeString := Policy.doubleApostrophes
  unescapeString := Policy.undoubleApostrophes
  renderValue := Policy.quoteUuids
  callEnd := Policy.noEnd

end Profile

end SqlDialects
