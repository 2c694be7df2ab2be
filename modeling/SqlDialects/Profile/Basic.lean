/-
The profile of an SQL engine: which marks it uses, how it stores names, which words begin its
statements, what it can do, and the policies by which it differs from others in more than a value.
Profiles are compared by their features alone, as policies cannot be compared.
-/
import SqlDialects.Column.Type
import SqlDialects.Routine.Basic
import SqlDialects.Word.Map

namespace SqlDialects

/-- A mark that opens something and the mark that closes it. -/
structure Delimiters where
  opening : Text
  closing : Text
deriving DecidableEq, Repr

/-! ## Choices -/

/-- In which case an engine stores a name. -/
inductive StoredCase
  | upper
  | lower
  | mixed
deriving DecidableEq, Repr

instance : Choice StoredCase where
  title := "IdentifierCase"
  all := [.upper, .lower, .mixed]
  label
    | .upper => "UPPER"
    | .lower => "LOWER"
    | .mixed => "MIXED"

/-- In which statements the name of a catalog or a schema may stand. -/
inductive NameUsage
  | nowhere
  | dml
  | ddl
  | everywhere
deriving DecidableEq, Repr

instance : Choice NameUsage where
  title := "ObjectUsage"
  all := [.nowhere, .dml, .ddl, .everywhere]
  label
    | .nowhere => "NONE"
    | .dml => "DML"
    | .ddl => "DDL"
    | .everywhere => "ALL"

/-- How several rows are inserted by one statement. -/
inductive MultiRowInsert
  | unsupported
  | groupRows
  | plain
deriving DecidableEq, Repr

instance : Choice MultiRowInsert where
  title := "MultiValueInsertMode"
  all := [.unsupported, .groupRows, .plain]
  label
    | .unsupported => "NOT_SUPPORTED"
    | .groupRows => "GROUP_ROWS"
    | .plain => "PLAIN"

/-- The convention that the codes of errors follow. -/
inductive StateCodes
  | sql99
  | xopen
deriving DecidableEq, Repr

instance : Choice StateCodes where
  title := "SQLStateType"
  all := [.sql99, .xopen]
  label
    | .sql99 => "SQL99"
    | .xopen => "XOPEN"

/-! ## Features -/

/-- What can be written down about an engine. The defaults are those of a plain engine. -/
structure Features where
  name : Text := "basic"
  -- quotes
  identifierQuotes : List Delimiters := [⟨"\"", "\""⟩]
  stringQuotes : List Delimiters := [⟨"'", "'"⟩]
  quoteReservedWords : Bool := true
  unquotedCase : StoredCase := .upper
  quotedCase : StoredCase := .mixed
  caseInsensitiveLookup : Bool := false
  supportsUnquotedMixedCase : Bool := true
  supportsQuotedMixedCase : Bool := true
  searchStringEscape : Text := []
  stringEscape : Text := []
  -- comments and scripts
  lineComments : List Text := ["--"]
  blockComments : Option Delimiters := some ⟨"/*", "*/"⟩
  scriptDelimiters : List Text := [";"]
  delimiterRedefiner : Option Text := none
  blockBounds : List Delimiters := []
  blockHeaders : List Text := []
  innerBlockStarts : List Text := []
  delimiterAfterQuery : Bool := false
  delimiterAfterBlock : Bool := false
  -- names
  catalogUsage : NameUsage := .nowhere
  schemaUsage : NameUsage := .nowhere
  catalogSeparator : Text := "."
  nameSeparator : Text := "."
  catalogFirst : Bool := true
  parameterMarks : List Text := []
  inClauseParentheses : Delimiters := ⟨"(", ")"⟩
  -- words
  queryKeywords : List Text := ["SELECT"]
  executeKeywords : List Text := []
  ddlKeywords : List Text := []
  dmlKeywords : List Text := []
  commitKeywords : List Text := []
  rollbackKeywords : List Text := []
  readOnlyKeywords : WordSet := WordSet.ofWords ["SELECT", "SHOW", "USE", "SET", "EXPLAIN"]
  tableQueryWords : WordSet := WordSet.ofWords ["FROM", "UPDATE", "INTO", "TABLE", "JOIN"]
  columnQueryWords : WordSet := WordSet.ofWords ["WHERE", "SET", "ON", "AND", "OR", "BY", "HAVING"]
  keywordIndents : WordMap Int := WordMap.empty
  -- abilities
  supportsSubqueries : Bool := true
  supportsAliasInSelect : Bool := false
  supportsAliasInUpdate : Bool := false
  supportsTableDropCascade : Bool := false
  supportsOrderByIndex : Bool := true
  supportsNestedComments : Bool := false
  supportsCommentQuery : Bool := false
  supportsNullability : Bool := true
  supportsAlterTable : Bool := true
  supportsInsertAllDefaultValues : Bool := false
  multiRowInsert : MultiRowInsert := .unsupported
  stateCodes : StateCodes := .sql99
  testQuery : Option Text := none
  dualTable : Option Text := none
  -- calls of routines
  bracketsAroundCall : Bool := false
  callIncludesOutput : Bool := true
deriving DecidableEq

namespace Features

def supportsIdentifierQuoting (f : Features) : Bool := !f.identifierQuotes.isEmpty

/-- An index can be made and dropped where a table can be altered. -/
def supportsIndexCreateAndDrop (f : Features) : Bool := f.supportsAlterTable

end Features

/-! ## Profiles -/

/-- A value that a script has to write, as far as its writing depends on what it is. -/
inductive ScriptValue
  | uuid
  | bytes (content : List UInt8)
  | other
deriving DecidableEq

/-- The features of an engine together with its policies. -/
structure Profile extends Features where
  /-- Whether a name may begin with the character without being quoted. -/
  validStart : Char → Bool
  /-- Whether the character may stand further on in a name that is not quoted. -/
  validPart : Char → Bool
  /-- What stands between the quotes of a name. -/
  escapeIdentifier : Delimiters → Text → Text
  /-- The name that stands between quotes. -/
  unescapeIdentifier : Delimiters → Text → Text
  /-- What stands between the quotes of a string literal. -/
  escapeString : Text → Text
  /-- The string that stands between the quotes of a literal. -/
  unescapeString : Text → Text
  /-- How a value that has already been turned into a text is written in a script, given how string
  literals are quoted. -/
  renderValue : (Text → Text) → Option ColumnType → ScriptValue → Text → Text
  /-- What follows the arguments of a call. -/
  callEnd : Routine → Text

namespace Profile

/-- No field of a profile can be given another value. -/
def assign (_ : Profile) (field : Text) : Except Error Profile := .error (.fixedField field)

end Profile

end SqlDialects
