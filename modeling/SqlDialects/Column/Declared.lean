/-
The column types that can be declared by name, and the column type that each declaration stands for.
-/
import SqlDialects.Column.Type

namespace SqlDialects

/-- What the arguments of a declaration say. -/
inductive TypeParameters
  | nothing
  /-- The greatest length. -/
  | length
  /-- The precision, then the scale. -/
  | precision
  /-- The labels of an enumeration, the longest of which gives the length. -/
  | labels
deriving DecidableEq, Repr

/-- A type that can be declared. -/
structure DeclaredType where
  typeName : Text
  kind : DataKind
  takes : TypeParameters
deriving DecidableEq, Repr

/-- An argument of a declaration. -/
inductive TypeArgument
  | absent
  | number (n : Int)
  | label (s : Text)
deriving DecidableEq, Repr

namespace TypeArgument

def number? : TypeArgument → Option Int
  | number n => some n
  | _ => none

def labelLength : TypeArgument → Int
  | label s => s.length
  | _ => 0

end TypeArgument

/-- The arguments of a declaration: those known by their places and those known by their names. -/
structure TypeArguments where
  placed : List TypeArgument := []
  named : List (Text × TypeArgument) := []
deriving DecidableEq, Repr

namespace TypeArguments

/-- The number at a place, or else under a name. -/
def number? (a : TypeArguments) (place : Nat) (name : Text) : Option Int :=
  (a.placed[place]?.or (a.named.lookup name)).bind TypeArgument.number?

/-- The length of the longest label. -/
def longestLabel (a : TypeArguments) : Int :=
  a.placed.foldl (fun n arg => max n arg.labelLength) 0

end TypeArguments

namespace DeclaredType

/-- The column type of a declaration. -/
def describe (t : DeclaredType) (a : TypeArguments) : ColumnType :=
  let bare : ColumnType := { typeName := some t.typeName, kind := t.kind }
  match t.takes with
  | .nothing => bare
  | .length => { bare with maxLength := (a.number? 0 "length").getD 0 }
  | .precision =>
    { bare with precision := a.number? 0 "precision", scale := a.number? 1 "scale" }
  | .labels => { bare with maxLength := a.longestLabel }

/-- The declarable types by name. -/
def all : List (String × DeclaredType) :=
  [("BIGINT", ⟨"BIGINT", .numeric, .nothing⟩),
    ("BINARY", ⟨"BINARY", .binary, .length⟩),
    ("BLOB", ⟨"BLOB", .binary, .length⟩),
    ("BOOLEAN", ⟨"BOOLEAN", .boolean, .nothing⟩),
    ("BigInteger", ⟨"BIGINT", .numeric, .nothing⟩),
    ("Boolean", ⟨"BOOLEAN", .boolean, .nothing⟩),
    ("CHAR", ⟨"CHAR", .string, .length⟩),
    ("CLOB", ⟨"CLOB", .string, .length⟩),
    ("DATE", ⟨"DATE", .datetime, .nothing⟩),
    ("DATETIME", ⟨"DATETIME", .datetime, .nothing⟩),
    ("DECIMAL", ⟨"DECIMAL", .numeric, .precision⟩),
    ("DOUBLE", ⟨"DOUBLE", .other, .nothing⟩),
    ("DOUBLE_PRECISION", ⟨"DOUBLE_PRECISION", .other, .nothing⟩),
    ("Date", ⟨"DATE", .datetime, .nothing⟩),
    ("DateTime", ⟨"TIMESTAMP", .datetime, .nothing⟩),
    ("Double", ⟨"DOUBLE", .other, .nothing⟩),
    ("Enum", ⟨"VARCHAR", .string, .labels⟩),
    ("FLOAT", ⟨"FLOAT", .other, .nothing⟩),
    ("Float", ⟨"FLOAT", .other, .nothing⟩),
    ("INT", ⟨"INTEGER", .numeric, .nothing⟩),
    ("INTEGER", ⟨"INTEGER", .numeric, .nothing⟩),
    ("Integer", ⟨"INTEGER", .numeric, .nothing⟩),
    ("Interval", ⟨"TYPE_DECORATOR", .datetime, .nothing⟩),
    ("JSON", ⟨"JSON", .other, .nothing⟩),
    ("LargeBinary", ⟨"BLOB", .binary, .length⟩),
    ("MatchType", ⟨"BOOLEAN", .boolean, .nothing⟩),
    ("NCHAR", ⟨"NCHAR", .string, .length⟩),
    ("NUMERIC", ⟨"NUMERIC", .numeric, .precision⟩),
    ("NVARCHAR", ⟨"NVARCHAR", .string, .length⟩),
    ("NullType", ⟨"NULL", .other, .nothing⟩),
    ("Numeric", ⟨"NUMERIC", .numeric, .precision⟩),
    ("PickleType", ⟨"TYPE_DECORATOR", .other, .nothing⟩),
    ("REAL", ⟨"REAL", .other, .nothing⟩),
    ("SMALLINT", ⟨"SMALLINT", .numeric, .nothing⟩),
    ("SmallInteger", ⟨"SMALLINT", .numeric, .nothing⟩),
    ("String", ⟨"VARCHAR", .string, .length⟩),
    ("TEXT", ⟨"TEXT", .string, .length⟩),
    ("TIME", ⟨"TIME", .datetime, .nothing⟩),
    ("TIMESTAMP", ⟨"TIMESTAMP", .datetime, .nothing⟩),
    ("Text", ⟨"TEXT", .string, .length⟩),
    ("Time", ⟨"TIME", .datetime, .nothing⟩),
    ("TypeEngine", ⟨"TYPEENGINE", .other, .nothing⟩),
    ("UUID", ⟨"UUID", .other, .nothing⟩),
    ("Unicode", ⟨"VARCHAR", .string, .length⟩),
    ("UnicodeText", ⟨"TEXT", .string, .length⟩),
    ("UserDefinedType", ⟨"USER_DEFINED", .other, .nothing⟩),
    ("Uuid", ⟨"UUID", .other, .nothing⟩),
    ("VARBINARY", ⟨"VARBINARY", .binary, .length⟩),
    ("VARCHAR", ⟨"VARCHAR", .string, .length⟩)]

/-- The column type that is declared with a name and arguments. -/
def ofName? (name : Text) (a : TypeArguments) : Option ColumnType :=
  (all.find? fun e => e.1.toList = name).map fun e => e.2.describe a

end DeclaredType

end SqlDialects
