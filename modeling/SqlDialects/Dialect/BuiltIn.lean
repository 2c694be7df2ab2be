/-
The built-in dialects. Each knows the standard words, the words that its engine reserves, and some words
of its own. They are found by their names or aliases in any case of letters.
-/
import SqlDialects.Dialect.Basic
import SqlDialects.Profile.BuiltIn
import SqlDialects.Word.Reserved
import SqlDialects.Word.Standard

namespace SqlDialects

/-- A builder with the standard words and a list of reserved words, which are keywords. -/
def Builder.standard (reserved : List Text) : Builder :=
  (((Builder.addKeywords {} Standard.keywords).addKeywords reserved).addFunctions
    Standard.functions).addTypes Standard.types

namespace Dialect

def generic : Dialect := ofBuilder Profile.generic (Builder.standard Reserved.generic) [] [] []

def postgres : Dialect :=
  ofBuilder Profile.postgres (Builder.standard Reserved.postgresql)
    ["ILIKE", "RETURNING", "LISTEN", "NOTIFY", "VACUUM", "ANALYZE", "COPY", "ABORT"]
    ["NOW", "STRING_AGG", "ARRAY_AGG", "GENERATE_SERIES", "TO_CHAR", "DATE_TRUNC",
      "JSONB_BUILD_OBJECT"]
    ["TEXT", "SERIAL", "BIGSERIAL", "JSON", "JSONB", "UUID", "BYTEA", "INET", "TIMESTAMPTZ"]

def mysql : Dialect :=
  ofBuilder Profile.mysql (Builder.standard Reserved.mysql)
    ["DESCRIBE", "HELP"]
    ["CONCAT", "IFNULL", "GROUP_CONCAT", "DATE_FORMAT", "NOW", "LAST_INSERT_ID"]
    ["TINYINT", "MEDIUMINT", "TEXT", "LONGTEXT", "BLOB", "DATETIME", "ENUM", "JSON"]

def sqlite : Dialect :=
  ofBuilder Profile.sqlite (Builder.standard Reserved.sqlite)
    ["PRAGMA", "VACUUM", "ATTACH", "DETACH"]
    ["IFNULL", "LENGTH", "SUBSTR", "DATETIME", "STRFTIME", "GROUP_CONCAT", "JSON_EXTRACT"]
    ["TEXT", "BLOB", "REAL"]

def oracle : Dialect :=
  ofBuilder Profile.oracle (Builder.standard Reserved.oracle)
    ["CONNECT", "START", "PRIOR", "MINUS"]
    ["NVL", "NVL2", "DECODE", "TO_CHAR", "TO_DATE", "SYSDATE", "LISTAGG"]
    ["VARCHAR2", "NVARCHAR2", "NUMBER", "CLOB", "NCLOB", "BLOB", "RAW"]

def mssql : Dialect :=
  ofBuilder Profile.mssql (Builder.standard Reserved.mssql)
    ["TOP", "NOLOCK", "OUTPUT"]
    ["GETDATE", "ISNULL", "LEN", "NEWID", "DATEADD", "DATEDIFF"]
    ["NVARCHAR", "DATETIME2", "UNIQUEIDENTIFIER", "MONEY", "VARBINARY"]

end Dialect

/-! ## Engines -/

/-- An engine with a built-in dialect. -/
inductive Engine
  | generic
  | postgres
  | mysql
  | sqlite
  | oracle
  | mssql
deriving DecidableEq, Repr

namespace Engine

def all : List Engine := [.generic, .mssql, .mysql, .oracle, .postgres, .sqlite]

def name : Engine → Text
  | generic => "generic"
  | postgres => "postgres"
  | mysql => "mysql"
  | sqlite => "sqlite"
  | oracle => "oracle"
  | mssql => "mssql"

def dialect : Engine → Dialect
  | generic => .generic
  | postgres => .postgres
  | mysql => .mysql
  | sqlite => .sqlite
  | oracle => .oracle
  | mssql => .mssql

/-- The list of reserved words that the dialect starts with, by name; none for the generic list. -/
def reservedName? : Engine → Option Text
  | generic => none
  | postgres => some "postgresql"
  | mysql => some "mysql"
  | sqlite => some "sqlite"
  | oracle => some "oracle"
  | mssql => some "mssql"

/-- Other names of engines. -/
def aliases : List (Text × Text) :=
  [("basic", "generic"), ("postgresql", "postgres"), ("sqlserver", "mssql")]

/-- The name under which an engine is kept, if it is one at all. -/
def key (name : Text) : Text := (aliases.lookup name.lower).getD name.lower

/-- The engine with a name or an alias. -/
def ofName? (name : Text) : Option Engine := all.find? fun e => e.name = key name

/-- The engine with a name or an alias, or the complaint that there is none. -/
def ofName (name : Text) : Except Error Engine :=
  match ofName? name with
  | some e => .ok e
  | none => .error (.unknownDialect name)

end Engine

/-- The names of the built-in dialects in ascending order. -/
def availableDialects : List Text := Engine.all.map Engine.name

end SqlDialects
