/-
The types of columns, as the metadata of a data source reports them.
-/
import SqlDialects.Choice

namespace SqlDialects

/-- The broad category of the values of a type. -/
inductive DataKind
  | string
  | numeric
  | boolean
  | datetime
  | binary
  | content
  | other
deriving DecidableEq, Repr

instance : Choice DataKind where
  title := "DataKind"
  all := [.string, .numeric, .boolean, .datetime, .binary, .content, .other]
  label
    | .string => "STRING"
    | .numeric => "NUMERIC"
    | .boolean => "BOOLEAN"
    | .datetime => "DATETIME"
    | .binary => "BINARY"
    | .content => "CONTENT"
    | .other => "OTHER"

/-- A named type, possibly defined by a user. -/
structure UserType where
  name : Option Text
  precision : Option Int := none
  scale : Option Int := none
  maxLength : Int := 0
deriving DecidableEq, Repr

/-- The type of a column. -/
structure ColumnType where
  typeName : Option Text
  kind : DataKind := .other
  maxLength : Int := 0
  precision : Option Int := none
  scale : Option Int := none
  /-- The user's type that the column was declared with. -/
  userType : Option UserType := none
deriving DecidableEq, Repr

/-- How a column type shows itself. -/
def ColumnType.summary (c : ColumnType) : Text :=
  "ColumnTypeInfo(type='" ++ c.typeName.getD "None" ++ "', kind=" ++ Choice.label c.kind ++ ")"

end SqlDialects
