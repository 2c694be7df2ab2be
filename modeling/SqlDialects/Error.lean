/-
What can go wrong, and how it is reported.
-/
import SqlDialects.Text.Quoted

namespace SqlDialects

/-- How a number is kept: in binary or in decimal places. -/
inductive Radix
  | binary
  | decimal
deriving DecidableEq, Repr

/-- What is done to a text. -/
inductive TextOperation
  | lower
  | upper
  | replace
deriving DecidableEq, Repr

def TextOperation.name : TextOperation → Text
  | lower => "lower"
  | upper => "upper"
  | replace => "replace"

inductive Error
  /-- No built-in dialect has the name. -/
  | unknownDialect (name : Text)
  /-- No list of reserved words is kept under the name. -/
  | noReservedWords (name : Text)
  | unknownCommand (name : Text)
  /-- A label that none of the choices of the title bears. -/
  | invalidChoice (label title : Text)
  /-- A field of a profile cannot be given another value. -/
  | fixedField (field : Text)
  | infiniteLimit (radix : Radix)
  | undefinedLimit (radix : Radix)
  /-- An operation on a text that has not been given. -/
  | missingText (operation : TextOperation)
deriving DecidableEq, Repr

namespace Error

/-- The reason why a dialect could not be had. -/
def reason? : Error → Option Text
  | unknownDialect _ => some "Unknown dialect"
  | noReservedWords _ => some "No SQLAlchemy dialect"
  | _ => none

/-- Whether the program itself reports the failure; any other one ends it. -/
def isReported : Error → Bool
  | unknownDialect _ | noReservedWords _ | unknownCommand _ => true
  | _ => false

def message : Error → Text
  | unknownDialect name => "Unknown dialect: " ++ name
  | noReservedWords name => "No SQLAlchemy dialect: " ++ name
  | unknownCommand name => "Unknown command: " ++ name
  | invalidChoice label title => label.quoted ++ " is not a valid " ++ title
  | fixedField field => "cannot assign to field " ++ field.quoted
  | infiniteLimit .binary => "cannot convert float infinity to integer"
  | infiniteLimit .decimal => "cannot convert Infinity to integer"
  | undefinedLimit .binary => "cannot convert float NaN to integer"
  | undefinedLimit .decimal => "cannot convert NaN to integer"
  | missingText operation => "'list' object has no attribute " ++ operation.name.quoted

end Error

end SqlDialects
