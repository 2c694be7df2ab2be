/-
Types with finitely many values, each of which has a label by which it is read and written.
-/
import SqlDialects.Error

namespace SqlDialects

/-- A type with labelled values. -/
class Choice (α : Type) where
  title : Text
  all : List α
  label : α → Text

namespace Choice

variable {α : Type} [Choice α]

/-- The value with a label. -/
def ofLabel? (s : Text) : Option α := (all : List α).find? fun a => label a = s

/-- The value with a label, or the complaint that there is none. -/
def read (s : Text) : Except Error α :=
  match (ofLabel? s : Option α) with
  | some a => .ok a
  | none => .error (.invalidChoice s (title α))

end Choice

end SqlDialects
