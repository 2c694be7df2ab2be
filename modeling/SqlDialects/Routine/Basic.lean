/-
Stored routines as a call needs them: the name, the parameters and their directions.
-/
import SqlDialects.Choice

namespace SqlDialects

inductive RoutineKind
  | procedure
  | function
deriving DecidableEq, Repr

instance : Choice RoutineKind where
  title := "ProcedureType"
  all := [.procedure, .function]
  label
    | .procedure => "PROCEDURE"
    | .function => "FUNCTION"

/-- Which way the value of a parameter goes. -/
inductive Direction
  | input
  | output
  | both
  | result
deriving DecidableEq, Repr

instance : Choice Direction where
  title := "ParameterKind"
  all := [.input, .output, .both, .result]
  label
    | .input => "IN"
    | .output => "OUT"
    | .both => "INOUT"
    | .result => "RETURN"

structure Parameter where
  name : Option Text
  direction : Direction := .input
  typeName : Text := []
deriving DecidableEq, Repr

structure Routine where
  name : Option Text
  kind : RoutineKind := .procedure
  parameters : List Parameter := []
  schema : Option Text := none
  catalog : Option Text := none
deriving DecidableEq, Repr

def Routine.isFunction (r : Routine) : Bool := r.kind = .function

end SqlDialects
