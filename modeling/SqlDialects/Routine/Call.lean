/-
Statements that call stored routines.
-/
import SqlDialects.Dialect.Identifier
import SqlDialects.Routine.BindName

namespace SqlDialects

namespace Profile

/-- What stands for a parameter in a call, if anything does. -/
def argument? (p : Profile) (a : Parameter) : Option Text :=
  match a.direction with
  | .result => none
  | .input => some (':' :: bindName (a.name.getD []))
  | .output | .both => if p.callIncludesOutput then some "?" else none

def callArguments (p : Profile) (r : Routine) : List Text := r.parameters.filterMap p.argument?

/-- The word that calls a routine: a function is selected. -/
def callWord (p : Profile) (r : Routine) : Text :=
  match p.executeKeywords with
  | word :: _ => if r.isFunction then "SELECT" else word
  | [] => "SELECT"

end Profile

namespace Dialect

def routineName (d : Dialect) (r : Routine) : Text :=
  d.qualifiedName [r.schema, r.name] r.catalog false

/-- The statement that calls a routine, with an empty line behind it, and what the stream holds that it is also
written to, if there is one. -/
def generateCall (d : Dialect) (r : Routine) (stream : Option Text) : Text × Option Text :=
  let p := d.profile
  let statement := p.callWord r ++ " " ++ d.routineName r ++ "(" ++ Text.join "," (p.callArguments r) ++ ")"
  let statement := if (p.callEnd r).isEmpty then statement else statement ++ " " ++ p.callEnd r
  let statement :=
    (if p.bracketsAroundCall then '{' :: ' ' :: statement ++ [' ', '}'] else statement ++ ";") ++ "\n\n"
  (statement, stream.map fun written => written ++ statement)

/-- The statement that calls a routine, when it is written to no stream. -/
def call (d : Dialect) (r : Routine) : Text := (d.generateCall r none).1

end Dialect

end SqlDialects
