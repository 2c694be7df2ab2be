/-
Names of bind variables. A parameter may have any name; the variable is named by the letters and
numerals of it, with one underscore in place of each run of other characters.
-/
import SqlDialects.Text.Character

namespace SqlDialects

/-- The name from some place on; `inRun` tells whether a run of other characters leads up to it. -/
def bindNameFrom (inRun : Bool) : Text → Text
  | [] => []
  | c :: rest =>
    if Character.isAlphanumeric c then c :: bindNameFrom false rest
    else if inRun then bindNameFrom true rest
    else '_' :: bindNameFrom true rest

/-- The name of the bind variable for a parameter of the given name. -/
def bindName (name : Text) : Text := bindNameFrom false name

end SqlDialects
