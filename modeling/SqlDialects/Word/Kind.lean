/-
What a word of a dialect is registered as.
-/
import SqlDialects.Choice

namespace SqlDialects

inductive WordKind
  | keyword
  | function
  | dataType
  | other
deriving DecidableEq, Repr

instance : Choice WordKind where
  title := "KeywordType"
  all := [.keyword, .function, .dataType, .other]
  label
    | .keyword => "KEYWORD"
    | .function => "FUNCTION"
    | .dataType => "TYPE"
    | .other => "OTHER"

end SqlDialects
