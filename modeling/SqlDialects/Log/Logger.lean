/-
The logger: which records it lets through, and how it writes them.
-/
import SqlDialects.Log.Record

namespace SqlDialects

namespace Log

/-- The name of the logger above all others. -/
def rootName : Text := "dialectforge"

/-- The name of the logger of a part; no part stands for the whole. -/
def loggerName (part : Text) : Text := if part.isEmpty then rootName else rootName ++ "." ++ part

structure Logger where
  /-- The lowest level that is let through. -/
  level : Int
  style : Style
deriving DecidableEq, Repr

/-- What is asked of a logger. -/
structure Settings where
  verbosity : Int := 0
  format : Text := "text"
  noColour : Bool := false
deriving DecidableEq, Repr

/-- The lowest level for a verbosity. -/
def levelOf (verbosity : Int) : Int :=
  if 2 ≤ verbosity then debug else if verbosity = 1 then info else warning

namespace Logger

/-- The logger of the settings. Colours are for terminals only. -/
def ofSettings (s : Settings) (terminal : Bool) : Logger where
  level := levelOf s.verbosity
  style := if s.format = "json" then .json else .text (!s.noColour && terminal)

/-- The lines for the records that are let through. -/
def write (l : Logger) (time : Text) (records : List Record) : Text :=
  (records.filter fun r => l.level ≤ r.level).flatMap fun r => r.write time l.style ++ "\n"

end Logger

end Log

end SqlDialects
