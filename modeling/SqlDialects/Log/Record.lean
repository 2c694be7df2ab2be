/-
Log records, and the two ways to write them: as a line of JSON for machines, and as a line of text for
readers, coloured by level if wanted.
-/
import SqlDialects.Log.Value

namespace SqlDialects

namespace Log

/-! ## Levels -/

def debug : Int := 10

def info : Int := 20

def warning : Int := 30

/-- The levels that have names. -/
def levelNames : List (Int × Text) :=
  [(0, "NOTSET"), (10, "DEBUG"), (20, "INFO"), (30, "WARNING"), (40, "ERROR"), (50, "CRITICAL")]

def levelName (level : Int) : Text :=
  (levelNames.lookup level).getD ("Level " ++ Text.ofInt level)

/-- The escape sequences that colour the names of levels. -/
def colours : List (Text × Text) :=
  [("DEBUG", "\x1b[36m"), ("INFO", "\x1b[32m"), ("WARNING", "\x1b[33m"), ("ERROR", "\x1b[31m"),
    ("CRITICAL", "\x1b[35m")]

def colourless : Text := "\x1b[0m"

/-! ## Records -/

/-- A failure that a record tells of. -/
structure Failure where
  kind : Text
  text : Text
deriving DecidableEq, Repr

/-- The kind of a failure with its text behind it. The key of a missing key is quoted. -/
def Failure.shown (f : Failure) : Text :=
  if f.kind = "KeyError" then f.kind ++ ": " ++ f.text.quoted
  else if f.text.isEmpty then f.kind
  else f.kind ++ ": " ++ f.text

structure Record where
  level : Int
  logger : Text
  message : Text
  fields : List (Text × Value) := []
  failure : Option Failure := none

/-- The fields that are written, with their names in JSON and for readers. -/
def contextFields : List (Text × Text) :=
  [("dialect", "dialect"), ("operation", "op"), ("keyword", "kw")]

/-! ## Styles -/

inductive Style
  | json
  | text (coloured : Bool)
deriving DecidableEq, Repr

namespace Record

/-- The record as a line of JSON with a time. -/
def json (r : Record) (time : Text) : Text :=
  let event : List (Text × Value) :=
    [("timestamp", .text time), ("level", .text (levelName r.level)), ("logger", .text r.logger),
      ("message", .text r.message)]
  let context := contextFields.filterMap fun (name, _) => (r.fields.lookup name).map fun v => (name, v)
  let failure : List (Text × Value) := r.failure.toList.map fun f => ("exception", .text f.shown)
  (Value.record (event ++ context ++ failure)).json

/-- The context of the record in brackets, if it has any. -/
def context (r : Record) : Text :=
  let parts := contextFields.filterMap fun (name, short) =>
    (r.fields.lookup name).map fun v => short ++ "=" ++ v.shown
  if parts.isEmpty then [] else " [" ++ Text.join ", " parts ++ "]"

/-- The record as a line for readers. -/
def text (r : Record) (coloured : Bool) : Text :=
  let level := levelName r.level
  let mark := "[" ++ level ++ "]"
  let mark := if coloured then (colours.lookup level).elim mark fun c => c ++ mark ++ colourless else mark
  mark ++ " " ++ r.message ++ r.context

def write (r : Record) (time : Text) : Style → Text
  | .json => r.json time
  | .text coloured => r.text coloured

end Record

end Log

end SqlDialects
