/-
What a run of the program comes to: an exit code, what is printed, and the log. The log tells of the
command, and in detail of how the dialect was made, if it had to be made, and what was found out about
a statement.
-/
import SqlDialects.Command.Arguments
import SqlDialects.Log.Logger

namespace SqlDialects

namespace Command

/-! ## Version -/

/-- The version that a file names; it is not known without one. -/
def versionOf (file : Option Text) : Text := file.elim "Unknown" Text.trim

def version : Text := "0.1.0"

/-! ## Records -/

open Log

/-- The value of an option as a record carries it. -/
def optionValue (value : Option Text) : Value := value.elim (.list []) .text

/-- The record of a command that begins. -/
def startRecord (o : Order) : Record where
  level := info
  logger := rootName
  message := "Running " ++ o.command.name
  fields := [("dialect", optionValue o.dialect), ("operation", .text o.command.name)]

def detail (part message : Text) (fields : List (Text × Value)) : Record where
  level := debug
  logger := loggerName part
  message := message
  fields := fields

/-- The record of loading the reserved words for an engine, unless that has been done before. -/
def loadingRecords (c : Catalog) (e : Engine) : List Record :=
  let reserved := (Reserved.ofName e.reservedName?).toOption.getD []
  if c.loaded.contains e.reservedName? then []
  else
    [detail "introspection" ("Loaded " ++ Text.ofInt reserved.length ++ " reserved words")
      [("dialect", .text (e.reservedName?.getD "ansi")), ("operation", .text "reserved_words")]]

/-- The records of making the dialect of an engine, unless that has been done before. -/
def makingRecords (c : Catalog) (e : Engine) : List Record :=
  let words := Text.ofInt e.dialect.words.size
  if c.made.any fun s => s.engine = e then []
  else
    loadingRecords c e ++
      [detail "keywords" ("Built keyword registry with " ++ words ++ " words")
          [("operation", .text "build")],
        detail "dialects" ("Dialect ready with " ++ words ++ " words")
          [("dialect", .text e.dialect.name), ("operation", .text "init")],
        detail "dialects" "Registered dialect profile"
          [("dialect", .text e.name), ("operation", .text "register")]]

/-- The record of the verdict on a statement, if there is one. -/
def verdictRecords (d : Dialect) (statement : Text) : List Record :=
  (d.verdict? statement).toList.map fun (word, modifying) =>
    let finding : Text := if modifying then " is " else " is not "
    detail "transactions" ("Statement starting with " ++ word ++ finding ++ "transaction modifying")
      [("dialect", .text d.name), ("keyword", .text word)]

/-! ## Runs -/

structure Outcome where
  exitCode : Nat
  output : Text
  /-- What is written beside the output; complaints about the arguments are left to the caller. -/
  errors : Option Text
deriving DecidableEq, Repr

/-- What the caller of the program provides. -/
structure Surroundings where
  /-- Whether errors go to a terminal. -/
  terminal : Bool
  /-- The time that records bear. -/
  time : Text
  /-- Whether any dialect can be found. -/
  findsDialects : Bool := true

/-- An answer on a line of its own; an empty one is not printed. -/
def line (answer : Text) : Text := if answer.isEmpty then [] else answer ++ "\n"

/-- The dialect that an order asks for, and the catalog afterwards. -/
def lookUp (s : Surroundings) (c : Catalog) (name : Option Text) : Except Error Shared × Catalog :=
  if !s.findsDialects then (.error (.unknownDialect (optionValue name).shown), c)
  else
    match name with
    | some name => c.get name
    | none => (.error (.missingText .lower), c)

/-- What carrying out an order comes to once its dialect has been looked up. The catalog is the one
before. -/
def carryOut (s : Surroundings) (c : Catalog) (o : Order) (found : Except Error Shared) :
    Except Error Outcome :=
  let logger := Logger.ofSettings ⟨o.verbosity, o.logFormat.getD "text", o.noColour⟩ s.terminal
  match found with
  | .error e =>
    if e.isReported then
      .ok ⟨1, [], some (logger.write s.time [startRecord o] ++ "Error: " ++ e.message ++ "\n")⟩
    else .error e
  | .ok shared => do
    let d := shared.dialect
    let answer ← o.command.answer? d o.text o.caseSensitive o.forceQuotes
    let verdict := if o.command = .transaction then verdictRecords d (o.text.getD []) else []
    return ⟨0, line answer,
      some (logger.write s.time ([startRecord o] ++ makingRecords c shared.engine ++ verdict))⟩

/-- What the program comes to with the given arguments, and the catalog afterwards. -/
def outcome (s : Surroundings) (c : Catalog) (arguments : List Text) : Except Error Outcome × Catalog :=
  match Request.ofArguments arguments with
  | .order o => (carryOut s c o (lookUp s c o.dialect).1, (lookUp s c o.dialect).2)
  | .version => (.ok ⟨0, "DialectForge v" ++ version ++ "\n", some []⟩, c)
  | .help => (.ok ⟨0, [], some []⟩, c)
  | .refused => (.ok ⟨2, [], none⟩, c)

end Command

end SqlDialects
