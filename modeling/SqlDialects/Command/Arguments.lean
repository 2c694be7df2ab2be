/-
Reading the arguments of the command line. Every argument is first told to be an option or a plain
argument; then the arguments are read from left to right. An option may be cut short as long as no other
begins so, a value may be attached to it with an equals sign, and flags of one letter may be written
together. Behind a double dash everything is plain; attached to an option, a double dash leaves it
without a value.
-/
import SqlDialects.Command.Basic

namespace SqlDialects

namespace Command

/-! ## Options -/

inductive Switch
  | help
  | text
  | dialect
  | forceQuotes
  | caseSensitive
  | noColour
  | logFormat
  | verbose
  | version
deriving DecidableEq, Repr

namespace Switch

/-- The options by name. -/
def names : List (Text × Switch) :=
  [("-h", .help), ("--help", .help), ("--text", .text), ("--dialect", .dialect),
    ("--force-quotes", .forceQuotes), ("--case-sensitive", .caseSensitive),
    ("--no-color", .noColour), ("--log-format", .logFormat), ("--verbose", .verbose),
    ("-v", .verbose), ("--version", .version)]

def takesValue (s : Switch) : Bool := s = text || s = dialect || s = logFormat

end Switch

/-! ## Kinds of arguments -/

inductive Argument
  | plain (s : Text)
  /-- An option, whether it is a letter behind a single dash, and what is attached to it. -/
  | option (switch : Switch) (letter : Bool) (attached : Option Text)
  /-- What looks like an option but is none. -/
  | unknown
  /-- The double dash. -/
  | separator
deriving DecidableEq, Repr

namespace Argument

/-- What stands before and behind the first equals sign, if there is one. -/
def splitAtEquals (s : Text) : Text × Option Text :=
  match s.dropWhile (· ≠ '=') with
  | [] => (s, none)
  | _ :: value => (s.takeWhile (· ≠ '='), some value)

/-- A minus sign with digits behind it, and possibly a point among them. A line feed may follow. -/
def isNegativeNumber (s : Text) : Bool :=
  match s with
  | '-' :: rest =>
    let rest := if Text.endsWith rest "\n" then rest.dropLast else rest
    match rest.dropWhile Character.isDecimalDigit with
    | [] => !rest.isEmpty
    | c :: fraction => c = '.' && !fraction.isEmpty && fraction.all Character.isDecimalDigit
  | _ => false

/-- The options that an argument can be short for. -/
def readings (s : Text) : List Argument :=
  if s.beginsWith "--" then
    let (start, value) := splitAtEquals s
    Switch.names.filterMap fun (name, switch) =>
      if name.beginsWith start then some (.option switch false value) else none
  else
    Switch.names.filterMap fun (name, switch) =>
      if name = s.take 2 then some (.option switch true (some (s.drop 2))) else none

/-- What an argument in front of the double dash is; nothing if it is short for several options. -/
def ofText? (s : Text) : Option Argument :=
  if !s.beginsWith "-" then some (.plain s)
  else
    let (name, value) := splitAtEquals s
    match Switch.names.lookup s, value, Switch.names.lookup name with
    | some switch, _, _ => some (.option switch (s.length = 2) none)
    | none, some v, some switch => some (.option switch (name.length = 2) (some v))
    | none, _, _ =>
      if s.length = 1 then some (.plain s)
      else
        match readings s with
        | [a] => some a
        | _ :: _ :: _ => none
        | [] => some (if isNegativeNumber s || s.contains ' ' then .plain s else .unknown)

/-- What the arguments are; nothing if one of them is short for several options. -/
def ofTexts? : List Text → Option (List Argument)
  | [] => some []
  | s :: rest =>
    if s = "--" then some (.separator :: rest.map .plain)
    else do return (← ofText? s) :: (← ofTexts? rest)

end Argument

/-! ## Requests -/

/-- A command with the options that have been set. An option can have been left without a value. -/
structure Order where
  command : Command
  text : Option Text
  dialect : Option Text
  forceQuotes : Bool
  caseSensitive : Bool
  noColour : Bool
  logFormat : Option Text
  verbosity : Nat
deriving DecidableEq, Repr

/-- What the arguments ask for. -/
inductive Request
  | order (o : Order)
  | version
  | help
  /-- They do not make sense. -/
  | refused
deriving DecidableEq, Repr

/-- What has been read so far. -/
structure Draft where
  command : Option Command := none
  /-- Nothing until the option is met, and then its value. -/
  text : Option (Option Text) := none
  dialect : Option Text := some "generic"
  forceQuotes : Bool := false
  caseSensitive : Bool := false
  noColour : Bool := false
  logFormat : Option Text := some "text"
  verbosity : Nat := 0
  /-- Whether an argument has no place. -/
  surplus : Bool := false
deriving DecidableEq, Repr

namespace Draft

/-- Takes an option. Asking for the version or for help ends the reading at once. A value that is there
has to be one of those that the option admits. -/
def take (d : Draft) (s : Switch) (value : Option Text) : Except Request Draft :=
  match s with
  | .help => .error .help
  | .version => .error .version
  | .text => .ok { d with text := some value }
  | .dialect =>
    if value.all availableDialects.contains then .ok { d with dialect := value } else .error .refused
  | .logFormat =>
    if value.all (["text", "json"] : List Text).contains then .ok { d with logFormat := value }
    else .error .refused
  | .forceQuotes => .ok { d with forceQuotes := true }
  | .caseSensitive => .ok { d with caseSensitive := true }
  | .noColour => .ok { d with noColour := true }
  | .verbose => .ok { d with verbosity := d.verbosity + 1 }

/-- Takes a plain argument that is no value: the command, or a surplus. -/
def takePlain (d : Draft) (s : Text) : Except Request Draft :=
  match d.command with
  | some _ => .ok { d with surplus := true }
  | none =>
    match Command.ofName? s with
    | some c => .ok { d with command := some c }
    | none => .error .refused

/-- The value that an option has by what is attached to it. -/
def valueOf (attached : Text) : Option Text := if attached = "--" then none else some attached

/-- The flags that are written together as letters, if all of them are flags. -/
def flags? (letters : Text) : Option (List Switch) :=
  letters.mapM fun c => Switch.names.lookup ['-', c]

/-- Takes a flag with what is attached to it: further letters, and those only to a letter. -/
def takeFlag (d : Draft) (s : Switch) (letter : Bool) (attached : Option Text) : Except Request Draft :=
  match attached with
  | none => d.take s none
  | some letters =>
    if !letter || letters.isEmpty then .error .refused
    else
      match flags? letters with
      | none => .error .refused
      | some more => (s :: more).foldlM (fun d s => d.take s none) d

/-- Takes the arguments from left to right. A double dash is passed over next to the command and is a
surplus elsewhere. -/
def takeAll (d : Draft) : List Argument → Except Request Draft
  | [] => .ok d
  | .plain s :: rest => do
    let d' ← d.takePlain s
    match rest with
    | .separator :: rest => takeAll (if d.command.isNone then d' else { d' with surplus := true }) rest
    | rest => takeAll d' rest
  | .separator :: rest =>
    if d.command.isNone then takeAll d rest else takeAll { d with surplus := true } rest
  | .unknown :: rest => takeAll { d with surplus := true } rest
  | .option s letter attached :: rest =>
    if s.takesValue then
      match attached, rest with
      | some v, rest => do takeAll (← d.take s (valueOf v)) rest
      | none, .plain v :: rest => do takeAll (← d.take s (some v)) rest
      | none, _ => .error .refused
    else do takeAll (← d.takeFlag s letter attached) rest

/-- The request, if nothing is missing and nothing has been left over. -/
def finish (d : Draft) : Request :=
  match d.command, d.text, d.surplus with
  | some command, some text, false =>
    .order ⟨command, text, d.dialect, d.forceQuotes, d.caseSensitive, d.noColour, d.logFormat, d.verbosity⟩
  | _, _, _ => .refused

end Draft

/-- What the arguments of a command line ask for. -/
def Request.ofArguments (arguments : List Text) : Request :=
  match Argument.ofTexts? arguments with
  | none => .refused
  | some arguments =>
    match Draft.takeAll {} arguments with
    | .ok d => d.finish
    | .error r => r

end Command

end SqlDialects
