/-
Quoting names. A name that stands between the marks of one of the dialect's pairs counts as quoted and
is left alone; any other name is put between the marks of the first pair if it has to be.
-/
import SqlDialects.Dialect.Basic

namespace SqlDialects

/-- Whether a text stands between the two marks. -/
def Delimiters.enclose (q : Delimiters) (s : Text) : Bool :=
  q.opening.length + q.closing.length ≤ s.length && s.beginsWith q.opening && s.endsWith q.closing

/-- What stands between the two marks. -/
def Delimiters.body (q : Delimiters) (s : Text) : Text :=
  (s.take (s.length - q.closing.length)).drop q.opening.length

namespace Profile

/-- The first pair of quotes between which the name stands. -/
def enclosingQuotes? (p : Profile) (name : Text) : Option Delimiters :=
  p.identifierQuotes.find? fun q => q.enclose name

def isQuoted (p : Profile) (name : Text) : Bool := (p.enclosingQuotes? name).isSome

/-- The name without its quotes. -/
def unquote (p : Profile) (name : Text) : Text :=
  match p.enclosingQuotes? name with
  | some q => p.unescapeIdentifier q (q.body name)
  | none => name

/-- The name between a pair of quotes. -/
def enquote (p : Profile) (q : Delimiters) (name : Text) : Text :=
  q.opening ++ p.escapeIdentifier q name ++ q.closing

/-- Whether the engine would store a name that is not quoted in another case. -/
def refolds (p : Profile) (name : Text) : Bool :=
  match p.unquotedCase with
  | .upper => name != name.upper
  | .lower => name != name.lower
  | .mixed => false

end Profile

namespace Dialect

/-- Whether the name is a word that cannot stand for anything else. -/
def isReserved (d : Dialect) (name : Text) : Bool :=
  match d.words.classify name with
  | some .keyword | some .dataType | some .other => true
  | some .function | none => false

/-- Whether the name would not be read as itself without quotes. -/
def mustBeQuoted (d : Dialect) (name : Text) (caseSensitive : Bool) : Bool :=
  match name with
  | [] => false
  | c :: rest =>
    (d.profile.quoteReservedWords && d.isReserved name) || !d.profile.validStart c ||
      (caseSensitive && !d.profile.caseInsensitiveLookup && d.profile.refolds name) ||
      rest.any fun c => !d.profile.validPart c

/-- The name as a statement has to write it. -/
def quote (d : Dialect) (name : Text) (caseSensitive force : Bool) : Text :=
  if name.isEmpty || d.profile.isQuoted name then name
  else
    match d.profile.identifierQuotes with
    | [] => name
    | q :: _ => if force || d.mustBeQuoted name caseSensitive then d.profile.enquote q name else name

/-- The parts of a name, missing and empty ones left out, with the catalog at its place. -/
def qualifiedName (d : Dialect) (parts : List (Option Text)) (catalog : Option Text) (force : Bool) :
    Text :=
  let name := Text.join d.profile.nameSeparator
    ((parts.filterMap fun p => p.filter (!·.isEmpty)).map fun p => d.quote p false force)
  match catalog.getD [] with
  | [] => name
  | catalog =>
    let catalog := d.quote catalog false force
    if name.isEmpty then catalog
    else if d.profile.catalogFirst then catalog ++ d.profile.catalogSeparator ++ name
    else name ++ d.profile.catalogSeparator ++ catalog

end Dialect

end SqlDialects
