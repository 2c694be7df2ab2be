/-
The rules by which a statement is cut into lexemes: comments, blanks, names, numbers, literals, keywords
of one or several words, and operators. At each place the first rule that fits decides.
-/
import SqlDialects.Statement.Pattern

namespace SqlDialects

/-- What a piece of a statement is. -/
inductive LexemeKind
  | comment
  | blank
  | keyword
  | name
  | other
deriving DecidableEq, Repr

/-- One rule of the lexer. -/
structure Rule where
  kind : LexemeKind
  pattern : Pattern
deriving DecidableEq, Repr

namespace Rule

open Pattern CharClass

/-! ## Pieces -/

def blanks : Pattern := several (one .blank)

def digits : Pattern := several (one .decimalDigit)

/-- A word character or one of the two signs that words may go on with. -/
def wordPart : CharClass := .either .wordChar (.oneOf ['$', '#'])

/-- The beginning of a name, or an underscore. -/
def nameStartOrUnderscore : CharClass := .either .nameStart (.exactly '_')

def lineEnd : Pattern := "\r\n" <|> "\r" <|> "\n"

/-- The shortest way to the end of the line. -/
def restOfLine : Pattern := few (one .inLine) ++ (lineEnd <|> textEnd)

def lineCommentMark : Pattern := "--" <|> "# "

/-- A name between two equal marks; inside, the mark is written twice. -/
def betweenDoubled (q : Char) : Pattern :=
  one (.exactly q) ++
    many ((one (.exactly q) ++ one (.exactly q)) <|> one (.noneOf [q])) ++ one (.exactly q)

/-- A literal between two equal marks; inside, the mark is written twice or behind a backslash. -/
def betweenEscaped (q : Char) : Pattern :=
  one (.exactly q) ++
    many ((one (.exactly q) ++ one (.exactly q)) <|> (one (.exactly '\\') ++ one (.exactly q)) <|>
      one (.noneOf [q])) ++
    one (.exactly q)

/-- The words in order with blanks between them, up to the edge of a word. -/
def phrase (words : List Pattern) : Pattern :=
  match words with
  | [] => wordEdge
  | w :: ws => ws.foldl (fun p w => p ++ blanks ++ w) w ++ wordEdge

/-- Blanks follow the word. -/
def spaced (w : Pattern) : Pattern := w ++ blanks

def nulls : Pattern := "NULLS" ++ blanks ++ ("FIRST" <|> "LAST")

/-! ## The rules in order -/

def comments : List Rule :=
  [⟨.comment, lineCommentMark ++ "+" ++ restOfLine⟩,
    ⟨.comment, lineCommentMark ++ restOfLine⟩]

def blankRules : List Rule :=
  [⟨.blank, lineEnd⟩,
    ⟨.blank, one .blank⟩]

def names : List Rule :=
  [⟨.other, ":="⟩,
    ⟨.other, "::"⟩,
    ⟨.other, "*"⟩,
    ⟨.name, betweenDoubled '`'⟩,
    ⟨.name, betweenDoubled '\u00B4'⟩,
    ⟨.name, "?"⟩,
    ⟨.name, "%" ++ optional ("(" ++ several (one .wordChar) ++ ")") ++ "S"⟩,
    ⟨.name, notBehind .wordChar ++ one (.oneOf ['$', ':', '?']) ++ several (one .wordChar)⟩,
    ⟨.other, "\\" ++ several (one .wordChar)⟩,
    ⟨.keyword, anyOf ["CASE", "IN", "VALUES", "USING", "FROM", "AS"] ++ wordEdge⟩,
    ⟨.name, anyOf ["@", "##", "#"] ++ one .nameStart ++ several (one .wordChar)⟩,
    -- a name in front of a point
    ⟨.name, one .nameStart ++ many (one .wordChar) ++
      peek (many (one .blank) ++ "." ++ notPeek (one .decimalDigit))⟩,
    -- a name behind a point
    ⟨.name, behind (.exactly '.') ++ one .nameStart ++ many (one .wordChar)⟩,
    -- a name in front of a bracket
    ⟨.name, one .nameStart ++ many (one .wordChar) ++ peek "("⟩]

def numbers : List Rule :=
  let minus := optional "-"
  let alone := notPeek (one nameStartOrUnderscore)
  [⟨.other, minus ++ "0X" ++
      several (one (.either .decimalDigit
        (.oneOf ['A', 'B', 'C', 'D', 'E', 'F', 'a', 'b', 'c', 'd', 'e', 'f'])))⟩,
    ⟨.other, minus ++ digits ++ optional ("." ++ digits) ++ "E" ++ minus ++ digits⟩,
    ⟨.other, alone ++ minus ++
      ((digits ++ "." ++ many (one .decimalDigit)) <|> ("." ++ digits)) ++ alone⟩,
    ⟨.other, alone ++ minus ++ digits ++ alone⟩]

def literals : List Rule :=
  [⟨.other, betweenEscaped '\''⟩,
    ⟨.other, betweenEscaped '"'⟩,
    ⟨.other, "\"\"" <|> ("\"" ++ few (one .inLine) ++ one (.noneOf ['\\']) ++ "\"")⟩,
    ⟨.name, notBehind (.either .wordChar (.oneOf [']', ')'])) ++ "[" ++
      several (one (.noneOf [']', '['])) ++ "]"⟩]

def phrases : List Rule :=
  [⟨.keyword,
      optional
        ((optional (anyOf [spaced "LEFT", spaced "RIGHT", spaced "FULL"]) ++
            optional (anyOf [spaced "INNER", spaced "OUTER", spaced "STRAIGHT"])) <|>
          optional (anyOf [spaced "CROSS", spaced "NATURAL"])) ++
        "JOIN" ++ wordEdge⟩,
    ⟨.keyword,
      "END" ++
        optional (anyOf [blanks ++ "IF", blanks ++ "LOOP", blanks ++ "WHILE", blanks ++ "FOR",
          blanks ++ "CASE"]) ++
        wordEdge⟩,
    ⟨.keyword, "IF" ++ blanks ++ optional (spaced "NOT") ++ "EXISTS" ++ wordEdge⟩,
    ⟨.keyword, phrase ["NOT", "NULL"]⟩,
    ⟨.keyword, ("ASC" <|> "DESC") ++ optional (blanks ++ nulls) ++ wordEdge⟩,
    ⟨.keyword, ("ASC" <|> "DESC") ++ wordEdge⟩,
    ⟨.keyword, nulls ++ wordEdge⟩,
    ⟨.keyword, phrase ["UNION", "ALL"]⟩,
    ⟨.keyword, "CREATE" ++ optional (blanks ++ "OR" ++ blanks ++ "REPLACE") ++ wordEdge⟩,
    ⟨.name, phrase ["DOUBLE", "PRECISION"]⟩,
    ⟨.keyword, phrase ["GROUP", "BY"]⟩,
    ⟨.keyword, phrase ["ORDER", "BY"]⟩,
    ⟨.keyword, phrase ["PRIMARY", "KEY"]⟩,
    ⟨.keyword, phrase ["HANDLER", "FOR"]⟩,
    ⟨.keyword, "GO" ++ one .blank ++ digits ++ wordEdge⟩,
    ⟨.keyword, "LATERAL" ++ blanks ++ "VIEW" ++ blanks ++
      anyOf ["EXPLODE", "INLINE", "PARSE_URL_TUPLE", "POSEXPLODE", "STACK"] ++ wordEdge⟩,
    ⟨.keyword, ("AT" <|> "WITH'") ++ blanks ++ "TIME" ++ blanks ++ "ZONE" ++ blanks ++ "'" ++
      several (one (.noneOf ['\''])) ++ "'"⟩,
    ⟨.other, optional (spaced "NOT") ++ anyOf ["LIKE", "ILIKE", "RLIKE"] ++ wordEdge⟩,
    ⟨.other, optional (spaced "NOT") ++ "REGEXP" ++ optional (blanks ++ "BINARY") ++ wordEdge⟩]

def words : List Rule :=
  -- the one word that is an operator; its middle letter may be a dotless i
  [⟨.other, one (.oneOf ['D', 'd']) ++ one (.oneOf ['I', 'i', '\u0131']) ++ one (.oneOf ['V', 'v']) ++
      notPeek (one wordPart)⟩,
    ⟨.name, one .wordChar ++ many (one wordPart)⟩]

def operators : List Rule :=
  [⟨.other, one (.oneOf [';', ':', '(', ')', '[', ']', ',', '.'])⟩,
    ⟨.other, anyOf ["->" ++ optional ">", "#>" ++ optional ">", "@>", "<@", "?" ++ optional "|", "?&", "-",
      "#-"]⟩,
    ⟨.other, several (one (.oneOf ['<', '>', '=', '~', '!']))⟩,
    ⟨.other, several (one (.oneOf ['+', '/', '@', '#', '%', '^', '&', '|', '-']))⟩]

/-- All rules, the first that fits being the one that counts. -/
def all : List Rule :=
  comments ++ blankRules ++ names ++ numbers ++ literals ++ phrases ++ words ++ operators

/-- Every rule has to consume something. -/
theorem consumes_of_mem_all : ∀ r ∈ all, r.pattern.consumes = true := by decide

end Rule

end SqlDialects
