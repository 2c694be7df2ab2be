/-
The profiles of the built-in engines.
-/
import SqlDialects.Profile.Policy

namespace SqlDialects

namespace Profile

/-- The read-only keywords of a plain engine and some more. -/
def readOnlyAnd (words : List Text) : WordSet := words.foldl WordSet.add basic.readOnlyKeywords

def generic : Profile := { basic with name := "generic" }

def postgres : Profile :=
  { basic with
    name := "postgres"
    unquotedCase := .lower
    catalogUsage := .dml
    schemaUsage := .everywhere
    parameterMarks := ["$"]
    executeKeywords := ["CALL"]
    ddlKeywords := ["CREATE", "ALTER", "DROP", "COMMENT"]
    dmlKeywords := ["INSERT", "UPDATE", "DELETE", "MERGE", "COPY"]
    commitKeywords := ["COMMIT", "END"]
    rollbackKeywords := ["ROLLBACK", "ABORT"]
    readOnlyKeywords := readOnlyAnd ["VACUUM"]
    blockBounds := [⟨"BEGIN", "END"⟩]
    blockHeaders := ["DECLARE"]
    supportsAliasInUpdate := true
    supportsTableDropCascade := true
    supportsNestedComments := true
    supportsCommentQuery := true
    multiRowInsert := .groupRows
    testQuery := some "SELECT 1"
    renderValue := Policy.bytesAsDecoding }

def mysql : Profile :=
  { basic with
    name := "mysql"
    identifierQuotes := [⟨"`", "`"⟩]
    stringQuotes := [⟨"'", "'"⟩, ⟨"\"", "\""⟩]
    unquotedCase := .mixed
    lineComments := ["--", "#"]
    delimiterRedefiner := some "DELIMITER"
    catalogUsage := .everywhere
    stringEscape := "\\"
    searchStringEscape := "\\"
    executeKeywords := ["CALL"]
    dmlKeywords := ["INSERT", "UPDATE", "DELETE", "REPLACE"]
    commitKeywords := ["COMMIT"]
    rollbackKeywords := ["ROLLBACK"]
    readOnlyKeywords := readOnlyAnd ["DESCRIBE", "DESC", "HELP"]
    blockBounds := [⟨"BEGIN", "END"⟩]
    supportsAliasInUpdate := true
    multiRowInsert := .groupRows
    testQuery := some "SELECT 1"
    escapeString := Policy.doubleApostrophesAndBackslashes
    unescapeString := Policy.undoubleApostrophesAndBackslashes
    renderValue := Policy.bytesAsNumber }

def sqlite : Profile :=
  { basic with
    name := "sqlite"
    identifierQuotes := [⟨"\"", "\""⟩, Policy.brackets, ⟨"`", "`"⟩]
    unquotedCase := .mixed
    caseInsensitiveLookup := true
    commitKeywords := ["COMMIT", "END"]
    rollbackKeywords := ["ROLLBACK"]
    multiRowInsert := .groupRows
    testQuery := some "SELECT 1"
    renderValue := Policy.bytesAsLiteral }

def oracle : Profile :=
  { basic with
    name := "oracle"
    unquotedCase := .upper
    schemaUsage := .everywhere
    catalogSeparator := "@"
    catalogFirst := false
    executeKeywords := ["CALL", "EXEC", "EXECUTE"]
    ddlKeywords := ["CREATE", "ALTER", "DROP", "TRUNCATE", "COMMENT"]
    dmlKeywords := ["INSERT", "UPDATE", "DELETE", "MERGE"]
    commitKeywords := ["COMMIT"]
    rollbackKeywords := ["ROLLBACK"]
    blockBounds := [⟨"BEGIN", "END"⟩]
    blockHeaders := ["DECLARE", "CREATE", "PACKAGE", "FUNCTION", "PROCEDURE", "TRIGGER"]
    innerBlockStarts := ["AS", "IS"]
    delimiterAfterBlock := true
    supportsTableDropCascade := true
    testQuery := some "SELECT 1 FROM DUAL"
    dualTable := some "DUAL"
    callEnd := Policy.fromDual }

def mssql : Profile :=
  { basic with
    name := "mssql"
    identifierQuotes := [Policy.brackets, ⟨"\"", "\""⟩]
    unquotedCase := .mixed
    caseInsensitiveLookup := true
    catalogUsage := .everywhere
    schemaUsage := .everywhere
    parameterMarks := ["@"]
    scriptDelimiters := [";", "GO"]
    executeKeywords := ["CALL", "EXEC", "EXECUTE"]
    bracketsAroundCall := true
    dmlKeywords := ["INSERT", "UPDATE", "DELETE", "MERGE"]
    commitKeywords := ["COMMIT"]
    rollbackKeywords := ["ROLLBACK"]
    blockBounds := [⟨"BEGIN", "END"⟩]
    supportsAliasInUpdate := true
    multiRowInsert := .groupRows
    testQuery := some "SELECT 1"
    escapeIdentifier := Policy.doubleBrackets
    unescapeIdentifier := Policy.undoubleBrackets }

end Profile

end SqlDialects
