/-
The words that every dialect knows: those of the standard, and the functions and types that go with it.
-/
import SqlDialects.Text.Basic

namespace SqlDialects

namespace Standard

/-- The reserved words of the standard, with the verbs that most engines have in common. -/
def keywords : List Text := Text.ofStrings
  ["ABSOLUTE", "ACTION", "ADD", "ALL", "ALLOCATE", "ALTER", "AND", "ANY", "ARE", "AS", "ASC",
   "ASSERTION", "AT", "AUTHORIZATION", "BEGIN", "BETWEEN", "BOTH", "BY", "CALL", "CASCADE",
   "CASCADED", "CASE", "CAST", "CATALOG", "CHECK", "CLOSE", "COLLATE", "COLLATION", "COLUMN",
   "COMMIT", "CONNECT", "CONNECTION", "CONSTRAINT", "CONSTRAINTS", "CONTINUE", "CORRESPONDING",
   "CREATE", "CROSS", "CURRENT", "CURSOR", "DEALLOCATE", "DECLARE", "DEFAULT", "DEFERRABLE",
   "DEFERRED", "DELETE", "DESC", "DESCRIBE", "DESCRIPTOR", "DIAGNOSTICS", "DISCONNECT", "DISTINCT",
   "DOMAIN", "DROP", "ELSE", "END", "ESCAPE", "EXCEPT", "EXCEPTION", "EXEC", "EXECUTE", "EXISTS",
   "EXPLAIN", "EXTERNAL", "FALSE", "FETCH", "FIRST", "FOR", "FOREIGN", "FOUND", "FROM", "FULL",
   "GET", "GLOBAL", "GO", "GOTO", "GRANT", "GROUP", "HAVING", "IDENTITY", "IMMEDIATE", "IN",
   "INDICATOR", "INITIALLY", "INNER", "INPUT", "INSENSITIVE", "INSERT", "INTERSECT", "INTERVAL",
   "INTO", "IS", "ISOLATION", "JOIN", "KEY", "LANGUAGE", "LAST", "LEADING", "LEFT", "LEVEL", "LIKE",
   "LOCAL", "MATCH", "MERGE", "MODULE", "NAMES", "NATIONAL", "NATURAL", "NEXT", "NO", "NOT", "NULL",
   "OF", "ON", "ONLY", "OPEN", "OPTION", "OR", "ORDER", "OUTER", "OUTPUT", "OVERLAPS", "PAD",
   "PARTIAL", "POSITION", "PREPARE", "PRESERVE", "PRIMARY", "PRIOR", "PRIVILEGES", "PROCEDURE",
   "PUBLIC", "READ", "REFERENCES", "RELATIVE", "REPLACE", "RESTRICT", "REVOKE", "RIGHT", "ROLLBACK",
   "ROWS", "SCHEMA", "SCROLL", "SECTION", "SELECT", "SESSION", "SET", "SHOW", "SIZE", "SOME",
   "SPACE", "SQL", "SQLCODE", "SQLERROR", "SQLSTATE", "TABLE", "TEMPORARY", "THEN", "TO",
   "TRAILING", "TRANSACTION", "TRANSLATE", "TRANSLATION", "TRUE", "TRUNCATE", "UNION", "UNIQUE",
   "UNKNOWN", "UPDATE", "USAGE", "USE", "USER", "USING", "VALUE", "VALUES", "VIEW", "WHEN",
   "WHENEVER", "WHERE", "WITH", "WORK", "WRITE"]

def functions : List Text := Text.ofStrings
  ["ABS", "AVG", "BIT_LENGTH", "CHARACTER_LENGTH", "CHAR_LENGTH", "COALESCE", "CONVERT", "COUNT",
   "CURRENT_DATE", "CURRENT_TIME", "CURRENT_TIMESTAMP", "CURRENT_USER", "EXTRACT", "LOWER", "MAX",
   "MIN", "MOD", "NULLIF", "OCTET_LENGTH", "SESSION_USER", "SUBSTRING", "SUM", "SYSTEM_USER",
   "TRIM", "UPPER"]

def types : List Text := Text.ofStrings
  ["BIGINT", "BIT", "BOOLEAN", "CHAR", "CHARACTER", "DATE", "DEC", "DECIMAL", "DOUBLE", "FLOAT",
   "INT", "INTEGER", "NCHAR", "NUMERIC", "PRECISION", "REAL", "SMALLINT", "TIME", "TIMESTAMP",
   "VARCHAR", "VARYING"]

end Standard

end SqlDialects
