import Tablewright.Text.Ascii

/-!
# Reserved words

Most keywords of SQL may also be used as names. The reserved ones may not (`isReserved`), the words
of joins only where no join can follow (`isJoinWord`), and a few only where no operand begins
(`isOperandWord`).
-/

namespace Tablewright.Sql

/-- The keywords that are never plain names, in upper case. -/
def reservedWords : List String :=
  ["ADD", "ALL", "ALTER", "AND", "AS", "AUTOINCREMENT", "BETWEEN", "CASE", "CHECK", "COLLATE",
    "COMMIT", "CONSTRAINT", "CREATE", "DEFAULT", "DEFERRABLE", "DELETE", "DISTINCT", "DROP",
    "ELSE", "ESCAPE", "EXCEPT", "EXISTS", "FOREIGN", "FROM", "GROUP", "HAVING", "IN", "INDEX",
    "INSERT", "INTERSECT", "INTO", "IS", "ISNULL", "JOIN", "LIMIT", "NOT", "NOTHING", "NOTNULL",
    "NULL", "ON", "OR", "ORDER", "PRIMARY", "REFERENCES", "RETURNING", "SELECT", "SET", "TABLE",
    "THEN", "TO", "TRANSACTION", "UNION", "UNIQUE", "UPDATE", "USING", "VALUES", "WHEN", "WHERE"]

/-- The words of joins and of index hints, in upper case. -/
def joinWords : List String :=
  ["CROSS", "FULL", "INDEXED", "INNER", "LEFT", "NATURAL", "OUTER", "RIGHT"]

/-- The words that mean something else than a name at the beginning of an operand, in upper case. -/
def operandWords : List String :=
  ["CAST", "CURRENT_DATE", "CURRENT_TIME", "CURRENT_TIMESTAMP", "RAISE"]

/-- Whether a word is never a plain name. -/
def isReserved (word : String) : Bool :=
  reservedWords.any (Text.sameName word)

/-- Whether a word belongs to joins. -/
def isJoinWord (word : String) : Bool :=
  joinWords.any (Text.sameName word)

/-- Whether a word is no name at the beginning of an operand. -/
def isOperandWord (word : String) : Bool :=
  operandWords.contains (Text.upperAscii word)

end Tablewright.Sql
