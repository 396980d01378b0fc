/-!
# SQL tokens

Tokens of the PostgreSQL dialect.  A word carries its spelling in capitals, by
which keywords are recognised; keywords of two words are one token.  The
classes below say where a keyword may also stand for a name, for a function or
for a type.  Any other word may stand for all three.
-/

namespace QueryTyping.Sql

inductive TokenKind where
  /-- An unquoted word, possibly a keyword. -/
  | word
  /-- A word right after a parameter sign: never a keyword. -/
  | variable
  /-- A quoted identifier. -/
  | quoted
  | string
  | number
  /-- A string with a letter in front: national, bit, hexadecimal or with escapes. -/
  | taggedString
  | dollarString
  | symbol
  deriving DecidableEq, Repr

structure Token where
  kind : TokenKind
  text : String
  /-- The text in capitals. -/
  upper : String
  deriving DecidableEq, Repr

/-- Capitals of an ASCII text. -/
def capitals (s : List Char) : List Char := s.map Char.toUpper

/-- A token from its characters. -/
def Token.ofChars (kind : TokenKind) (s : List Char) : Token :=
  ⟨kind, String.ofList s, String.ofList (capitals s)⟩

/-- Whether the token is that keyword. -/
def Token.isWord (token : Token) (word : String) : Bool :=
  token.kind = .word && token.upper = word

/-- Whether the token is one of those keywords. -/
def Token.isOneOf (token : Token) (words : List String) : Bool :=
  token.kind = .word && words.contains token.upper

/-- Whether the token is that symbol. -/
def Token.isSymbol (token : Token) (symbol : String) : Bool :=
  token.kind = .symbol && token.text = symbol

/-- Whether the token reads as that word, be it a keyword or not. -/
def Token.reads (token : Token) (word : String) : Bool :=
  token.kind ≠ .string && token.upper = word

/-- Keywords that never stand for a name. -/
def reservedWords : List String :=
  ["ALTER", "AND", "AS", "BETWEEN", "CHARACTER SET", "CLUSTER BY", "CONNECT BY", "CREATE",
    "CROSS", "DISTINCT", "DISTRIBUTE BY", "DROP", "ELSE", "EXCEPT", "FETCH", "FOR",
    "FOR TIMESTAMP", "FOR VERSION", "FROM", "GLOB", "GRANT", "GROUP BY", "GROUPING SETS",
    "HAVING", "ILIKE", "IN", "INNER", "INOUT", "INSERT", "INTERSECT", "INTO", "JOIN", "LATERAL",
    "LIKE", "LIMIT", "NOT", "NOTNULL", "OFFSET", "ON", "ONLY", "OR", "ORDER BY", "OUTER", "OVER",
    "PARTITION BY", "PRIMARY KEY", "QUALIFY", "REGEXP", "RETURNING", "REVOKE", "RLIKE",
    "ROLLBACK", "SELECT", "SIMILAR TO", "SORT BY", "START WITH", "STRAIGHT_JOIN", "TABLESAMPLE",
    "THEN", "UNCACHE", "UNION", "USING", "VALUES", "VARIADIC", "WHEN", "WHERE", "WITH", "XOR"]

/-- Keywords that may name a column but not a table's alias. -/
def joinWords : List String :=
  ["ANTI", "ASOF", "FULL", "LEFT", "LOCK", "NATURAL", "RIGHT", "SEMI", "WINDOW"]

/-- Keywords that do not open a function call. -/
def callFreeWords : List String :=
  ["ALTER", "ANALYZE", "AND", "ANTI", "APPLY", "AS", "ASC", "ASOF", "AUTOINCREMENT",
    "AUTO_INCREMENT", "BEGIN", "BETWEEN", "CACHE", "CASE", "CHARACTER SET", "CLUSTER BY",
    "COLUMN", "COMMENT", "COMMIT", "CONNECT BY", "CONSTRAINT", "COPY", "CREATE", "CROSS", "CUBE",
    "DATABASE", "DEFAULT", "DELETE", "DESC", "DESCRIBE", "DISTINCT", "DISTRIBUTE BY", "DROP",
    "ELSE", "END", "ESCAPE", "EXCEPT", "EXECUTE", "FALSE", "FETCH", "FOR", "FOR TIMESTAMP",
    "FOR VERSION", "FOREIGN KEY", "FROM", "FULL", "FUNCTION", "GRANT", "GROUP BY",
    "GROUPING SETS", "HAVING", "IN", "INNER", "INOUT", "INTERSECT", "INTO", "IS", "JOIN", "KEEP",
    "KILL", "LATERAL", "LIMIT", "LOAD", "LOCK", "NAMESPACE", "NATURAL", "NOT", "NOTNULL", "ON",
    "ONLY", "OPERATOR", "OR", "ORDER BY", "ORDINALITY", "OUTER", "OVER", "OVERLAPS", "OVERWRITE",
    "PARTITION", "PARTITION BY", "PERCENT", "PIVOT", "PRAGMA", "PROCEDURE", "QUALIFY",
    "RECURSIVE", "REFERENCES", "RENAME", "RETURNING", "REVOKE", "ROLLBACK", "ROLLUP", "ROWS",
    "SCHEMA", "SELECT", "SEMI", "SET", "SETTINGS", "SHOW", "SIMILAR TO", "SORT BY", "START WITH",
    "STRAIGHT_JOIN", "TABLESAMPLE", "TEMP", "TEMPORARY", "THEN", "TRUE", "UNCACHE", "UNION",
    "UNIQUE", "UNPIVOT", "UPDATE", "USE", "USING", "VALUES", "VARIADIC", "VIEW", "VOLATILE",
    "WHEN", "WHERE", "WITH"]

/-- Keywords that name a type. -/
def typeWords : List String :=
  ["ARRAY", "BIGDECIMAL", "BIGINT", "BIGNUMERIC", "BIGSERIAL", "BINARY", "BIT", "BLOB", "BOOL",
    "BOOLEAN", "BPCHAR", "BYTE", "BYTEA", "CHAR", "CHAR VARYING", "CHARACTER",
    "CHARACTER VARYING", "CLOB", "CSTRING", "DATE", "DATEMULTIRANGE", "DATERANGE", "DATETIME",
    "DEC", "DECIMAL", "DECIMAL128", "DECIMAL256", "DECIMAL32", "DECIMAL64", "DOUBLE",
    "DOUBLE PRECISION", "ENUM", "FIXED", "FLOAT", "FLOAT4", "FLOAT8", "GEOGRAPHY", "GEOMETRY",
    "HSTORE", "HUGEINT", "INET", "INT", "INT1", "INT128", "INT16", "INT2", "INT256", "INT32",
    "INT4", "INT4MULTIRANGE", "INT4RANGE", "INT64", "INT8", "INT8MULTIRANGE", "INT8RANGE",
    "INTEGER", "INTERVAL", "JSON", "JSONB", "LIST", "LONG", "LONGBLOB", "LONGTEXT", "LONGVARCHAR",
    "MAP", "MEDIUMBLOB", "MEDIUMINT", "MEDIUMTEXT", "MONEY", "NAME", "NCHAR", "NULL", "NULLABLE",
    "NUMBER", "NUMERIC", "NUMMULTIRANGE", "NUMRANGE", "NVARCHAR", "NVARCHAR2", "OBJECT", "OID",
    "POINT", "REAL", "REGCLASS", "REGCOLLATION", "REGCONFIG", "REGDICTIONARY", "REGNAMESPACE",
    "REGOPER", "REGOPERATOR", "REGPROC", "REGPROCEDURE", "REGROLE", "REGTYPE", "SERIAL", "SHORT",
    "SMALLINT", "SMALLSERIAL", "STR", "STRING", "STRUCT", "TEXT", "TIME", "TIMESTAMP",
    "TIMESTAMPLTZ", "TIMESTAMPNTZ", "TIMESTAMPTZ", "TIMESTAMP_LTZ", "TIMESTAMP_NTZ", "TIMETZ",
    "TINYBLOB", "TINYINT", "TINYTEXT", "TSMULTIRANGE", "TSRANGE", "TSTZMULTIRANGE", "TSTZRANGE",
    "UHUGEINT", "UINT", "UINT128", "UINT256", "UNKNOWN", "USER-DEFINED", "UUID", "VARBINARY",
    "VARCHAR", "VARCHAR2", "VARIANT", "VECTOR", "XML"]

/-- Types whose name alone is the whole type. -/
def simpleTypeWords : List String :=
  ["CSTRING", "OID", "REGCLASS", "REGCOLLATION", "REGCONFIG", "REGDICTIONARY", "REGNAMESPACE",
    "REGOPER", "REGOPERATOR", "REGPROC", "REGPROCEDURE", "REGROLE", "REGTYPE"]

/-- Types that may carry a time zone. -/
def timeWords : List String :=
  ["TIME", "TIMETZ", "TIMESTAMP", "TIMESTAMPTZ", "TIMESTAMPLTZ", "TIMESTAMP_LTZ"]

/-- Functions that are called without parentheses. -/
def bareFunctionWords : List String :=
  ["CURRENT_CATALOG", "CURRENT_DATE", "CURRENT_ROLE", "CURRENT_SCHEMA", "CURRENT_TIME",
    "CURRENT_TIMESTAMP", "CURRENT_USER", "LOCALTIME", "LOCALTIMESTAMP", "SESSION_USER"]

/-- Whether the token may stand for a name. -/
def Token.isName (token : Token) : Bool :=
  match token.kind with
  | .word => !reservedWords.contains token.upper
  | .variable => true
  | _ => false

/-- Whether the token may be a table's alias. -/
def Token.isTableAlias (token : Token) : Bool :=
  token.isName && !(token.kind = .word && joinWords.contains token.upper)

/-- Whether the token can be taken for a name where one must follow: all but symbols, `SELECT`
and `NOT`. -/
def Token.isAnyName (token : Token) : Bool :=
  token.kind ≠ .symbol && !token.isOneOf ["SELECT", "NOT"]

/-- Whether the token names a type. -/
def Token.isTypeWord (token : Token) : Bool :=
  token.isOneOf typeWords

/-- Whether the token may open a function call. -/
def Token.opensCall (token : Token) : Bool :=
  match token.kind with
  | .word => !callFreeWords.contains token.upper
  | .variable => true
  | .quoted => true
  | _ => false

/-- Symbols of more than one character and the single ones with a meaning of their own,
longest first where one begins another. -/
def operatorSymbols : List String :=
  ["~~~", "~~*", "~~", "~*", "~", "-|-", "->>", "->", "<=>", "<->", "<=", "<>", "<@", ">=", "!=",
    "==", "=>", "::", ":=", "||/", "||", "|/", "|>", "#>>", "#>", "#-", "&&", "&<", "&>", "??",
    "?&", "?|", "@@", "@>"]

/-- Characters that are a token of their own. -/
def singleSymbols : List Char :=
  ['(', ')', '[', ']', '\x7b', '\x7d', '&', '^', ':', ',', '-', '.', '=', '>', '<', '%', '!', '|',
    '+', ';', '/', '\\', '*', '~', '?', '@', '#', '$', '\'', '\x60', '"']

/-- Keywords of more than one word, each with its words. -/
def compoundWords : List (List String) :=
  [["CHARACTER", "SET"], ["CHARACTER", "VARYING"], ["CHAR", "VARYING"], ["CLUSTER", "BY"],
    ["CONNECT", "BY"], ["DISTRIBUTE", "BY"], ["DOUBLE", "PRECISION"], ["FOR", "TIMESTAMP"],
    ["FOR", "VERSION"], ["FOREIGN", "KEY"], ["GROUP", "BY"], ["GROUPING", "SETS"],
    ["ORDER", "BY"], ["PARTITION", "BY"], ["PARTITIONED", "BY"], ["PRIMARY", "KEY"],
    ["SIMILAR", "TO"], ["SORT", "BY"], ["START", "WITH"]]

end QueryTyping.Sql
