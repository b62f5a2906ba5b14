import SchemaStore.Table
import SchemaStore.Value

/-!
# Dialects

The two dialects differ in how they quote names, mark parameters, and write
constants.  A name is quoted if it is reserved, has a capital letter, or is no
plain name.
-/

namespace SchemaStore

inductive Dialect where
  | sqlite
  | mysql
deriving DecidableEq, Repr

/-- A statement, or a part of one, with its parameters in order. -/
structure Sql where
  text : String
  params : List Value := []
deriving Repr, Inhabited

namespace Sql

/-- A part without parameters. -/
def raw (text : String) : Sql :=
  ⟨text, []⟩

/-- One part after the other. -/
def append (first second : Sql) : Sql :=
  ⟨first.text ++ second.text, first.params ++ second.params⟩

instance : Append Sql := ⟨append⟩

/-- Parts with a separator between them. -/
def join (separator : String) : List Sql → Sql
  | [] => ⟨"", []⟩
  | [part] => part
  | part :: rest => part ++ raw separator ++ join separator rest

def parens (part : Sql) : Sql :=
  raw "(" ++ part ++ raw ")"

end Sql

namespace Dialect

def all : List Dialect := [.sqlite, .mysql]

/-- The name of a dialect's backend. -/
def label : Dialect → String
  | .sqlite => "sqlite"
  | .mysql => "mysql"

def traits (dialect : Dialect) : BackendTraits :=
  BackendTraits.ofName dialect.label

def reservedWords : Dialect → List String
  | .sqlite =>
    [ "add", "after", "all", "alter", "analyze", "and", "as", "asc", "attach", "autoincrement",
      "before", "begin", "between", "by", "cascade", "case", "cast", "check", "collate", "column",
      "commit", "conflict", "constraint", "create", "cross", "current_date", "current_time",
      "current_timestamp", "database", "default", "deferrable", "deferred", "delete", "desc",
      "detach", "distinct", "drop", "each", "else", "end", "escape", "except", "exclusive",
      "exists", "explain", "false", "fail", "for", "foreign", "from", "full", "glob", "group",
      "having", "if", "ignore", "immediate", "in", "index", "indexed", "initially", "inner",
      "insert", "instead", "intersect", "into", "is", "isnull", "join", "key", "left", "like",
      "limit", "match", "natural", "not", "notnull", "null", "of", "offset", "on", "or", "order",
      "outer", "plan", "pragma", "primary", "query", "raise", "references", "reindex", "rename",
      "replace", "restrict", "right", "rollback", "row", "select", "set", "table", "temp",
      "temporary", "then", "to", "transaction", "trigger", "true", "union", "unique", "update",
      "using", "vacuum", "values", "view", "virtual", "when", "where" ]
  | .mysql =>
    [ "accessible", "add", "admin", "all", "alter", "analyze", "and", "array", "as", "asc",
      "asensitive", "before", "between", "bigint", "binary", "blob", "both", "by", "call",
      "cascade", "case", "change", "char", "character", "check", "collate", "column", "condition",
      "constraint", "continue", "convert", "create", "cross", "cube", "cume_dist", "current_date",
      "current_time", "current_timestamp", "current_user", "cursor", "database", "databases",
      "day_hour", "day_microsecond", "day_minute", "day_second", "dec", "decimal", "declare",
      "default", "delayed", "delete", "dense_rank", "desc", "describe", "deterministic",
      "distinct", "distinctrow", "div", "double", "drop", "dual", "each", "else", "elseif",
      "empty", "enclosed", "escaped", "except", "exists", "exit", "explain", "false", "fetch",
      "first_value", "float", "float4", "float8", "for", "force", "foreign", "from", "fulltext",
      "function", "general", "generated", "get", "get_master_public_key", "grant", "group",
      "grouping", "groups", "having", "high_priority", "hour_microsecond", "hour_minute",
      "hour_second", "if", "ignore", "ignore_server_ids", "in", "index", "infile", "inner",
      "inout", "insensitive", "insert", "int", "int1", "int2", "int3", "int4", "int8", "integer",
      "intersect", "interval", "into", "io_after_gtids", "io_before_gtids", "is", "iterate",
      "join", "json_table", "key", "keys", "kill", "lag", "last_value", "lateral", "lead",
      "leading", "leave", "left", "like", "limit", "linear", "lines", "load", "localtime",
      "localtimestamp", "lock", "long", "longblob", "longtext", "loop", "low_priority",
      "master_bind", "master_heartbeat_period", "master_ssl_verify_server_cert", "match",
      "maxvalue", "mediumblob", "mediumint", "mediumtext", "member", "middleint",
      "minute_microsecond", "minute_second", "mod", "modifies", "natural", "no_write_to_binlog",
      "not", "nth_value", "ntile", "null", "numeric", "of", "on", "optimize", "optimizer_costs",
      "option", "optionally", "or", "order", "out", "outer", "outfile", "over", "parallel",
      "parse_gcol_expr", "partition", "percent_rank", "persist", "persist_only", "precision", "primary", "procedure",
      "purge", "qualify", "range", "rank", "read", "read_write", "reads", "real", "recursive",
      "references", "regexp", "release", "rename", "repeat", "replace", "require", "resignal",
      "restrict", "return", "revoke", "right", "rlike", "role", "row", "row_number", "rows",
      "schema", "schemas", "second_microsecond", "select", "sensitive", "separator", "set", "show",
      "signal", "slow", "smallint", "spatial", "specific", "sql", "sql_after_gtids",
      "sql_before_gtids", "sql_big_result", "sql_calc_found_rows", "sql_small_result",
      "sqlexception", "sqlstate", "sqlwarning", "ssl", "starting", "stored", "straight_join",
      "system", "table", "terminated", "then", "tinyblob", "tinyint", "tinytext",
      "to", "trailing", "trigger", "true", "undo", "union", "unique", "unlock", "unsigned",
      "update", "usage", "use", "using", "utc_date", "utc_time", "utc_timestamp", "values",
      "varbinary", "varchar", "varcharacter", "varying", "virtual", "when", "where", "while",
      "window", "with", "write", "xor", "year_month", "zerofill" ]

/-- The character that names are quoted with. -/
def quoteMark : Dialect → Char
  | .sqlite => '\x22'
  | .mysql => '\x60'

/-- Characters of names without quotes: those of ASCII, and the two small letters that a
caseless comparison takes for an `s` and an `i`. -/
def isNameChar (c : Char) : Bool :=
  c.isAlphanum || c == '_' || c == '$' || c == 'ſ' || c == 'ı'

/-- A name without the one line feed that may end it. -/
def withoutLineFeed (name : String) : List Char :=
  if name.toList.getLast? == some '\n' then name.toList.dropLast else name.toList

/-- Whether a name has to be quoted. -/
def needsQuotes (dialect : Dialect) (name : String) : Bool :=
  let cs := withoutLineFeed name
  let starts (c : Char) : Bool := !c.isDigit && c != '$'
  dialect.reservedWords.contains (Text.lower name) ||
    !(cs.head?.any starts) || !cs.all isNameChar || Text.lower name != name

/-- Double every occurrence of the characters of a class. -/
def doubled (special : Char → Bool) (cs : List Char) : List Char :=
  cs.flatMap fun c => if special c then [c, c] else [c]

def quote (dialect : Dialect) (name : String) : String :=
  let mark := dialect.quoteMark
  let special (c : Char) : Bool := c == mark || (dialect == .mysql && c == '%')
  String.ofList (mark :: doubled special name.toList ++ [mark])

/-- A name as statements write it. -/
def name (dialect : Dialect) (name : String) : String :=
  if dialect.needsQuotes name then dialect.quote name else name

/-- The name that a database reads where statements write a name. -/
def readName (dialect : Dialect) (name : String) : String :=
  if dialect.needsQuotes name then name else String.ofList (withoutLineFeed name)

/-- A column as statements write it. -/
def column (dialect : Dialect) (ref : ColumnRef) : String :=
  dialect.name ref.source ++ "." ++ dialect.name ref.name

def textLiteral (dialect : Dialect) (s : String) : String :=
  let special (c : Char) : Bool :=
    c == '\x27' || (dialect == .mysql && (c == '\\' || c == '%'))
  String.ofList ('\x27' :: doubled special s.toList ++ ['\x27'])

/-- The mark of a parameter. -/
def marker : Dialect → String
  | .sqlite => "?"
  | .mysql => "%s"

def param (dialect : Dialect) (value : Value) : Sql :=
  ⟨dialect.marker, [value]⟩

/-- A truth value as a constant. -/
def constant : Dialect → Bool → String
  | .sqlite, b => if b then "1" else "0"
  | .mysql, b => if b then "true" else "false"

end Dialect
end SchemaStore
