import Tablewright.Text.Ascii

/-!
# The functions of SQL

The scalar functions that an expression may call, with the numbers of arguments they take
(`isFunction`). Functions that work on groups of rows have no place in an expression on a row
and are not listed.
-/

namespace Tablewright.Sql

/-- Names of functions with their least and, if there is one, greatest number of arguments. -/
def functionArities : List (String × Nat × Option Nat) :=
  [("abs", 1, some 1), ("changes", 0, some 0), ("char", 0, none), ("coalesce", 2, none),
    ("concat", 1, none), ("concat_ws", 2, none), ("current_date", 0, some 0),
    ("current_time", 0, some 0), ("current_timestamp", 0, some 0), ("date", 0, none),
    ("datetime", 0, none), ("format", 0, none), ("glob", 2, some 2), ("hex", 1, some 1),
    ("if", 2, none), ("ifnull", 2, some 2), ("iif", 2, none), ("instr", 2, some 2),
    ("json", 1, some 1), ("json_array", 0, none), ("json_array_length", 1, some 2),
    ("json_error_position", 1, some 1), ("json_extract", 0, none), ("json_insert", 0, none),
    ("json_object", 0, none), ("json_patch", 2, some 2), ("json_pretty", 1, some 2),
    ("json_quote", 1, some 1), ("json_remove", 0, none), ("json_replace", 0, none),
    ("json_set", 0, none), ("json_type", 1, some 2), ("json_valid", 1, some 2),
    ("jsonb", 1, some 1), ("julianday", 0, none), ("last_insert_rowid", 0, some 0),
    ("length", 1, some 1), ("like", 2, some 3), ("likelihood", 2, some 2), ("likely", 1, some 1),
    ("lower", 1, some 1), ("ltrim", 1, some 2), ("match", 2, some 2), ("max", 2, none),
    ("min", 2, none), ("nullif", 2, some 2), ("octet_length", 1, some 1), ("printf", 0, none),
    ("quote", 1, some 1), ("random", 0, some 0), ("randomblob", 1, some 1),
    ("replace", 3, some 3), ("round", 1, some 2), ("rtrim", 1, some 2), ("sign", 1, some 1),
    ("soundex", 1, some 1), ("sqlite_source_id", 0, some 0), ("sqlite_version", 0, some 0),
    ("strftime", 0, none), ("substr", 2, some 3), ("substring", 2, some 3), ("subtype", 1, some 1),
    ("time", 0, none), ("timediff", 2, some 2), ("total_changes", 0, some 0), ("trim", 1, some 2),
    ("typeof", 1, some 1), ("unhex", 1, some 2), ("unicode", 1, some 1), ("unixepoch", 0, none),
    ("unlikely", 1, some 1), ("upper", 1, some 1), ("zeroblob", 1, some 1), ("->", 2, some 2),
    ("->>", 2, some 2)]

/-- Whether there is a function of this name with this number of arguments. -/
def isFunction (name : String) (arguments : Nat) : Bool :=
  functionArities.any fun (f, least, greatest) =>
    Text.sameName f name && least ≤ arguments && greatest.all (arguments ≤ ·)

end Tablewright.Sql
