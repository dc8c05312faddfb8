/-!
# Tables of the engine

Tables that can be read in every file whatever was created in it, and that no list of tables has:
the one in which the file keeps what was created, one for each setting of the engine, and those that
tell of other things or take texts apart. Main definition: `EngineTable.columns?`.
-/

namespace AccountPortal.EngineTable

/-- The tables in which a file keeps what was created in it: an old and a new name, for what stays
and for what is temporary. -/
def ownNames : List String :=
  ["sqlite_master", "sqlite_schema", "sqlite_temp_master", "sqlite_temp_schema"]

def ownColumns : List (String × String) :=
  [("type", "TEXT"), ("name", "TEXT"), ("tbl_name", "TEXT"), ("rootpage", "INT"), ("sql", "TEXT")]

/-- The settings whose table has one column of their name. -/
def settingNames : List String :=
  ["analysis_limit", "application_id", "auto_vacuum", "automatic_index", "cache_size",
   "cache_spill", "cell_size_check", "checkpoint_fullfsync", "compile_options", "count_changes",
   "data_version", "defer_foreign_keys", "empty_result_callbacks", "encoding", "foreign_keys",
   "freelist_count", "full_column_names", "fullfsync", "hard_heap_limit",
   "ignore_check_constraints", "integrity_check", "journal_mode", "journal_size_limit",
   "legacy_alter_table", "locking_mode", "max_page_count", "optimize", "page_count", "page_size",
   "query_only", "quick_check", "read_uncommitted", "recursive_triggers",
   "reverse_unordered_selects", "schema_version", "secure_delete", "short_column_names",
   "soft_heap_limit", "synchronous", "temp_store", "threads", "trusted_schema", "user_version",
   "writable_schema"]

/-- What else the engine tells of itself and of what was created. -/
def reports : List (String × List String) :=
  [("busy_timeout", ["timeout"]),
   ("collation_list", ["seq", "name"]),
   ("database_list", ["seq", "name", "file"]),
   ("default_cache_size", ["cache_size"]),
   ("foreign_key_check", ["table", "rowid", "parent", "fkid"]),
   ("foreign_key_list", ["id", "seq", "table", "from", "to", "on_update", "on_delete", "match"]),
   ("function_list", ["name", "builtin", "type", "enc", "narg", "flags"]),
   ("index_info", ["seqno", "cid", "name"]),
   ("index_list", ["seq", "name", "unique", "origin", "partial"]),
   ("index_xinfo", ["seqno", "cid", "name", "desc", "coll", "key"]),
   ("module_list", ["name"]),
   ("pragma_list", ["name"]),
   ("table_info", ["cid", "name", "type", "notnull", "dflt_value", "pk"]),
   ("table_list", ["schema", "name", "type", "ncol", "wr", "strict"]),
   ("table_xinfo", ["cid", "name", "type", "notnull", "dflt_value", "pk", "hidden"])]

/-- Tables with a name of their own, their columns without a type. -/
def readers : List (String × List String) :=
  [("json_each", ["key", "value", "type", "atom", "id", "parent", "fullkey", "path"]),
   ("json_tree", ["key", "value", "type", "atom", "id", "parent", "fullkey", "path"]),
   ("fts3tokenize", ["input", "token", "start", "end", "position"]),
   ("sqlite_stmt", ["sql", "ncol", "ro", "busy", "nscan", "nsort", "naidx", "nstep", "reprep",
     "run", "mem"])]

/-- The pages of the file. -/
def pageColumns : List (String × String) :=
  [("name", "TEXT"), ("path", "TEXT"), ("pageno", "INTEGER"), ("pagetype", "TEXT"),
   ("ncell", "INTEGER"), ("payload", "INTEGER"), ("unused", "INTEGER"), ("mx_payload", "INTEGER"),
   ("pgoffset", "INTEGER"), ("pgsize", "INTEGER")]

/-- Every table by its name in lower case, its columns with the types they are declared with. -/
def all : List (String × List (String × String)) :=
  let untyped (columns : List String) : List (String × String) := columns.map (·, "")
  ownNames.map (·, ownColumns)
    ++ settingNames.map (fun n => ("pragma_" ++ n, untyped [n]))
    ++ reports.map (fun (n, columns) => ("pragma_" ++ n, untyped columns))
    ++ readers.map (fun (n, columns) => (n, untyped columns))
    ++ [("dbstat", pageColumns)]

def columns? (name : String) : Option (List (String × String)) :=
  (all.find? (·.1 == name)).map (·.2)

end AccountPortal.EngineTable
