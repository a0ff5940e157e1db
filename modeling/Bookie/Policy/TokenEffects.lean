/-
Effects read off the tokens of a text. A function or procedure that reaches beyond
the data is known by its name; the scan over the words of a text finds it wherever it
stands, and reports an administrative call only together with the effect.
-/

import Bookie.Policy.Effects
import Bookie.Text.Chars

namespace Bookie.Policy

open Effects Text

def toAsciiLowercase (name : String) : String := String.ofList (name.toList.map Char.toLower)

def administrativeFunctions : List String :=
  ["lo_create", "lo_export", "lo_import", "lo_put", "lo_unlink", "lowrite", "nextval",
    "pg_advisory_lock", "pg_advisory_lock_shared", "pg_advisory_unlock", "pg_advisory_unlock_all",
    "pg_advisory_unlock_shared", "pg_advisory_xact_lock", "pg_advisory_xact_lock_shared",
    "pg_backup_start", "pg_backup_stop", "pg_cancel_backend", "pg_create_restore_point",
    "pg_create_logical_replication_slot", "pg_create_physical_replication_slot",
    "pg_drop_replication_slot", "pg_log_backend_memory_contexts", "pg_promote", "pg_reload_conf",
    "pg_rotate_logfile", "pg_start_backup", "pg_stop_backup", "pg_switch_wal",
    "pg_terminate_backend", "pg_try_advisory_lock", "pg_try_advisory_lock_shared",
    "pg_try_advisory_xact_lock", "pg_try_advisory_xact_lock_shared", "pg_wal_replay_pause",
    "pg_wal_replay_resume", "lo_from_bytea", "lo_truncate", "lo_truncate64", "set_config", "setval",
    "pg_read_file", "pg_read_binary_file", "pg_stat_file", "pg_ls_dir", "pg_ls_logdir",
    "pg_ls_waldir", "pg_ls_archive_statusdir", "pg_ls_tmpdir", "dblink", "dblink_exec",
    "dblink_connect", "dblink_connect_u", "dblink_open", "dblink_fetch", "dblink_send_query",
    "query_to_xml", "query_to_xml_and_xmlschema", "query_to_xmlschema", "crosstab", "crosstab2",
    "crosstab3", "crosstab4", "lo_creat", "lo_from_bytea", "lo_truncate", "lo_truncate64",
    "pg_notify", "pg_file_write", "pg_file_rename", "pg_file_unlink", "pg_stat_statements_reset"]

def administrativeFunctionPrefixes : List String :=
  ["pg_ls_", "pg_logical_", "pg_replication_", "pg_copy_logical_replication_slot",
    "pg_copy_physical_replication_slot", "pg_stat_reset", "crosstab"]

def isAdministrativeFunctionExactName (name : String) : Bool :=
  administrativeFunctions.contains (toAsciiLowercase name)

def isAdministrativeFunctionPrefix (name : String) : Bool :=
  administrativeFunctionPrefixes.any fun start => startsWith start (toAsciiLowercase name).toList

def isAdministrativeFunctionName (name : String) : Bool :=
  isAdministrativeFunctionExactName name || isAdministrativeFunctionPrefix name

def isMssqlExternalRowset (lowered : String) : Bool :=
  ["openrowset", "openquery", "opendatasource"].contains lowered

def isClickhouseExternalSource (lowered : String) : Bool :=
  ["file", "url", "urlcluster", "s3", "s3cluster", "hdfs", "hdfscluster", "remote", "remotesecure",
    "cluster", "clusterallreplicas", "mysql", "postgresql", "mongodb", "jdbc", "odbc", "sqlite",
    "azureblobstorage", "azureblobstoragecluster", "deltalake", "deltalakecluster", "iceberg",
    "icebergcluster", "hudi", "hudicluster", "redis", "executable", "gcs", "oss", "cosn", "hive",
    "arrowflight", "filecluster"].contains lowered

variable (driverId name : String)

def isHostOrFileAccessFunction : Bool :=
  let lowered := toAsciiLowercase name
  match driverId with
  | "postgres" =>
    ["lo_export", "lo_import", "pg_read_file", "pg_read_binary_file", "pg_stat_file", "pg_ls_dir",
      "pg_ls_logdir", "pg_ls_waldir", "pg_ls_archive_statusdir", "pg_ls_tmpdir", "pg_file_write",
      "pg_file_rename", "pg_file_unlink"].contains lowered
  | "mysql" => lowered == "load_file"
  | "mssql" => isMssqlExternalRowset lowered
  | "clickhouse" => isClickhouseExternalSource lowered
  | "sqlite" => ["readfile", "writefile", "load_extension"].contains lowered
  | "duckdb" =>
    ["read_text", "read_blob", "read_csv", "read_csv_auto", "read_parquet", "read_json",
      "read_json_auto", "read_ndjson", "read_ndjson_auto", "write_csv",
      "write_parquet"].contains lowered
  | _ => false

def isSessionStateFunction : Bool :=
  let lowered := toAsciiLowercase name
  lowered == "set_config" || (driverId == "postgres" && startsWith "pg_advisory_" lowered.toList) ||
    (driverId == "mysql" && ["get_lock", "release_lock", "release_all_locks"].contains lowered)

def isHostWriteFunction : Bool :=
  driverId == "duckdb" && ["write_csv", "write_parquet"].contains (toAsciiLowercase name)

def isEngineAdministrativeFunctionName : Bool :=
  let lowered := toAsciiLowercase name
  match driverId with
  | "mysql" => ["benchmark", "load_file", "sleep"].contains lowered
  | "mssql" => isMssqlExternalRowset lowered
  | "clickhouse" => isClickhouseExternalSource lowered
  | "sqlite" =>
    ["writefile", "readfile", "edit", "load_extension", "fts3_tokenizer"].contains lowered
  | _ => false

def isAdministrativeProcedureName : Bool :=
  let lowered := toAsciiLowercase name
  driverId == "mssql" && (startsWith "xp_" lowered.toList ||
    ["sp_addsrvrolemember", "sp_configure", "sp_lock", "sp_password", "sp_who",
      "sp_who2"].contains lowered)

/-- The tokens the scan tells apart. -/
inductive SqlToken where
  | word (value : String) (quoted : Bool)
  | leftParen
  | period
  | whitespace
  | other
  deriving DecidableEq, Repr

def SqlToken.isWhitespace : SqlToken → Bool
  | .whitespace => true
  | _ => false

/-- The name is unqualified, or qualified with the schema of the engine's own functions.
The tokens before it are given from the last one back. -/
def functionPrefixIsSystemScoped (before : List SqlToken) : Bool :=
  match before.filter fun token => !token.isWhitespace with
  | .period :: .word schema quoted :: _ =>
    schema == "pg_catalog" || (!quoted && toAsciiLowercase schema == "pg_catalog")
  | .period :: _ => false
  | _ => true

/-- What one word adds: its effects, and whether it is an administrative call. -/
def wordEffects (before after : List SqlToken) : Effects × Bool :=
  let isCall := (after.find? fun token => !token.isWhitespace) == some .leftParen
  let isProcedure := isAdministrativeProcedureName driverId name
  let procedure := (empty.unionIf .admin isProcedure).unionIf .hostOrFileAccess
    (isProcedure && startsWith "xp_" (toAsciiLowercase name).toList)
  if !isCall then (procedure, isProcedure)
  else
    let isKnown := isAdministrativeFunctionExactName name ||
      (isAdministrativeFunctionPrefix name && functionPrefixIsSystemScoped before)
    let isAdministrative := isKnown || isEngineAdministrativeFunctionName driverId name
    let isSession := isSessionStateFunction driverId name
    let effects := procedure.unionIf .admin isAdministrative
    let effects := effects.unionIf .hostOrFileAccess (isHostOrFileAccessFunction driverId name)
    let effects := effects.unionIf .sessionState isSession
    let effects := effects.unionIf .admin (isSession && driverId == "mysql")
    let effects := effects.unionIf .admin (isHostWriteFunction driverId name)
    (effects, isProcedure || isAdministrative)

/-- The scan over the tokens, those before given from the last one back. -/
def tokenEffects (driverId : String) : List SqlToken → List SqlToken → Effects × Bool
  | _, [] => (.empty, false)
  | before, token :: after =>
    let later := tokenEffects driverId (token :: before) after
    match token with
    | .word name _ =>
      let found := wordEffects driverId name before after
      (found.1.union later.1, found.2 || later.2)
    | _ => later

/-- A text the tokenizer rejects has no tokens to read effects off. -/
def sqlEffectsFromTokens (driverId : String) (tokens : Option (List SqlToken)) : Effects × Bool :=
  match tokens with
  | none => (.empty, false)
  | some tokens => tokenEffects driverId [] tokens

/-! ### An administrative call has the effect -/

namespace Effects

theorem has_union (self other : Effects) (index : Nat) :
    (self.union other).has index = (self.has index || other.has index) := BitVec.getLsbD_or

private theorem has_unionIf (self other : Effects) (condition : Bool) (index : Nat) :
    (self.unionIf other condition).has index =
      (self.has index || (condition && other.has index)) := by
  cases condition with
  | false => exact (Bool.or_false _).symm
  | true => exact has_union self other index

theorem contains_admin (self : Effects) : self.contains .admin = self.has 3 :=
  contains_bit self (by decide)

end Effects

theorem admin_has : admin.has 3 = true := by decide

private theorem wordEffects_admin (before after : List SqlToken)
    (call : (wordEffects driverId name before after).2 = true) :
    (wordEffects driverId name before after).1.has 3 = true := by
  unfold wordEffects at call ⊢
  dsimp only at call ⊢
  split at call
  · rename_i uncalled
    rw [if_pos uncalled]
    dsimp only at call ⊢
    rw [has_unionIf, has_unionIf, call, admin_has]
    simp
  rename_i called
  rw [if_neg called]
  simp only [has_unionIf, admin_has]
  rcases Bool.or_eq_true_iff.mp call with procedure | administrative
  · rw [procedure]
    simp
  · rw [administrative]
    simp

private theorem tokenEffects_admin (driverId : String) (before tokens : List SqlToken)
    (call : (tokenEffects driverId before tokens).2 = true) :
    (tokenEffects driverId before tokens).1.has 3 = true := by
  induction tokens generalizing before with
  | nil => cases call
  | cons token after ih =>
    cases token with
    | word name quoted =>
      change (union _ _).has 3 = true
      rw [has_union, Bool.or_eq_true]
      rcases Bool.or_eq_true_iff.mp call with found | later
      · exact .inl (wordEffects_admin driverId name before after found)
      · exact .inr (ih _ later)
    | leftParen | period | whitespace | other => exact ih _ call

theorem sqlEffectsFromTokens_admin (driverId : String) (tokens : Option (List SqlToken))
    (call : (sqlEffectsFromTokens driverId tokens).2 = true) :
    (sqlEffectsFromTokens driverId tokens).1.contains .admin = true := by
  rw [contains_admin]
  cases tokens with
  | none => cases call
  | some tokens => exact tokenEffects_admin driverId [] tokens call

end Bookie.Policy
