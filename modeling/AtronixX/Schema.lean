import AtronixX.Crypto

/-! The schema of the database file: what `_connect` makes of any file, what `_validate_db` asks
of one, and the columns that the methods of `Database` name. -/
namespace AtronixX.Schema
open Crypto

inductive Kind
  | table
  | view
  | index
  deriving DecidableEq, Repr

/-- An entry of `sqlite_master`, with the columns of a table or a view. -/
structure Object where
  kind : Kind
  name : String
  columns : List String
  deriving DecidableEq, Repr

/-- SQLite folds the ASCII letters of names. -/
def same (one two : String) : Bool := one.toList.map Char.toLower == two.toList.map Char.toLower

/-- Tables, views and indexes share one space of names. -/
def named (name : String) (objects : List Object) : Option Object :=
  objects.find? fun object => same object.name name

def Object.has (object : Object) (column : String) : Bool := object.columns.any (same column)

inductive Create
  | table (name : String) (columns : List String)
  | index (name table column : String)
  deriving DecidableEq, Repr

def usersColumns : List String :=
  ["id","username","first_name","language","terms_accepted","is_banned","ban_reason","created_at",
    "last_seen","sub_expires_at","sub_max_hosts","n3","n1","nexp","notify_pending",
    "request_notified","started"]

def hostsColumns : List String :=
  ["id","owner_id","label","ip","port","username","auth_type","secret","passphrase",
    "host_fingerprint","group_id","favorite","created_at"]

def schema : List Create :=
  [.table "users" usersColumns,
    .table "groups" ["id","owner_id","name"],
    .table "hosts" hostsColumns,
    .index "idx_hosts_owner" "hosts" "owner_id",
    .table "snippets" ["id","owner_id","name","command"],
    .table "settings" ["key","value"],
    .table "channels" ["id","chat_id","title","username","link"],
    .table "admin_log" ["id","ts","action","target","detail"]]

def Create.name : Create → String
  | .table name _ => name
  | .index name _ _ => name

/-- The statement on a file; `none` is an `OperationalError`. A table is not made when a table or
a view has its name, and an index not when an index has. -/
def Create.run (objects : List Object) : Create → Option (List Object)
  | .table name columns => match named name objects with
    | none => some (objects ++ [⟨.table,name,columns⟩])
    | some object => if object.kind = .index then none else some objects
  | .index name target column => match named target objects with
    | none => none
    | some indexed =>
      if indexed.kind ≠ .table then none
      else match named name objects with
        | some object => if object.kind = .index then some objects else none
        | none => if indexed.has column then some (objects ++ [⟨.index,name,[]⟩]) else none

/-- `executescript(SCHEMA)` of `_connect`. -/
def connect (objects : List Object) : Option (List Object) := schema.foldlM Create.run objects

/-- What `SCHEMA` makes of an empty file. -/
def written : List Object :=
  [⟨.table,"users",usersColumns⟩,⟨.table,"groups",["id","owner_id","name"]⟩,
    ⟨.table,"hosts",hostsColumns⟩,⟨.index,"idx_hosts_owner",[]⟩,
    ⟨.table,"snippets",["id","owner_id","name","command"]⟩,⟨.table,"settings",["key","value"]⟩,
    ⟨.table,"channels",["id","chat_id","title","username","link"]⟩,
    ⟨.table,"admin_log",["id","ts","action","target","detail"]⟩]

theorem connect_empty : connect [] = some written := rfl

theorem connect_written : connect written = some written := rfl

structure DbFile where
  /-- `PRAGMA integrity_check`. -/
  intact : Bool
  objects : List Object
  deriving DecidableEq, Repr

def requiredTables : List String := ["users","hosts","groups","snippets","settings","channels"]

/-- `_validate_db`; `none` is no database. -/
def validateDb : Option DbFile → Except CryptoFault Unit
  | none => .error (.cryptoError "database in backup is invalid")
  | some file =>
    if !file.intact then .error (.cryptoError "database in backup is corrupted")
    else if requiredTables.all fun name =>
        file.objects.any fun object => object.kind == .table && object.name == name then .ok ()
    else .error (.cryptoError "backup does not look like an AtronixX-Core database")

inductive Method
  | getUser | ensureUser | ensurePlaceholder | setLanguage | acceptTerms | setBanned
  | markRequestNotified | clearNotifyPending | markNotified | deleteUser
  | grant | revoke | usersWithSubscription | listUsers | userWithHosts | stats | audienceIds
  | getSetting | setSetting
  | addHost | getHost | getHostDecrypted | listHosts | countHosts | updateHost | deleteHost
  | setHostFingerprint | toggleFavorite | setHostGroup
  | listGroups | getGroup | addGroup | deleteGroup
  | listSnippets | getSnippet | addSnippet | deleteSnippet
  | listChannels | addChannel | removeChannel
  | log | recentLogs
  deriving DecidableEq, Repr

/-- The columns that the statements of the method name, and that it reads from a row. -/
def Method.uses : Method → List (String × List String)
  | .getUser => [("users",["id"])]
  | .ensureUser => [("users",["id","username","first_name","created_at","last_seen","started"])]
  | .ensurePlaceholder => [("users",["id","created_at","started"])]
  | .setLanguage => [("users",["language","id"])]
  | .acceptTerms => [("users",["terms_accepted","id"])]
  | .setBanned => [("users",["is_banned","ban_reason","id"])]
  | .markRequestNotified => [("users",["request_notified","id"])]
  | .clearNotifyPending => [("users",["notify_pending","id"])]
  | .markNotified => [("users",["n3","n1","nexp","id"])]
  | .deleteUser => [("hosts",["owner_id"]),("groups",["owner_id"]),("snippets",["owner_id"]),
      ("users",["id"])]
  | .grant => [("users",["id","created_at","started","sub_expires_at","sub_max_hosts","n3","n1",
      "nexp","notify_pending"])]
  | .revoke => [("users",["sub_expires_at","sub_max_hosts","id"])]
  | .usersWithSubscription => [("users",["sub_expires_at"])]
  | .listUsers => [("users",["id","sub_expires_at","is_banned","created_at"]),("hosts",["owner_id"])]
  | .userWithHosts => [("users",["id"]),("hosts",["owner_id"])]
  | .stats => [("users",["sub_expires_at","is_banned"]),("hosts",[])]
  | .audienceIds => [("users",["id","started","is_banned","sub_expires_at"])]
  | .getSetting => [("settings",["value","key"])]
  | .setSetting => [("settings",["key","value"])]
  | .addHost => [("hosts",["owner_id","label","ip","port","username","auth_type","secret",
      "passphrase","group_id","created_at"])]
  | .getHost => [("hosts",["id","owner_id"])]
  | .getHostDecrypted => [("hosts",["id","owner_id","secret","passphrase"])]
  | .listHosts => [("hosts",["id","owner_id","label","ip","port","username","auth_type",
      "host_fingerprint","group_id","favorite","created_at"])]
  | .countHosts => [("hosts",["owner_id"])]
  | .updateHost => [("hosts",["label","ip","port","username","auth_type","host_fingerprint",
      "secret","passphrase","id","owner_id"])]
  | .deleteHost => [("hosts",["id","owner_id"])]
  | .setHostFingerprint => [("hosts",["host_fingerprint","id"])]
  | .toggleFavorite => [("hosts",["favorite","id","owner_id"])]
  | .setHostGroup => [("hosts",["group_id","id","owner_id"])]
  | .listGroups => [("groups",["id","owner_id","name"]),("hosts",["group_id"])]
  | .getGroup => [("groups",["id","owner_id"])]
  | .addGroup => [("groups",["owner_id","name"])]
  | .deleteGroup => [("hosts",["group_id","owner_id"]),("groups",["id","owner_id"])]
  | .listSnippets => [("snippets",["owner_id","name"])]
  | .getSnippet => [("snippets",["id","owner_id"])]
  | .addSnippet => [("snippets",["owner_id","name","command"])]
  | .deleteSnippet => [("snippets",["id","owner_id"])]
  | .listChannels => [("channels",["id"])]
  | .addChannel => [("channels",["chat_id","title","username","link"])]
  | .removeChannel => [("channels",["id"])]
  | .log => [("admin_log",["ts","action","target","detail"])]
  | .recentLogs => [("admin_log",["id"])]

/-- There is a table of this name with these columns. -/
def Provides (objects : List Object) (table : String) (columns : List String) : Prop :=
  ∃ object, named table objects = some object ∧ object.kind = .table ∧
    ∀ column ∈ columns, object.has column = true

/-- No method fails because of a missing table or column. -/
def Usable (objects : List Object) : Prop :=
  ∀ (method : Method) (use : String × List String), use ∈ method.uses →
    Provides objects use.1 use.2

def tables : List (String × List String) :=
  schema.filterMap fun create => match create with
    | .table name columns => some (name,columns)
    | .index _ _ _ => none

def methods : List Method :=
  [.getUser,.ensureUser,.ensurePlaceholder,.setLanguage,.acceptTerms,.setBanned,
    .markRequestNotified,.clearNotifyPending,.markNotified,.deleteUser,.grant,.revoke,
    .usersWithSubscription,.listUsers,.userWithHosts,.stats,.audienceIds,.getSetting,.setSetting,
    .addHost,.getHost,.getHostDecrypted,.listHosts,.countHosts,.updateHost,.deleteHost,
    .setHostFingerprint,.toggleFavorite,.setHostGroup,.listGroups,.getGroup,.addGroup,.deleteGroup,
    .listSnippets,.getSnippet,.addSnippet,.deleteSnippet,.listChannels,.addChannel,.removeChannel,
    .log,.recentLogs]

theorem mem_methods (method : Method) : method ∈ methods := by
  cases method <;> decide

/-- The methods name columns of `SCHEMA` only. -/
theorem uses_covered : ∀ method ∈ methods, ∀ use ∈ method.uses,
    ∃ table ∈ tables, table.1 = use.1 ∧ ∀ column ∈ use.2, column ∈ table.2 := by
  decide

theorem columns_used : ∀ table ∈ tables, ∀ column ∈ table.2,
    ∃ method ∈ methods, ∃ use ∈ method.uses, use.1 = table.1 ∧ column ∈ use.2 := by
  decide

end AtronixX.Schema
