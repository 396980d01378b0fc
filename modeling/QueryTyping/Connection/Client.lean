import QueryTyping.Connection
import QueryTyping.TypeDescriptor.Builtin

/-!
# Clients

A client opens its connection when it first needs it and keeps it until it is
closed.  It describes statements and asks the catalog, and sorts the errors of
the database by who is at fault: the connection, the time limit or the
statement.  Every step on the connection is recorded.
-/

namespace QueryTyping

open Text

structure Client (σ : Type) where
  config : ResolvedConfig
  isOpen : Bool := false
  /-- What happened so far, latest first. -/
  events : List ConnectionEvent := []
  server : σ

/-- What a query returned, with the names of the types. -/
structure QueryResult where
  columns : List (String × Int × String)
  rows : List (List Json)
  status : String

/-- An identifier in double quotes, with those inside it doubled. -/
def quoteIdentifier (name : String) : String :=
  String.ofList ('"' :: name.toList.flatMap (fun c => if c = '"' then ['"', '"'] else [c]) ++ ['"'])

namespace ResolvedConfig

/-- The statement that sets the search path; the schema `public` comes last unless it is named. -/
def searchPathStatement (config : ResolvedConfig) : Option String :=
  let schemas := config.connection.searchPath
  if schemas.isEmpty then none
  else
    let all := if schemas.contains "public" then schemas else schemas ++ ["public"]
    some ("SET search_path TO " ++ ", ".intercalate (all.map quoteIdentifier))

/-- The statement that sets the time limit, in whole milliseconds. -/
def timeoutStatement (config : ResolvedConfig) : Except Error String :=
  match config.statementTimeout.timesNat 1000 with
  | .nan => .error (.unforeseen (.badValue "cannot convert float NaN to integer"))
  | timeout =>
    match timeout.truncate? with
    | some milliseconds => .ok ("SET statement_timeout = " ++ toString milliseconds)
    | none => .error (.unforeseen .numberOutOfRange)

end ResolvedConfig

namespace DatabaseError

/-- An error that keeps its class. -/
def raw (error : DatabaseError) : Error := .unforeseen (.database error)

/-- An error while connecting. -/
def whileConnecting (settings : ConnectionSettings) (error : DatabaseError) : Error :=
  if error.errorClass.isOperational then
    .failure (.network ("Connection failed to " ++ settings.host ++ ":" ++ toString settings.port ++
      " database '" ++ settings.dbname ++ "': " ++ error.message))
  else error.raw

/-- An error of a query. -/
def ofQuery (timeout : Double) (error : DatabaseError) : Error :=
  match error.errorClass with
  | .canceled =>
    .failure (.timeout ("Query timed out after " ++ timeout.text ++ "s: " ++ error.message))
  | .syntaxError => .failure (.general ("SQL error: " ++ error.message))
  | .operational => .failure (.network ("Database error: " ++ error.message))
  | _ => error.raw

/-- An error of a script. -/
def ofScript (error : DatabaseError) : Error :=
  if error.errorClass.isOperational then .failure (.network ("Database error: " ++ error.message))
  else .failure (.general ("SQL error: " ++ error.message))

/-- An error while a statement is described. -/
def ofStatement (error : DatabaseError) : Error :=
  if error.errorClass.isOperational then .failure (.network ("Database error: " ++ error.message))
  else error.raw

end DatabaseError

/-- A column without a name has that of an unnamed expression. -/
def ServerField.description (field : ServerField) : FieldDescription :=
  { name := (field.name.filter (!·.isEmpty)).getD "?column?"
    typeOid := field.typeOid, tableOid := field.tableOid, tableColumn := field.tableColumn }

namespace Client

variable {σ α : Type}

def record (event : ConnectionEvent) : Attempt (Client σ) Unit :=
  modify fun client => { client with events := event :: client.events }

/-- Let the server act. -/
def serve (action : StateM σ α) : Attempt (Client σ) α := fun client =>
  let (answer, server) := action.run client.server
  (.ok answer, { client with server })

/-- Let the server act, and sort its errors. -/
def serveOr (sorted : DatabaseError → Error) (action : StateM σ (Except DatabaseError α)) :
    Attempt (Client σ) α := do
  match ← serve action with
  | .ok value => return value
  | .error error => throw (sorted error)

/-- Run a statement that returns nothing. -/
def execute (server : Server σ) (sorted : DatabaseError → Error) (sql : String) :
    Attempt (Client σ) Unit := do
  record (.execute sql)
  serveOr sorted (server.execute sql)

/-- Open the connection unless it is open, and send its settings. -/
def connect (server : Server σ) : Attempt (Client σ) Unit := do
  let client ← get
  if client.isOpen && !server.isClosed client.server then return
  let settings := client.config.connection
  record (.connect settings)
  serveOr (DatabaseError.whileConnecting settings) (server.connect settings)
  modify fun client => { client with isOpen := true }
  match client.config.timeoutStatement with
  | .ok sql => execute server DatabaseError.raw sql
  | .error error => throw error
  match client.config.searchPathStatement with
  | some sql => execute server DatabaseError.raw sql
  | none => return

/-- Run a query and return its result. -/
def query (server : Server σ) (sql : String) (params : Option (List (String × Json))) :
    Attempt (Client σ) QueryResult := do
  connect server
  record (.query sql params)
  let result ← serveOr (DatabaseError.ofQuery (← get).config.statementTimeout)
    (server.query sql params)
  return {
    columns := result.columns.map fun (name, oid) => (name, oid, TypeDescriptor.builtinName oid)
    rows := if result.columns.isEmpty then [] else result.rows
    status := result.status.getD "" }

/-- Run a script of statements. -/
def script (server : Server σ) (sql : String) : Attempt (Client σ) Unit := do
  connect server
  execute server DatabaseError.ofScript sql

def lookupType (server : Server σ) (oid : Int) : Attempt (Client σ) (Option CatalogType) := do
  connect server
  record (.type oid)
  serveOr (DatabaseError.ofQuery (← get).config.statementTimeout) (server.lookupType oid)

def lookupColumn (server : Server σ) (table number : Int) :
    Attempt (Client σ) (Option CatalogColumn) := do
  connect server
  record (.column table number)
  serveOr (DatabaseError.ofQuery (← get).config.statementTimeout)
    (server.lookupColumn table number)

/-- Run a body in a transaction block, which is rolled back if that is asked for or if the body
fails. -/
def transaction (forceRollback : Bool) (body : Attempt (Client σ) α) : Attempt (Client σ) α := do
  record (.begin forceRollback)
  let result ← tryCatch body fun error => do
    record .rollback
    throw error
  record (if forceRollback then .rollback else .commit)
  return result

/-- The value of a server's reply.  A rejection is the statement's fault unless the connection is
broken. -/
def valueOf (server : Server σ) (reply : ServerReply α) : Attempt (Client σ) α := do
  match reply with
  | .done value => return value
  | .raised error => throw error.ofStatement
  | .rejected bytes =>
    let message := String.ofList (trim (decodeLossy bytes))
    if server.isLost (← get).server then throw (.failure (.network ("Database error: " ++ message)))
    else throw (.failure (.inference { cause := .catalog, message, query := none }))

/-- Prepare a statement and describe its parameters and result columns. -/
def describe (server : Server σ) (sql : String) : Attempt (Client σ) StatementDescription := do
  connect server
  let described ← transaction false do
    record (.prepare sql)
    valueOf server (← serve (server.prepare sql))
    record .describePrepared
    valueOf server (← serve (server.describePrepared sql))
  return { paramOids := described.paramOids, fields := described.fields.map (·.description) }

/-- Close the connection, if one was opened. -/
def close : Attempt (Client σ) Unit := do
  if (← get).isOpen then
    record .close
    modify fun client => { client with isOpen := false }

/-- The catalog session that a client offers. -/
def session (server : Server σ) : Session (Client σ) where
  describe := describe server
  lookupType := lookupType server
  lookupColumn := lookupColumn server
  chainBound client := server.chainBound client.server

end Client

end QueryTyping
