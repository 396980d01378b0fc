import QueryTyping.ConnectionUrl
import QueryTyping.Settings.SearchPath
import QueryTyping.Validation

/-!
# Connection settings

The settings of one connection, and layers of them.  A layer gives some settings
and leaves the others open.
-/

namespace QueryTyping

open Check

/-- The settings that one place gives. -/
structure SettingsLayer where
  host : Option String := none
  port : Option Int := none
  dbname : Option String := none
  user : Option String := none
  password : Option String := none
  sslmode : Option String := none
  searchPath : Option (List String) := none
  statementTimeout : Option Double := none
  defaultFormat : Option String := none
  deriving Inhabited

/-- The settings that a connection URL gives. -/
def UrlFields.layer (fields : UrlFields) : SettingsLayer :=
  { host := fields.host, port := fields.port.map (↑·), dbname := fields.dbname
    user := fields.user, password := fields.password, sslmode := fields.sslmode }

/-- The settings of one connection. -/
structure ConnectionSettings where
  host : String := "localhost"
  port : Int := 5432
  dbname : String := "postgres"
  user : Option String := none
  password : Option String := none
  sslmode : String := "prefer"
  searchPath : List String := []
  deriving Inhabited

/-- The connection settings of a layer, with built-in ones where it leaves them open. -/
def SettingsLayer.connection (layer : SettingsLayer) : ConnectionSettings :=
  let builtin : ConnectionSettings := {}
  { host := layer.host.getD builtin.host
    port := layer.port.getD builtin.port
    dbname := layer.dbname.getD builtin.dbname
    user := layer.user
    password := layer.password
    sslmode := layer.sslmode.getD builtin.sslmode
    searchPath := layer.searchPath.getD builtin.searchPath }

/-- The statement timeout, in seconds, that is built in. -/
def builtinTimeout : Double := Double.ofInt 30

namespace SettingsLayer

/-- The ways to secure a connection. -/
def sslModes : List String :=
  ["allow", "disable", "prefer", "require", "verify-ca", "verify-full"]

def checkSslMode : Check String := fun datum => do
  let mode ← text datum
  if sslModes.contains mode then return mode
  else breaks ("Invalid sslmode: '" ++ mode ++ "'. Must be one of: " ++ ", ".intercalate sslModes)

def checkPort : Check Int := fun datum => do
  let port ← integer datum
  if 1 ≤ port ∧ port ≤ 65535 then return port
  else breaks ("Invalid port: " ++ toString port ++ ". Must be 1-65535")

/-- A search path as one text or as a list of texts. -/
def checkSearchPath : Check (List String)
  | .text value => .ok (SearchPath.ofText value)
  | .list items => do
    let items ← items.mapM fun
      | .text value => .ok value
      | item => .error (.error (.unforeseen (.notText item.kind "strip")))
    return SearchPath.ofItems items
  | datum => list text datum

/-- The names of the settings of a connection. -/
def connectionNames : List String :=
  ["host", "port", "dbname", "user", "password", "sslmode", "search_path"]

/-- The connection settings among the fields of a table. -/
def connectionFields (members : List (String × Datum)) : Fields SettingsLayer := do
  let given {α : Type} (name : String) (check : Check α) : Fields (Option α) :=
    fieldOr members name none fun datum => (check datum).map some
  return {
    host := ← given "host" text
    port := ← given "port" checkPort
    dbname := ← given "dbname" text
    user := ← fieldOr members "user" none (optional text)
    password := ← fieldOr members "password" none (optional text)
    sslmode := ← given "sslmode" checkSslMode
    searchPath := ← given "search_path" checkSearchPath }

end SettingsLayer

end QueryTyping
