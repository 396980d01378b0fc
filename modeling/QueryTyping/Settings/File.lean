import QueryTyping.FileTree.Text
import QueryTyping.Settings.Resolution
import QueryTyping.Toml.Parser

/-!
# The config file

Reading the config file of a file tree.  A missing file says nothing; whatever
the file says wrong is a config failure, as far as it is a text.
-/

namespace QueryTyping

open Text

namespace AppConfig

/-- The config that a document writes, found at a path. -/
def ofDocument (path : FilePath) (document : String) : Except Error AppConfig :=
  match Toml.parse document with
  | .error .malformed => .error (.failure (.config ("Malformed TOML in " ++ path.text) none))
  | .error (.longNumber digits) => .error (.unforeseen (.badValue (Numeral.tooLong digits)))
  | .ok members =>
    match Check.validate "AppConfig" AppConfig.check (.table members) with
    | .ok config => .ok { config with gen := config.gen.anchored path.parent }
    | .error (.unforeseen (.invalid violations)) =>
      .error (.failure (.config ("Invalid configuration in " ++ path.text) (some violations)))
    | .error error => .error error

end AppConfig

namespace FileTree

/-- The config in effect. -/
def loadConfig (tree : FileTree) (home : FilePath) (environment : Environment)
    (explicit : Option FilePath) : Except Error AppConfig :=
  let path := AppConfig.location home environment explicit
  if !tree.holds path then .ok {}
  else do AppConfig.ofDocument path (String.ofList (← textOfBytes (← tree.readBytes path)))

end FileTree

end QueryTyping
