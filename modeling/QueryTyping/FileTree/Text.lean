import QueryTyping.Failure
import QueryTyping.FileTree
import QueryTyping.Text.Blank

/-!
# Text files

Files as text: UTF-8, with every line end read as a line feed.
-/

namespace QueryTyping

open Text

/-- The text that bytes hold. -/
def textOfBytes (content : Bytes) : Except Error (List Char) :=
  match decodeUtf8 content with
  | .ok text => .ok text
  | .error defect => .error (.unforeseen (.notUtf8 defect))

namespace FileTree

def readBytes (tree : FileTree) (path : FilePath) : Except Error Bytes :=
  match tree.read path with
  | .ok content => .ok content
  | .error problem => .error (.unforeseen (.path problem))

def readText (tree : FileTree) (path : FilePath) : Except Error String := do
  return String.ofList (universalNewlines (← textOfBytes (← tree.readBytes path)))

end FileTree

end QueryTyping
