import QueryTyping.Failure
import QueryTyping.QueryFile.Statement

/-!
# Query files

The queries of a text, with every fault reported as an input failure that
names the source and the line.
-/

namespace QueryTyping.QueryFile

/-- Parse the annotated queries of a text that came from `source`. -/
def parseText (source text : String) : Except Failure (List SourceQuery) :=
  match parse text with
  | .ok queries => .ok queries
  | .error located => .error (.input (located.message source))

end QueryTyping.QueryFile
