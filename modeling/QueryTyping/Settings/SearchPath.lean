import QueryTyping.Text.Blank

/-!
# Search paths

The schemas in which names are looked up, in order.
-/

namespace QueryTyping.SearchPath

open Text

/-- The names that are not blank, without the white space around them. -/
def ofItems (items : List String) : List String :=
  (items.map trimmed).filter (!·.isEmpty)

/-- The names between commas. -/
def ofText (s : String) : List String :=
  ofItems ((splitOnChar ',' s.toList).map String.ofList)

end QueryTyping.SearchPath
