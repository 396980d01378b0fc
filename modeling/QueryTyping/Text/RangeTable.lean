/-!
# Tables of code point intervals

A character property is stored as the closed intervals that hold it.  Lookup
is a plain search, so a table means exactly the union of its intervals.
-/

namespace QueryTyping.Text

/-- Closed intervals of code points. -/
abbrev RangeTable := Array (Nat × Nat)

/-- Whether some interval of the table holds the character. -/
def RangeTable.contains (table : RangeTable) (c : Char) : Bool :=
  table.any fun range => range.1 ≤ c.toNat && c.toNat ≤ range.2

end QueryTyping.Text
