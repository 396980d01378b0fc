/-!
# Escape sequences

The sequences that colour a terminal: an escape character, a bracket,
parameters, and a letter that ends them.
-/

namespace QueryTyping.Terminal

def isParameter (c : Char) : Bool := c = ';' || c = '?' || c.isDigit

/-- What stands behind the escape sequence at the front, if there is one. -/
def afterEscape? (s : List Char) : Option (List Char) :=
  match s with
  | '\x1b' :: '[' :: rest =>
    match rest.dropWhile isParameter with
    | c :: after => if c.isAlpha then some after else none
    | [] => none
  | _ => none

theorem afterEscape?_length {s after : List Char} (h : afterEscape? s = some after) :
    after.length < s.length := by
  unfold afterEscape? at h
  split at h
  · rename_i rest
    have := (List.dropWhile_suffix isParameter (l := rest)).length_le
    split at h
    · rename_i heq
      rw [heq] at this
      split at h
      · cases h
        simp at this ⊢
        omega
      · cases h
    · cases h
  · cases h

/-- The text without escape sequences. -/
def withoutEscapes (s : List Char) : List Char :=
  match _found : afterEscape? s with
  | some after => withoutEscapes after
  | none =>
    match s with
    | c :: rest => c :: withoutEscapes rest
    | [] => []
termination_by s.length
decreasing_by
  · exact afterEscape?_length (by assumption)
  · simp

end QueryTyping.Terminal
