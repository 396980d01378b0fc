import QueryTyping.Gzip.BitSource

/-!
# Prefix codes

Codes that are given by the length of each symbol's code word: words of one
length are consecutive numbers in the order of their symbols, and longer words
follow shorter ones.
-/

namespace QueryTyping.Gzip

structure Code where
  /-- How many words there are of each length from one on. -/
  counts : List Nat
  /-- The symbols in the order of their words. -/
  symbols : List Nat

namespace Code

/-- The longest word of a code. -/
def longest : Nat := 15

/-- The code of symbols that count from zero, given the lengths of their words; a length of zero
stands for a symbol without a word. -/
def ofLengths (lengths : List Nat) : Code :=
  let sized := List.range' 1 longest
  { counts := sized.map fun size => lengths.count size
    symbols := sized.flatMap fun size =>
      (lengths.zipIdx.filter fun (length, _) => length = size).map (·.2) }

/-- How many words of the greatest length are left when all words are taken, or nothing if there
are too many words. -/
def unused? : List Nat → Nat → Option Nat
  | [], left => some left
  | count :: rest, left => if 2 * left < count then none else unused? rest (2 * left - count)

/-- Whether the words fit.  Words may be left over only where none is longer than one bit, and
only if that is allowed. -/
def isSound (code : Code) (mayLack : Bool) : Bool :=
  match unused? code.counts 1 with
  | none => false
  | some 0 => true
  | some _ => code.symbols.isEmpty || (mayLack && (code.counts.drop 1).all (· = 0))

/-- The symbol of the next word: `word` is what has been read, `first` the first word of the
length at hand. -/
def readFrom (symbols : List Nat) (word first : Nat) : List Nat → Reading Nat
  | [] => throw .invalid
  | count :: rest => do
    let word := 2 * word + (← readBit).toNat
    if word < first + count then
      match symbols[word - first]? with
      | some symbol => return symbol
      | none => throw .invalid
    else readFrom (symbols.drop count) word (2 * (first + count)) rest

def read (code : Code) : Reading Nat := readFrom code.symbols 0 0 code.counts

end Code

end QueryTyping.Gzip
