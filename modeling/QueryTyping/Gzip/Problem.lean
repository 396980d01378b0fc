import QueryTyping.Text.Quoted

/-!
# Problems with gzip files
-/

namespace QueryTyping.Gzip

open Text

/-- What is wrong with compressed data. -/
inductive Problem where
  /-- A file that starts with these bytes is no gzip file. -/
  | notGzip (start : Bytes)
  | unknownMethod
  | wrongCheckSum (stated found : Nat)
  | wrongLength
  | truncated
  /-- The data inside make no sense. -/
  | invalid
  deriving DecidableEq, Repr

/-- What is said about the problem. -/
def Problem.message : Problem → String
  | notGzip start => "Not a gzipped file (" ++ quotedBytes start ++ ")"
  | unknownMethod => "Unknown compression method"
  | wrongCheckSum stated found =>
    let hex (n : Nat) : String := "0x" ++ String.ofList (Nat.toDigits 16 n)
    "CRC check failed " ++ hex stated ++ " != " ++ hex found
  | wrongLength => "Incorrect length of data produced"
  | truncated => "Compressed file ended before the end-of-stream marker was reached"
  | invalid => "Error -3 while decompressing data: invalid data"

end QueryTyping.Gzip
