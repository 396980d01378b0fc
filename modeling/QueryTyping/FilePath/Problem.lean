/-!
# Problems with paths

Why a path cannot be read or written.
-/

namespace QueryTyping

/-- Why a path leads nowhere, or not to what is asked for. -/
inductive PathProblem where
  | missing
  | notDirectory
  | isDirectory
  | present
  | endlessLinks
  deriving DecidableEq, Repr

/-- The operating system's words for the problem, behind its number. -/
def PathProblem.message : PathProblem → String
  | missing => "[Errno 2] No such file or directory"
  | present => "[Errno 17] File exists"
  | notDirectory => "[Errno 20] Not a directory"
  | isDirectory => "[Errno 21] Is a directory"
  | endlessLinks => "[Errno 40] Too many levels of symbolic links"

end QueryTyping
