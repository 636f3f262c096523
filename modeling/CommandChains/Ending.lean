/-!
# Endings

How the run of one chain ends, and how a whole session ends, when nothing fails.
-/

namespace CommandChains

/-- How the run of a chain ends. -/
inductive Ending where
  | completed
  | exit
  deriving DecidableEq, Repr

/-- How a session ends. -/
inductive SessionEnd where
  | exit
  | endOfInput
  deriving DecidableEq, Repr

def SessionEnd.printed : SessionEnd → String
  | exit => "Exit"
  | endOfInput => "EndOfInput"

end CommandChains
