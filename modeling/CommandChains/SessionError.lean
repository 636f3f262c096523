import CommandChains.SystemError

/-!
# Errors of a session

What can stop the work on a line. Start errors and wait errors are not among
these: a session reports them and goes on.
-/

namespace CommandChains

/-- Why a session did not do what it was asked to. -/
inductive SessionError where
  | system (error : SystemError)
  | terminated
  /-- The source of lines failed in a way of its own. -/
  | source (text : String)
  | notText
  deriving DecidableEq, Repr

namespace SessionError

def message : SessionError → String
  | system error => error.message
  | terminated => "session already terminated"
  | source text => text
  | notText => "stream did not contain valid UTF-8"

/-- The text of what is behind an error, if there is anything. -/
def cause? : SessionError → Option String
  | notText => some "stream did not contain valid UTF-8"
  | _ => none

/-- An error and what is behind it, with a colon between them. -/
def report (e : SessionError) : String :=
  ": ".intercalate (e.message :: e.cause?.toList)

end SessionError

end CommandChains
