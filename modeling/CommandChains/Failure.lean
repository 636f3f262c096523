import CommandChains.SystemError

/-!
# Failures of a facility

A facility may fail to start a command, and it may have nothing to wait for.
Both are part of an ordinary session: the first is reported to the user, the
second ends a wait early.
-/

namespace CommandChains

/-- What a facility leaves behind when it breaks down in the middle of a start. -/
inductive Breakdown where
  | explained (text : String)
  | unexplained
  deriving DecidableEq, Repr

def Breakdown.message : Breakdown → String
  | explained text => text
  | unexplained => "non-string panic payload"

inductive StartError where
  | notFound
  | emptyCommand
  | system (error : SystemError)
  | other (text : String)
  /-- The facility broke down; the session goes on. -/
  | broken (breakdown : Breakdown)
  deriving DecidableEq, Repr

def StartError.message : StartError → String
  | notFound => "command not found"
  | emptyCommand => "empty command"
  | system error => error.message
  | other text => text
  | broken breakdown => breakdown.message

inductive WaitError where
  | noChildren
  | system (text : String)
  deriving DecidableEq, Repr

def WaitError.message : WaitError → String
  | noChildren => "no outstanding children"
  | system text => "wait failed: " ++ text

end CommandChains
