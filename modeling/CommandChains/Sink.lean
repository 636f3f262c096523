import CommandChains.Activity
import CommandChains.SystemError

/-!
# Sinks

A sink takes the output. It may have room for so many bytes only, over its whole
life, and one of its flushes may fail. A write that does not fit is accepted up
to the last byte of room and then fails. A flush that fails changes nothing, and
the next one succeeds.
-/

namespace CommandChains

/-- Where output goes, and how much has gone there. -/
structure Sink where
  /-- The bytes it takes over its whole life, if there is a limit. -/
  limit : Option Nat := none
  /-- Which flush fails, counted from one, if any does. -/
  failingFlush : Option Nat := none
  /-- What is said when the room is used up. -/
  refusal : SystemError := .text "sink full"
  accepted : Nat := 0
  flushes : Nat := 0
  deriving DecidableEq, Repr

namespace Sink

def boundless : Sink := {}

def fullDevice : Sink :=
  { limit := some 0, refusal := .noSpace }

def flushFailure : SystemError := .text "flush failed"

/-- The part of some bytes that there is room for. -/
def fitting (s : Sink) (bytes : Text.Bytes) : Text.Bytes :=
  match s.limit with
  | none => bytes
  | some limit => bytes.take (limit - s.accepted)

def write (bytes : Text.Bytes) : Activity Sink SystemError Unit := fun s =>
  let taken := s.fitting bytes
  let after := { s with accepted := s.accepted + taken.length }
  ⟨if taken.length = bytes.length then .ok () else .error s.refusal, after, [.wrote taken]⟩

def flush : Activity Sink SystemError Unit := fun s =>
  let after := { s with flushes := s.flushes + 1 }
  if s.failingFlush = some after.flushes then ⟨.error flushFailure, after, []⟩
  else ⟨.ok (), after, [.flushed]⟩

/-- Writes a text and flushes. -/
def say (text : String) : Activity Sink SystemError Unit := do
  write (Text.Utf8.encode text)
  flush

@[simp] theorem fitting_boundless (bytes : Text.Bytes) :
    boundless.fitting bytes = bytes := rfl

end Sink

end CommandChains
