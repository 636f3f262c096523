import CommandChains.Text.Utf8

/-!
# Writers that share buffers

A writer collects bytes in a buffer. Several writers may share one, so that what
they write appears in one transcript in the order of time. A writer can be bound
to another one's buffer, or to a fresh one; that touches no buffer, and what was
written stays where it was written.

Writers are numbered, and each starts out with a buffer of its own.
-/

namespace CommandChains

/-- A buffer: the one a writer starts out with, or one made later on. -/
inductive Buffer where
  | own (writer : Nat)
  | made (number : Nat)
  deriving DecidableEq, Repr

inductive WriterStep where
  | write (bytes : Text.Bytes)
  /-- Shares the buffer of a writer from now on. -/
  | share (other : Nat)
  | renew
  deriving DecidableEq, Repr

/-- Which buffer each writer is bound to, and what the buffers hold. Of two entries
for one writer or one buffer the first counts. -/
structure SharedBuffers where
  bindings : List (Nat × Buffer) := []
  holdings : List (Buffer × Text.Bytes) := []
  made : Nat := 0
  deriving DecidableEq, Repr

namespace SharedBuffers

/-- The buffer a writer is bound to. -/
def bound (s : SharedBuffers) (writer : Nat) : Buffer :=
  (s.bindings.lookup writer).getD (.own writer)

def held (s : SharedBuffers) (buffer : Buffer) : Text.Bytes :=
  (s.holdings.lookup buffer).getD []

def rebind (s : SharedBuffers) (writer : Nat) (buffer : Buffer) : SharedBuffers :=
  { s with bindings := (writer, buffer) :: s.bindings }

def perform (s : SharedBuffers) (writer : Nat) : WriterStep → SharedBuffers
  | .write bytes =>
    let target := s.bound writer
    { s with holdings := (target, s.held target ++ bytes) :: s.holdings }
  | .share other => s.rebind writer (s.bound other)
  | .renew => { s.rebind writer (.made s.made) with made := s.made + 1 }

/-- The buffers after each of some steps, which name their writers. -/
def performEach : List (Nat × WriterStep) → SharedBuffers → List SharedBuffers
  | [], _ => []
  | (writer, step) :: rest, s =>
    let after := s.perform writer step
    after :: performEach rest after

def bytesOf (s : SharedBuffers) (writer : Nat) : Text.Bytes :=
  s.held (s.bound writer)

def contents (s : SharedBuffers) (writer : Nat) : String :=
  Text.Utf8.decode (s.bytesOf writer)

theorem held_write (s : SharedBuffers) (writer : Nat) (bytes : Text.Bytes) (buffer : Buffer) :
    (s.perform writer (.write bytes)).held buffer =
      s.held buffer ++ if buffer = s.bound writer then bytes else [] := by
  simp only [perform, held, List.lookup_cons]
  by_cases same : buffer = s.bound writer
  · simp [same]
  · have differs : (buffer == s.bound writer) = false := by simp [same]
    simp [differs, same]

theorem bound_rebind (s : SharedBuffers) (writer other : Nat) (buffer : Buffer) :
    (s.rebind writer buffer).bound other = if other = writer then buffer else s.bound other := by
  simp only [rebind, bound, List.lookup_cons]
  by_cases same : other = writer
  · simp [same]
  · have differs : (other == writer) = false := by simp [same]
    simp [differs, same]

end SharedBuffers

end CommandChains
