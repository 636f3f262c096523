import CommandChains.Log.Record
import CommandChains.Text.Utf8

/-!
# Journals

The journal of an activity lists what the activity did, in order: what it wrote
and flushed, which commands it handed to the facility, whom it waited for, when
it asked for input, and what it logged. Everything an observer can see of an
activity is a projection of its journal, and the journal of two activities one
after the other is the first journal followed by the second.
-/

namespace CommandChains

/-- One thing that an activity did. -/
inductive Entry where
  | wrote (bytes : Text.Bytes)
  | flushed
  /-- The facility was asked to start a command, and answered. -/
  | spawned (argv : List String) (answer : Except StartError Handle)
  /-- The facility was asked for the end of a child, and answered. -/
  | waited (answer : Except WaitError Handle)
  | fetched
  | logged (record : Log.Record)

abbrev Journal := List Entry

/-- A call of the facility with its answer. -/
inductive Call where
  | spawn (argv : List String) (answer : Except StartError Handle)
  | wait (answer : Except WaitError Handle)

namespace Entry

def bytes : Entry → Text.Bytes
  | wrote bytes => bytes
  | _ => []

def call? : Entry → Option Call
  | spawned argv answer => some (.spawn argv answer)
  | waited answer => some (.wait answer)
  | _ => none

def record? : Entry → Option Log.Record
  | logged record => some record
  | _ => none

end Entry

namespace Journal

def output (j : Journal) : Text.Bytes :=
  j.flatMap Entry.bytes

def calls (j : Journal) : List Call :=
  j.filterMap Entry.call?

def records (j : Journal) : List Log.Record :=
  j.filterMap Entry.record?

/-- For every flush the number of bytes accepted by then, if `total` bytes had been
accepted before the first entry. -/
def flushMarks (total : Nat) : Journal → List Nat
  | [] => []
  | .wrote bytes :: rest => flushMarks (total + bytes.length) rest
  | .flushed :: rest => total :: flushMarks total rest
  | _ :: rest => flushMarks total rest

@[simp] theorem output_append (a b : Journal) : output (a ++ b) = output a ++ output b := by
  simp [output]

@[simp] theorem calls_append (a b : Journal) : calls (a ++ b) = calls a ++ calls b := by
  simp [calls]

@[simp] theorem records_append (a b : Journal) :
    records (a ++ b) = records a ++ records b := by
  simp [records]

theorem flushMarks_append (total : Nat) (a b : Journal) :
    flushMarks total (a ++ b) =
      flushMarks total a ++ flushMarks (total + (output a).length) b := by
  induction a generalizing total with
  | nil => simp [flushMarks, output]
  | cons e rest ih =>
    simp only [output] at ih
    cases e <;> simp [flushMarks, output, Entry.bytes, ih, Nat.add_assoc]

end Journal

end CommandChains
