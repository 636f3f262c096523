import CommandChains.Input.Prompted
import CommandChains.Input.Unprompted
import CommandChains.Machine.Process

/-!
# What goes in and comes out

What the session reads of the input of the machine, and what is seen of what it and the processes
print.
-/

namespace CommandChains.Machine

/-!
## Lines of the input of the machine

The session reads its lines from the same input as the processes. It takes the
input in portions and keeps what it has not used yet; a portion is taken only when
nothing is kept. What the session keeps is out of the reach of the processes, and
what a process has read is out of the reach of the session.
-/

structure Intake where
  kept : Text.Bytes := []
  /-- The most bytes that are still to be taken. Nothing adds to the input, so its
  length in the beginning is never too little. -/
  allowance : Nat
  deriving DecidableEq, Repr

namespace Intake

def portion : Nat := 8192

def offered (h : Host) (t : Intake) : Text.Bytes :=
  h.input.take (min portion t.allowance)

theorem allowance_lt {h : Host} {t : Intake} (some_ : offered h t ≠ []) :
    t.allowance - (offered h t).length < t.allowance := by
  have pos := List.length_pos_iff.2 some_
  have bound : (offered h t).length ≤ t.allowance := by
    simp only [offered, List.length_take]
    omega
  omega

/-- Takes the bytes through the next newline, or to the end. At the end there are
none. -/
def takeLine : Activity (Host × Intake) SystemError Text.Bytes := fun (h, t) =>
  let line := t.kept.takeWhile ByteSource.insideLine
  if t.kept.drop line.length ≠ [] then
    let rest := t.kept.drop (line.length + 1)
    ⟨.ok (line ++ [Text.newlineByte]), (h, { t with kept := rest }), []⟩
  else
    let piece := offered h t
    if _none : piece = [] then ⟨.ok t.kept, (h, { t with kept := [] }), [.fetched]⟩
    else
      let rest := takeLine ({ h with input := h.input.drop piece.length },
        { kept := piece, allowance := t.allowance - piece.length })
      ⟨rest.result.map (t.kept ++ ·), rest.state, .fetched :: rest.journal⟩
termination_by s => s.2.allowance
decreasing_by exact allowance_lt _none

/-- A bound on the bytes that are still to come. -/
def remaining (t : Intake) : Nat :=
  t.kept.length + t.allowance

theorem remaining_of_takeLine {h h' : Host} {t t' : Intake} {bytes : Text.Bytes} {j : Journal}
    (e : takeLine (h, t) = ⟨.ok bytes, (h', t'), j⟩) :
    bytes.length + t'.remaining ≤ t.remaining := by
  induction n : t.allowance using Nat.strongRecOn generalizing h t bytes j with
  | ind n ih =>
    rw [takeLine] at e
    dsimp only at e
    split at e
    · next newline =>
      simp only [Run.mk.injEq, Except.ok.injEq, Prod.mk.injEq] at e
      obtain ⟨rfl, ⟨_, rfl⟩, _⟩ := e
      have pos := List.length_pos_iff.2 newline
      simp only [List.length_drop, List.length_append, List.length_cons, List.length_nil,
        remaining] at pos ⊢
      omega
    · split at e
      · simp only [Run.mk.injEq, Except.ok.injEq, Prod.mk.injEq] at e
        obtain ⟨rfl, ⟨_, rfl⟩, _⟩ := e
        simp [remaining]
      · next some_ =>
        have pos := List.length_pos_iff.2 some_
        have bound : (offered h t).length ≤ t.allowance := by
          simp only [offered, List.length_take]
          omega
        simp only [Run.mk.injEq] at e
        obtain ⟨result, state, _⟩ := e
        cases taken : takeLine ({ h with input := h.input.drop (offered h t).length },
            { kept := offered h t, allowance := t.allowance - (offered h t).length }) with
        | mk r u k =>
          rw [taken] at result state
          cases r with
          | error _ => cases result
          | ok rest =>
            cases state
            have less := ih (t.allowance - (offered h t).length) (by omega)
              (t := ⟨offered h t, t.allowance - (offered h t).length⟩) taken rfl
            simp only [Except.map, Except.ok.injEq] at result
            rw [← result]
            simp only [remaining, List.length_append] at less ⊢
            omega

theorem remaining_lt_of_takeLine {h h' : Host} {t t' : Intake} {bytes : Text.Bytes} {j : Journal}
    (e : takeLine (h, t) = ⟨.ok bytes, (h', t'), j⟩) (some_ : bytes ≠ []) :
    t'.remaining < t.remaining := by
  have := remaining_of_takeLine e
  have := List.length_pos_iff.2 some_
  omega

def prompted : LineSource Host Intake where
  next prompt := LineSource.withFacility (Prompted.nextFrom takeLine prompt)
  remaining := remaining
  remaining_lt h :=
    let ⟨_, _, some_, taken⟩ := Prompted.taken_of_nextFrom (LineSource.of_withFacility h)
    remaining_lt_of_takeLine taken some_

def unprompted : LineSource Host Intake where
  next _ := LineSource.withFacility (Unprompted.nextFrom takeLine)
  remaining := remaining
  remaining_lt h :=
    let ⟨_, _, some_, taken⟩ := Unprompted.taken_of_nextFrom (LineSource.of_withFacility h)
    remaining_lt_of_takeLine taken some_

end Intake

/-!
## What the machine shows

Processes print to the same places as the session, its output and its error output.
What is seen in a place follows from the journal of the session and the history of the
machine: what the session itself put there, and between it what processes printed by
then. What processes print when nobody waits any more comes last, in the order of time.
-/

namespace Host

def process? (history : List Process) (handle : Handle) : Option Process :=
  history.find? fun p => p.handle = handle

/-- What some processes print in a place after a time and not after another one, or ever
after, in the order of time. -/
def printedBetween (stream : Stream) (after : Nat) (until_ : Option Nat)
    (processes : List Process) : Text.Bytes :=
  let marks := (processes.flatMap Process.marks).filter fun m =>
    m.stream = stream ∧ after < m.time ∧ until_.all fun time => decide (m.time ≤ time)
  Octets.toBytes ((Mark.inOrder marks).flatMap Mark.text)

def printedBy (stream : Stream) (time : Nat) (p : Process) : Text.Bytes :=
  let marks := p.marks.filter fun m => m.stream = stream ∧ m.time ≤ time
  Octets.toBytes ((Mark.inOrder marks).flatMap Mark.text)

/-- Everything that is seen in a place during a journal that begins at a time, with the
processes started before, and the time and the processes at its end. The session itself
puts there what `own` says of the entries. -/
def shownDuring (stream : Stream) (own : Entry → Text.Bytes) (history : List Process) :
    Nat → List Process → Journal → Text.Bytes × Nat × List Process
  | clock, begun, [] => ([], clock, begun)
  | clock, begun, entry :: rest =>
    let (seen, now, processes) := match entry with
      | .spawned _ (.ok handle) =>
        match process? history handle with
        | some p => (printedBy stream clock p, clock, begun ++ [p])
        | none => ([], clock, begun)
      | .waited (.ok handle) =>
        match process? history handle with
        | some p => (printedBetween stream clock (some p.ends) begun, max clock p.ends, begun)
        | none => ([], clock, begun)
      | _ => ([], clock, begun)
    let (more, last, processes) := shownDuring stream own history now processes rest
    (own entry ++ seen ++ more, last, processes)

/-- Everything that is seen in a place of a journal that began with the machine and left it
in this state. The session ends with some last words. -/
def shown (h : Host) (stream : Stream) (own : Entry → Text.Bytes) (lastWords : Text.Bytes)
    (j : Journal) : Text.Bytes :=
  let (seen, clock, begun) := shownDuring stream own h.history 0 [] j
  seen ++ lastWords ++ printedBetween stream clock none begun

end Host

end CommandChains.Machine
