import Mathlib
import CommandChains.Facility.Scripted
import CommandChains.Proofs.Chain.Run
import CommandChains.Proofs.Session.Comparison

/-!
# All failed starts are alike

Why a start fails is told to the user, and nothing else depends on it. Two scripted
facilities that refuse the same programs, each for reasons of its own, take a session through
the same states with the same answers. A facility that breaks in the middle of a start is no
exception.

What may differ is said by `Journal.SameButReasons`: the reasons given by the facility, and the
text of a report between the program with its colon and the newline.
-/

namespace CommandChains

/-! ## Reports -/

/-- What is done about a command that is refused, once its program has been named: the
facility is asked, its reason is logged and reported, and the report is flushed. -/
def refusedStart (program : String) (arguments : List String) (reason : StartError) : Journal :=
  [.spawned (program :: arguments) (.error reason), .logged (.dispatchFailed program reason),
    .wrote (Text.Utf8.encode (failureLine program reason)), .flushed]

/-- Two journals that are equal, except that commands refused at the same places may have
been refused for different reasons. -/
inductive Journal.SameButReasons : Journal → Journal → Prop
  | nil : SameButReasons [] []
  | cons {j j' : Journal} (e : Entry) : SameButReasons j j' → SameButReasons (e :: j) (e :: j')
  | refused {j j' : Journal} (program : String) (arguments : List String)
      (reason reason' : StartError) : SameButReasons j j' →
      SameButReasons (refusedStart program arguments reason ++ j)
        (refusedStart program arguments reason' ++ j')

/-- A call and its answer, without the reason if a command was refused. -/
def Call.unexplained : Call → Option Handle × List String ⊕ Except WaitError Handle
  | .spawn argv answer => .inl (answer.toOption, argv)
  | .wait answer => .inr answer

namespace Journal

theorem congruence_sameButReasons : Congruence SameButReasons where
  refl j := by
    induction j with
    | nil => exact .nil
    | cons e rest ih => exact .cons e ih
  append first second := by
    induction first with
    | nil => exact second
    | cons e _ ih => exact .cons e ih
    | refused program arguments reason reason' _ ih =>
      rw [List.append_assoc, List.append_assoc]
      exact .refused program arguments reason reason' ih

/-- The same commands are started as the same children, the same are refused, and the waits
are the same. -/
theorem SameButReasons.calls {j j' : Journal} (h : SameButReasons j j') :
    j.calls.map Call.unexplained = j'.calls.map Call.unexplained := by
  induction h with
  | nil => rfl
  | cons e _ ih =>
    simp only [Journal.calls, List.filterMap_cons] at ih ⊢
    cases e.call? with
    | none => exact ih
    | some call => rw [List.map_cons, List.map_cons, ih]
  | refused program arguments reason reason' _ ih =>
    rw [calls_append, calls_append, List.map_append, List.map_append, ih]
    rfl

end Journal

/-! ## Sinks and facilities -/

/-- Sinks that will not fail and have been flushed equally often. They may have accepted
different amounts. -/
structure Sink.Abreast (s s' : Sink) : Prop where
  left : s.Unfailing
  right : s'.Unfailing
  flushes : s.flushes = s'.flushes

theorem Sink.Abreast.afterTaking {s s' : Sink} (h : s.Abreast s') (bytes bytes' : Text.Bytes) :
    (s.afterTaking bytes).Abreast (s'.afterTaking bytes') where
  left := h.left.afterTaking bytes
  right := h.right.afterTaking bytes'
  flushes := congrArg (· + 1) h.flushes

theorem Sink.related_say (text : String) :
    Activity.Related Abreast Journal.SameButReasons (say text) (say text) := by
  intro s s' abreast
  rw [abreast.left.say, abreast.right.say]
  exact ⟨rfl, abreast.afterTaking _ _, Journal.congruence_sameButReasons.refl _⟩

namespace Scripted

/-- Two plans that refuse the same programs, for whatever reasons, and are otherwise the
same. -/
structure Plan.RefusesAlike (p p' : Plan) : Prop where
  refusal : ∀ program, (p.refusal? [program]).isSome = (p'.refusal? [program]).isSome
  handles : p.handles = p'.handles
  waits : p.waits = p'.waits

variable {p p' : Plan}

/-- A start is refused by both plans and changes nothing, or it goes the same way. -/
theorem Plan.RefusesAlike.spawn (alike : p.RefusesAlike p') (program : String)
    (arguments : List String) (s : State) :
    (∃ reason reason', Scripted.spawn p (program :: arguments) s = (.error reason, s) ∧
      Scripted.spawn p' (program :: arguments) s = (.error reason', s)) ∨
      ∃ handle t, Scripted.spawn p (program :: arguments) s = (.ok handle, t) ∧
        Scripted.spawn p' (program :: arguments) s = (.ok handle, t) := by
  have both := alike.refusal program
  have only (q : Plan) : q.refusal? (program :: arguments) = q.refusal? [program] := rfl
  have handle : p'.handle = p.handle := by
    funext n
    rw [Plan.handle, Plan.handle, alike.handles]
  simp only [Scripted.spawn, only, handle]
  cases first : p.refusal? [program] <;> cases second : p'.refusal? [program] <;>
    rw [first, second] at both
  · exact .inr ⟨_, _, rfl, rfl⟩
  · cases both
  · cases both
  · exact .inl ⟨_, _, rfl, rfl⟩

theorem Plan.RefusesAlike.waitAny (alike : p.RefusesAlike p') :
    Scripted.waitAny p = Scripted.waitAny p' := by
  funext s
  simp only [Scripted.waitAny, alike.waits]

theorem related_launch (alike : p.RefusesAlike p') (argv : List String) :
    Activity.Related (World.Beside Sink.Abreast Eq) Journal.SameButReasons
      (launch (facility p) argv) (launch (facility p') argv) := by
  rintro ⟨s, sink⟩ ⟨_, sink'⟩ ⟨abreast, rfl⟩
  have congruence := Journal.congruence_sameButReasons
  cases argv with
  | nil => exact ⟨rfl, ⟨abreast, rfl⟩, congruence.refl _⟩
  | cons program arguments =>
    have said := abreast.left.say (echoLine program)
    have said' := abreast.right.say (echoLine program)
    have named := abreast.afterTaking (Text.Utf8.encode (echoLine program))
      (Text.Utf8.encode (echoLine program))
    by_cases exit : program = "exit"
    · rw [launch_of_exit said exit, launch_of_exit said' exit]
      exact ⟨rfl, ⟨named, rfl⟩, congruence.refl _⟩
    · obtain ⟨reason, reason', first, second⟩ | ⟨handle, t, first, second⟩ :=
        alike.spawn program arguments s
      · rw [launch_of_refused said exit first (named.left.say (failureLine program reason)),
          launch_of_refused said' exit second (named.right.say (failureLine program reason'))]
        refine ⟨rfl, ⟨named.afterTaking _ _, rfl⟩, congruence.append (congruence.refl _) ?_⟩
        exact .refused program arguments reason reason' .nil
      · rw [launch_of_started said exit first, launch_of_started said' exit second]
        exact ⟨rfl, ⟨named, rfl⟩, congruence.refl _⟩

/-- Facilities that refuse the same programs compare except for the reasons. -/
theorem Plan.RefusesAlike.comparable (alike : p.RefusesAlike p') :
    (facility p).Comparable Sink.Abreast Eq Journal.SameButReasons (facility p') where
  congruence := Journal.congruence_sameButReasons
  say := Sink.related_say
  awaitLast := by
    have answers : (facility p).waitAny = (facility p').waitAny := alike.waitAny
    refine Chain.related_awaitLast Journal.congruence_sameButReasons ?_ ?_
    · rintro s _ rfl
      rw [answers]
    · rintro s _ rfl
      rw [answers]
  launch := related_launch alike

end Scripted

/-! ## Sessions -/

namespace Session

open Scripted

/-- Two performances of a step that differ in nothing but the reasons of failed starts. What
has come of the step includes what has not been read and which prompts were shown; the state
of the facility includes who is outstanding. -/
structure SameButReasons (r r' : Run (Session State) Empty Report) : Prop where
  report : r.result = r'.result
  facility : r.state.facility = r'.state.facility
  counter : r.state.counter = r'.state.counter
  terminated : r.state.terminated = r'.state.terminated
  flushes : r.state.sink.flushes = r'.state.sink.flushes
  calls : r.journal.calls.map Call.unexplained = r'.journal.calls.map Call.unexplained
  journal : r.journal.SameButReasons r'.journal

theorem sameButReasons_of_related {r r' : Run (Session State) Empty Report}
    (h : r.Related (Beside Sink.Abreast Eq) Journal.SameButReasons r') : SameButReasons r r' where
  report := h.result
  facility := h.state.facility
  counter := h.state.counter
  terminated := h.state.terminated
  flushes := h.state.sink.flushes
  calls := h.journal.calls
  journal := h.journal

/-- All ways to fail at a start are the same to a session. Let two plans refuse the same
programs, each for reasons of its own, and be otherwise the same. Then on a sink that never
fails any steps go the same way, one by one: with the same results, the same lines left
unread, the same prompts, counts and flushes, the same children started and outstanding, the
same waits. The outputs are the same but for the reasons in the reports, which come at the
same places. -/
theorem same_but_reasons {p p' : Plan} (alike : p.RefusesAlike p') (s : Session State)
    (unfailing : s.sink.Unfailing) (steps : List Step) :
    List.Forall₂ SameButReasons (Activity.series (Step.perform (facility p)) steps s)
      (Activity.series (Step.perform (facility p')) steps s) := by
  have start : Beside Sink.Abreast Eq s s := ⟨⟨⟨unfailing, unfailing, rfl⟩, rfl⟩, rfl, rfl⟩
  have related := Activity.Related.series (related_perform alike.comparable) steps start
  exact related.imp fun _ _ => sameButReasons_of_related

/-- That `bad` is not found or breaks the facility down makes no difference to `a ; bad ; c`
but for the report. -/
theorem same_but_breakdown :
    let p : Plan := { missing := ["bad"] }
    let p' : Plan := { faults := [("bad", .broken .unexplained)] }
    let s : Session State := { facility := {}, sink := .boundless }
    let runs (p : Plan) := Activity.series (Step.perform (facility p)) [.line "a ; bad ; c"] s
    p.RefusesAlike p' ∧ s.sink.Unfailing ∧ List.Forall₂ SameButReasons (runs p) (runs p') ∧
      (runs p).flatMap (fun r => r.journal.output) =
        Text.Utf8.encode "a\nbad\nbad: command not found\nc\n" ∧
      (runs p').flatMap (fun r => r.journal.output) =
        Text.Utf8.encode "a\nbad\nbad: non-string panic payload\nc\n" := by
  intro p p' s runs
  have alike : p.RefusesAlike p' := by
    refine ⟨fun program => ?_, rfl, rfl⟩
    by_cases bad : program = "bad"
    · subst bad
      rfl
    · have other : (program == "bad") = false := beq_eq_false_iff_ne.2 bad
      simp [p, p', Plan.refusal?, List.lookup_cons, bad, other]
  refine ⟨alike, Sink.unfailing_boundless, ?_, by cbv, by cbv⟩
  exact same_but_reasons alike s Sink.unfailing_boundless _

end Session

end CommandChains
