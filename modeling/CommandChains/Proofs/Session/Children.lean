import CommandChains.Proofs.Facility.Children
import CommandChains.Proofs.Session.Trace
import CommandChains.WorldStep

/-!
# No child is lost

A session can be given lines and sources of lines, and one can reach past it and ask the
facility and the sink themselves for a chain, a launch, a wait or a plain call. These are
the deeds. Whatever deeds follow one another on a scripted facility, and at whatever call
among them one looks, the children are accounted for by the calls so far.
-/

namespace CommandChains

variable {σ : Type} {F : Facility σ}

namespace Activity

variable {S ε α β : Type} {facilityOf : S → σ}

theorem Faithful.map {a : Activity S ε α} (h : a.Faithful F facilityOf) (f : α → β) :
    (f <$> a).Faithful F facilityOf := by
  rw [map_eq_pure_bind]
  exact h.bind fun _ => faithful_pure _

/-- A series of activities asks for what the single ones ask for. -/
theorem trace_of_series {ι : Type} {f : ι → Activity S ε α}
    (each : ∀ x, (f x).Faithful F facilityOf) (items : List ι) (s : S) :
    F.Trace (facilityOf s) ((series f items s).flatMap fun r => r.journal.calls)
      (facilityOf (stateAfter (series f items s) s)) := by
  induction items generalizing s with
  | nil => exact .nil _
  | cons x rest ih => exact (each x s).append (ih (f x s).state)

end Activity

theorem World.faithful_perform (step : Step) :
    (step.perform F).Faithful F World.facility := by
  cases step with
  | line text =>
    have read : (Chain.read text : Activity (World σ) SystemError Chain).Faithful F
      World.facility := .of_apart (fun _ => rfl) fun _ => rfl
    exact read.bind fun chain => (Chain.faithful_run chain).map _
  | chain chain => exact (Chain.faithful_run chain).map _
  | launch argv => exact (faithful_launch F argv).map _
  | await handle => exact (faithful_await F handle).map _
  | spawn argv => exact (World.faithful_spawn argv).map _
  | waitAny =>
    have asked : (World.waitAny F : Activity (World σ) SystemError _).Faithful F
      World.facility := fun _ => .wait rfl (.nil _)
    exact asked.map _

namespace Session

/-- What can be done with a session, or past it with its facility and its sink. -/
inductive Deed where
  | session (step : Step)
  | aside (step : World.Step)
  deriving DecidableEq, Repr

def Deed.perform (F : Facility σ) :
    Deed → Activity (Session σ) SessionError (Report ⊕ World.Answer)
  | .session step => .inl <$> (step.perform F).mapError Empty.elim
  | .aside step => .inr <$> onWorld (step.perform F)

theorem faithful_deed (F : Facility σ) (deed : Deed) :
    (deed.perform F).Faithful F fun s => s.facility := by
  cases deed with
  | session step => exact ((faithful_perform F step).mapError _).map _
  | aside step =>
    have within : (onWorld (step.perform F)).Faithful F fun s => s.facility :=
      ((World.faithful_perform step).mapError _).within (fun _ => rfl) fun _ _ => rfl
    exact within.map _

open Scripted

/-- No child is lost, and none ends twice. Take any plan, with any programs that fail or
break the facility, any handles, repeated ones too, and any answers set for waits; any
order in which children are to end, with numbers that repeat or belong to nobody; any sink;
and any deeds one after the other. At every point between two calls of the facility the
children are accounted for by the calls before it. A wait whose answer is set leaves the
outstanding children and what is left of their order as they are. -/
theorem children_accounted (p : Plan) (finishing : List Nat) (sink : Sink) (counter : Nat)
    (terminated : Bool) (deeds : List Deed) :
    let s : Session State := { facility := { finishing }, sink, counter, terminated }
    let runs := Activity.series (Deed.perform (facility p)) deeds s
    let last := (Activity.stateAfter runs s).facility
    ∀ front rest, (runs.flatMap fun r => r.journal.calls) = front ++ rest →
      ∃ t, (facility p).Trace { finishing } front t ∧ (facility p).Trace t rest last ∧
        t.Accounted p front ∧
        ∀ answer more, rest = .wait answer :: more →
          p.waits.lookup (front.countP Call.isWait + 1) ≠ none →
          ∃ u, (facility p).Trace t [.wait answer] u ∧ (facility p).Trace u more last ∧
            u.outstanding = t.outstanding ∧ u.finishing = t.finishing := by
  intro s runs last front rest calls
  have trace : (facility p).Trace { finishing } (front ++ rest) last :=
    calls ▸ Activity.trace_of_series (faithful_deed (facility p)) deeds s
  obtain ⟨t, before, after⟩ := trace.split
  refine ⟨t, before, after, accounted_of_trace before, ?_⟩
  rintro answer more rfl set
  cases after with
  | wait answered later =>
    have waits : t.waits = front.countP Call.isWait := by
      simpa using (handles_of_trace before).1
    obtain rfl := eq_asked_of_set (waits ▸ set) answered
    exact ⟨_, .wait answered (.nil _), later, rfl, rfl⟩

/-- Two children of one handle, a wait whose answer is set to that very handle, and a wait
that really ends the second child. After the starts both children are accounted for, and
the wait that is set leaves them outstanding. -/
theorem accounted_with_repeated_handles :
    let handle : Handle := .ofIndex 4
    let p : Plan := { handles := [some handle, some handle], waits := [(1, .foreign handle)] }
    let starts := [Call.spawn ["a"] (.ok handle), .spawn ["b"] (.ok handle)]
    ∃ t u, (facility p).Trace { finishing := [7, 2] } starts t ∧ t.Accounted p starts ∧
      (facility p).Trace t [.wait (.ok handle)] u ∧ u.outstanding = t.outstanding := by
  intro handle p starts
  obtain ⟨t, before, _, accounted, set⟩ := children_accounted p [7, 2] .boundless 1 false
    [.aside (.spawn ["a"]), .aside (.spawn ["b"]), .aside .waitAny, .aside .waitAny]
    starts [.wait (.ok handle), .wait (.ok handle)] (by rfl)
  obtain ⟨u, waited, _, outstanding, _⟩ := set _ _ rfl (by decide)
  exact ⟨t, u, before, accounted, waited, outstanding⟩

end Session

end CommandChains
