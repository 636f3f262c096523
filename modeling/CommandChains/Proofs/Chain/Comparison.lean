import CommandChains.Proofs.Chain.Run
import CommandChains.Proofs.Comparison

/-!
# Two facilities side by side

A chain is run on two facilities, each with a sink of its own. The facilities are compared by
a relation `R` between their states, the sinks by a relation `K`. A run is made of pauses and
launches and looks at nothing but their results, so if these compare, runs do.

Two facilities start alike if they answer to starts in the same way as long as their
states are related, whatever waits come in between on either side. Nothing that is done
outwardly depends on more, so the two compare in what they do outwardly
(`Facility.Alike.comparable`). The waits themselves may differ in length, in whom they name
and in whether they fail.
-/

namespace CommandChains

variable {σ σ' ε α : Type} {K : Sink → Sink → Prop} {R : σ → σ' → Prop}
variable {J : Journal → Journal → Prop} {F : Facility σ} {F' : Facility σ'}

/-- Related sinks beside related facilities. -/
structure World.Beside (K : Sink → Sink → Prop) (R : σ → σ' → Prop) (w : World σ)
    (w' : World σ') : Prop where
  sink : K w.sink w'.sink
  facility : R w.facility w'.facility

/-- Two facilities that compare in all that lines and prompts ask for. -/
structure Facility.Comparable (K : Sink → Sink → Prop) (R : σ → σ' → Prop)
    (J : Journal → Journal → Prop) (F : Facility σ) (F' : Facility σ') : Prop where
  congruence : Journal.Congruence J
  say : ∀ text, Activity.Related K J (Sink.say text) (Sink.say text)
  awaitLast : ∀ due, Activity.Related (World.Beside K R) J (Chain.awaitLast F due)
    (Chain.awaitLast F' due)
  launch : ∀ argv, Activity.Related (World.Beside K R) J (launch F argv) (launch F' argv)

/-! ## Facilities that answer waits alike -/

section

variable (congruence : Journal.Congruence J)
variable (answer : ∀ {s s'}, R s s' → (F.waitAny s).1 = (F'.waitAny s').1)
variable (after : ∀ {s s'}, R s s' → R (F.waitAny s).2 (F'.waitAny s').2)

include congruence answer after

theorem related_await (h : Handle) :
    Activity.Related (World.Beside K R) J (await F h : Activity (World σ) ε _) (await F' h) := by
  have answers {w : World σ} {w' : World σ'} (related : World.Beside K R w w') {given t}
      (answered : F.waitAny w.facility = (given, t)) :
      ∃ t', F'.waitAny w'.facility = (given, t') ∧ R t t' := by
    have same := answer related.facility
    have later := after related.facility
    rw [answered] at same later
    exact ⟨_, Prod.ext same.symm rfl, later⟩
  refine fun w => await_induction
    (motive := fun w r => ∀ w', World.Beside K R w w' →
      r.Related (World.Beside K R) J (await F' h w' : Run _ ε _)) ?_ ?_ ?_ w
  · intro w e t answered w' related
    obtain ⟨t', answered', later⟩ := answers related answered
    rw [await_of_error answered']
    exact ⟨rfl, ⟨related.sink, later⟩, congruence.refl _⟩
  · intro w t answered w' related
    obtain ⟨t', answered', later⟩ := answers related answered
    rw [await_of_same answered']
    exact ⟨rfl, ⟨related.sink, later⟩, congruence.refl _⟩
  · intro w r t answered other rest ih w' related
    obtain ⟨t', answered', later⟩ := answers related answered
    rw [await_of_other answered' other]
    have more := ih { w' with facility := t' } ⟨related.sink, later⟩
    refine ⟨more.result, more.state, ?_⟩
    exact congruence.append (congruence.refl [.waited (.ok r), .logged (.discarded h r)])
      more.journal

theorem Chain.related_awaitLast (due : Option Handle) :
    Activity.Related (World.Beside K R) J (awaitLast F due) (awaitLast F' due) := by
  cases due with
  | none => exact Activity.related_pure congruence ()
  | some h =>
    refine (related_await congruence answer after h).bind congruence fun given => ?_
    cases given with
    | ok _ => exact Activity.related_pure congruence ()
    | error e => exact Activity.related_log congruence _

end

/-! ## Chains -/

namespace Chain

theorem related_runCommands (comparable : F.Comparable K R J F') (background : Bool)
    (commands : List Command) (last : Option Handle) (pending : Option Delimiter) :
    Activity.Related (World.Beside K R) J (runCommands F background commands last pending)
      (runCommands F' background commands last pending) := by
  have congruence := comparable.congruence
  induction commands generalizing last pending with
  | nil =>
    rw [runCommands_nil, runCommands_nil]
    exact (comparable.awaitLast _).bind congruence fun _ => Activity.related_pure congruence _
  | cons c rest ih =>
    rw [runCommands_cons, runCommands_cons]
    refine (comparable.awaitLast _).bind congruence fun _ => ?_
    refine (comparable.launch c.argv).bind congruence fun launched => ?_
    cases launched with
    | exit => exact Activity.related_pure congruence _
    | started handle => exact ih _ _
    | failed => exact ih _ _

theorem related_run (comparable : F.Comparable K R J F') (chain : Chain) :
    Activity.Related (World.Beside K R) J (chain.run F) (chain.run F') :=
  related_runCommands comparable _ _ _ _

end Chain

/-! ## Facilities that start alike -/

/-- A relation between the states of two facilities that start alike. Starts keep it
side by side, waits on either side keep it alone. -/
structure Facility.Alike (F : Facility σ) (F' : Facility σ') (R : σ → σ' → Prop) : Prop where
  answer : ∀ {s s'} argv, R s s' → (F.spawn argv s).1 = (F'.spawn argv s').1
  spawn : ∀ {s s'} argv, R s s' → R (F.spawn argv s).2 (F'.spawn argv s').2
  waitLeft : ∀ {s s'}, R s s' → R (F.waitAny s).2 s'
  waitRight : ∀ {s s'}, R s s' → R s (F'.waitAny s').2

/-- A wait keeps what each of its calls keeps, and cannot be seen outwardly. -/
theorem await_unseen {P : σ → Prop} (kept : ∀ {s}, P s → P (F.waitAny s).2)
    (h : Handle) (w : World σ) (holds : P w.facility) :
    ∃ answer s j, (await F h w : Run _ ε _) = ⟨.ok answer, { w with facility := s }, j⟩ ∧
      P s ∧ Journal.outward j = [] := by
  revert holds
  refine await_induction (motive := fun w (r : Run (World σ) ε _) => P w.facility →
    ∃ answer s j, r = ⟨.ok answer, { w with facility := s }, j⟩ ∧ P s ∧
      Journal.outward j = []) ?_ ?_ ?_ w
  · intro w e s answered holds
    have after := kept holds
    rw [answered] at after
    exact ⟨_, _, _, rfl, after, rfl⟩
  · intro w s answered holds
    have after := kept holds
    rw [answered] at after
    exact ⟨_, _, _, rfl, after, rfl⟩
  · intro w r s answered _ rest ih holds
    have after := kept holds
    rw [answered] at after
    obtain ⟨answer, t, j, rfl, last, unseen⟩ := ih after
    exact ⟨_, _, _, rfl, last, unseen⟩

theorem awaitOrWarn_unseen {P : σ → Prop} (kept : ∀ {s}, P s → P (F.waitAny s).2) (h : Handle)
    (w : World σ) (holds : P w.facility) :
    ∃ s j, (awaitOrWarn F h w : Run _ ε _) = ⟨.ok (), { w with facility := s }, j⟩ ∧
      P s ∧ Journal.outward j = [] := by
  obtain ⟨answer, s, j, performed, after, unseen⟩ := await_unseen (ε := ε) kept h w holds
  rw [awaitOrWarn, Activity.bind_run_ok performed]
  cases answer with
  | ok _ => exact ⟨s, j, by simp, after, unseen⟩
  | error e =>
    refine ⟨s, j ++ [.logged (.gaveUp h e)], rfl, after, ?_⟩
    rw [Journal.outward_append, unseen]
    rfl

namespace Chain

theorem awaitLast_unseen {P : σ → Prop} (kept : ∀ {s}, P s → P (F.waitAny s).2)
    (due : Option Handle) (w : World σ) (holds : P w.facility) :
    ∃ s j, awaitLast F due w = ⟨.ok (), { w with facility := s }, j⟩ ∧
      P s ∧ Journal.outward j = [] := by
  cases due with
  | none => exact ⟨w.facility, [], rfl, holds, rfl⟩
  | some h => exact awaitOrWarn_unseen kept h w holds

end Chain

namespace Facility.Alike

/-- Two pauses compare outwardly even if only one of them waits. -/
theorem related_awaitLast (alike : F.Alike F' R) (due due' : Option Handle) :
    Activity.Related (World.Beside Eq R) Journal.SameOutward (Chain.awaitLast F due)
      (Chain.awaitLast F' due') := by
  intro w w' related
  obtain ⟨s, j, performed, after, unseen⟩ :=
    Chain.awaitLast_unseen (P := fun s => R s w'.facility) alike.waitLeft due w related.facility
  obtain ⟨s', j', performed', after', unseen'⟩ :=
    Chain.awaitLast_unseen (P := R s) alike.waitRight due' w' after
  rw [performed, performed']
  exact ⟨rfl, ⟨related.sink, after'⟩, unseen.trans unseen'.symm⟩

theorem related_spawn (alike : F.Alike F' R) (congruence : Journal.Congruence J)
    (argv : List String) :
    Activity.Related (World.Beside Eq R) J (World.spawn F argv : Activity (World σ) ε _)
      (World.spawn F' argv) := by
  intro w w' related
  have same := alike.answer argv related.facility
  refine ⟨congrArg Except.ok same, ⟨related.sink, alike.spawn argv related.facility⟩, ?_⟩
  rw [World.spawn, World.spawn, same]
  exact congruence.refl _

theorem related_launch (alike : F.Alike F' R) (congruence : Journal.Congruence J)
    (argv : List String) :
    Activity.Related (World.Beside Eq R) J (launch F argv) (launch F' argv) := by
  have said (text : String) : Activity.Related (World.Beside Eq R) J
      (World.onSink (Sink.say text)) (World.onSink (Sink.say text)) :=
    (Activity.related_self congruence _).within (fun _ _ related => related.sink)
      fun _ _ _ _ related same => ⟨same, related.facility⟩
  cases argv with
  | nil => exact Activity.related_pure congruence _
  | cons program arguments =>
    refine (said _).bind congruence fun _ => ?_
    split
    · exact Activity.related_pure congruence _
    · refine (alike.related_spawn congruence _).bind congruence fun answer => ?_
      cases answer with
      | ok handle =>
        exact (Activity.related_log congruence _).bind congruence fun _ =>
          Activity.related_pure congruence _
      | error e =>
        refine (Activity.related_log congruence _).bind congruence fun _ => ?_
        exact (said _).bind congruence fun _ => Activity.related_pure congruence _

/-- Facilities that start alike compare outwardly. -/
theorem comparable (alike : F.Alike F' R) : F.Comparable Eq R Journal.SameOutward F' where
  congruence := Journal.congruence_sameOutward
  say _ := Activity.related_self Journal.congruence_sameOutward _
  awaitLast due := alike.related_awaitLast due due
  launch argv := alike.related_launch Journal.congruence_sameOutward argv

end Facility.Alike

end CommandChains
