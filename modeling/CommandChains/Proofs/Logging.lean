import CommandChains.Proofs.Chain.Run
import CommandChains.Proofs.Facility.Children

/-!
# What the log says of the facility

Each call of the facility is logged by one record, in the order of the calls. What the record
says is settled by the call and its answer, and, for a wait, by the child that is awaited.
That is the child started last before the wait: `Call.record?` gives the record from these
two, and `Call.told` the records of calls that follow one another.

`Journal.Recorded` says that the records of a journal, less the remarks about the session,
are the account of its calls. The record of a call may be logged only after the activity that
made the call is done, so the journals of single waits are not judged, but those of waits
whose failure has been logged. `Activity.Recorded P a Q` says: if the child started last
satisfies `P`, the journal of `a` is recorded, and if `a` ends with a value `x`, the child
started last satisfies `Q x`.
-/

namespace CommandChains

/-! ## Accounts of calls -/

/-- Whether a record is a remark about the session, and no word of a facility call. -/
def Log.Record.isRemark : Log.Record → Bool
  | parsed _ | exitRequested _ | endOfInput => true
  | _ => false

namespace Call

/-- What is logged of a call, if `last` is the child started last before it. Before any child
has been started nobody can be awaited, and no record tells of a wait. -/
def record? (last : Option Handle) : Call → Option Log.Record
  | spawn argv (.ok handle) => argv.head?.map fun program => .dispatched program handle
  | spawn argv (.error error) => argv.head?.map fun program => .dispatchFailed program error
  | wait (.ok handle) =>
    last.map fun awaited => if handle = awaited then .awaited awaited else .discarded awaited handle
  | wait (.error error) => last.map fun awaited => .gaveUp awaited error

/-- The child started last, once a call has been answered. -/
def lastAfter (last : Option Handle) (call : Call) : Option Handle :=
  call.started? <|> last

/-- What is logged of calls that follow one another. -/
def told : Option Handle → List Call → List (Option Log.Record)
  | _, [] => []
  | last, call :: rest => call.record? last :: told (call.lastAfter last) rest

theorem isRemark_of_record? {last : Option Handle} {call : Call} {r : Log.Record}
    (word : call.record? last = some r) : r.isRemark = false := by
  match call with
  | spawn argv (.ok _) =>
    obtain ⟨_, _, rfl⟩ := Option.map_eq_some_iff.1 word
    rfl
  | spawn argv (.error _) =>
    obtain ⟨_, _, rfl⟩ := Option.map_eq_some_iff.1 word
    rfl
  | wait (.ok handle) =>
    obtain ⟨awaited, _, rfl⟩ := Option.map_eq_some_iff.1 word
    split <;> rfl
  | wait (.error _) =>
    obtain ⟨_, _, rfl⟩ := Option.map_eq_some_iff.1 word
    rfl

theorem told_append (last : Option Handle) (a b : List Call) :
    told last (a ++ b) = told last a ++ told (a.foldl lastAfter last) b := by
  induction a generalizing last with
  | nil => rfl
  | cons call rest ih => rw [List.cons_append, told, told, ih]; rfl

@[simp] theorem length_told (last : Option Handle) (calls : List Call) :
    (told last calls).length = calls.length := by
  induction calls generalizing last with
  | nil => rfl
  | cons call rest ih => rw [told, List.length_cons, List.length_cons, ih]

/-- The child started last is the last one that the calls have started, unless they have
started none. -/
theorem foldl_lastAfter (last : Option Handle) (calls : List Call) :
    calls.foldl lastAfter last = (calls.filterMap started?).getLast?.or last := by
  induction calls generalizing last with
  | nil => rfl
  | cons call rest ih =>
    rw [List.foldl_cons, ih, lastAfter]
    cases started : call.started? with
    | none => rw [List.filterMap_cons_none started]; rfl
    | some handle =>
      rw [List.filterMap_cons_some started, List.getLast?_cons]
      cases (rest.filterMap started?).getLast? <;> rfl

/-- What is logged of one call among others. -/
theorem getElem?_told (last : Option Handle) (front : List Call) (call : Call)
    (rest : List Call) :
    (told last (front ++ call :: rest))[front.length]? =
      some (call.record? ((front.filterMap started?).getLast?.or last)) := by
  have before := length_told last front
  rw [told_append, List.getElem?_append_right (Nat.le_of_eq before), before, Nat.sub_self,
    foldl_lastAfter, told]
  rfl

end Call

namespace Journal

def callRecords (j : Journal) : List Log.Record :=
  j.records.filter fun r => !r.isRemark

@[simp] theorem callRecords_append (a b : Journal) :
    callRecords (a ++ b) = callRecords a ++ callRecords b := by
  simp [callRecords]

def lastAfter (last : Option Handle) (j : Journal) : Option Handle :=
  j.calls.foldl Call.lastAfter last

/-- The records of the calls account for the calls, if `last` was the child started last
before them. -/
def Recorded (last : Option Handle) (j : Journal) : Prop :=
  j.callRecords.map some = Call.told last j.calls

theorem Recorded.append {last : Option Handle} {a b : Journal} (first : a.Recorded last)
    (second : b.Recorded (a.lastAfter last)) : (a ++ b).Recorded last := by
  unfold Recorded at first second ⊢
  rw [callRecords_append, List.map_append, first, second, calls_append, Call.told_append]
  rfl

/-- Where nobody is called and only remarks are logged, there is nothing to account for. -/
theorem recorded_of_silent {j : Journal} (calls : j.calls = []) (records : j.callRecords = [])
    (last : Option Handle) : j.Recorded last ∧ j.lastAfter last = last := by
  rw [Recorded, lastAfter, calls, records]
  exact ⟨rfl, rfl⟩

theorem recorded_of_record? {last : Option Handle} {e : Entry} {call : Call} {r : Log.Record}
    (told : e.call? = some call) (word : call.record? last = some r) :
    Recorded last [e, .logged r] := by
  have unlogged : e.record? = none := by
    cases e with
    | logged => cases told
    | _ => rfl
  have records : records [e, .logged r] = [r] := by
    rw [Journal.records, List.filterMap_cons_none unlogged]
    rfl
  have calls : calls [e, .logged r] = [call] := by
    rw [Journal.calls, List.filterMap_cons_some told]
    rfl
  rw [Recorded, callRecords, records, calls, Call.told, word]
  simp [Call.isRemark_of_record? word, Call.told]

@[simp] theorem lastAfter_append (last : Option Handle) (a b : Journal) :
    lastAfter last (a ++ b) = lastAfter (lastAfter last a) b := by
  simp [lastAfter]

end Journal

/-! ## Recorded activities -/

namespace Activity

variable {S T ε ε' α β : Type} {P P' : Option Handle → Prop} {Q Q' : α → Option Handle → Prop}

/-- Where the child started last satisfies `P`, the log accounts for the calls of the
activity, and a value `x` leaves a child started last that satisfies `Q x`. -/
def Recorded (P : Option Handle → Prop) (a : Activity S ε α)
    (Q : α → Option Handle → Prop) : Prop :=
  ∀ s last, P last → (a s).journal.Recorded last ∧
    ∀ x, (a s).result = .ok x → Q x ((a s).journal.lastAfter last)

theorem Recorded.consequence {a : Activity S ε α} (recorded : Recorded P a Q)
    (pre : ∀ last, P' last → P last) (post : ∀ x last, Q x last → Q' x last) :
    Recorded P' a Q' := by
  intro s last holds
  obtain ⟨journal, after⟩ := recorded s last (pre last holds)
  exact ⟨journal, fun x result => post x _ (after x result)⟩

theorem recorded_pure {x : α} (holds : ∀ last, P last → Q x last) :
    Recorded P (pure x : Activity S ε α) Q := by
  rintro s last before
  refine ⟨rfl, ?_⟩
  rintro _ ⟨⟩
  exact holds last before

/-- An activity that calls nobody, and logs nothing but remarks. -/
theorem recorded_of_silent {a : Activity S ε α} (calls : ∀ s, (a s).journal.calls = [])
    (records : ∀ s, (a s).journal.callRecords = []) : Recorded P a fun _ => P := by
  intro s last holds
  obtain ⟨recorded, same⟩ := Journal.recorded_of_silent (calls s) (records s) last
  exact ⟨recorded, fun _ _ => same.symm ▸ holds⟩

theorem Recorded.bind {R : β → Option Handle → Prop} {a : Activity S ε α}
    {f : α → Activity S ε β} (first : Recorded P a Q) (second : ∀ x, Recorded (Q x) (f x) R) :
    Recorded P (a >>= f) R := by
  intro s last holds
  obtain ⟨journal, after⟩ := first s last holds
  rcases performed : a s with ⟨result, t, j⟩
  rw [performed] at journal after
  cases result with
  | error e =>
    rw [bind_run_error performed]
    exact ⟨journal, fun _ no => nomatch no⟩
  | ok x =>
    rw [bind_run_ok performed]
    obtain ⟨rest, done⟩ := second x t _ (after x rfl)
    refine ⟨journal.append rest, fun y result => ?_⟩
    rw [Journal.lastAfter_append]
    exact done y result

theorem Recorded.mapError {a : Activity S ε α} (recorded : Recorded P a Q) (f : ε → ε') :
    Recorded P (a.mapError f) Q := by
  intro s last holds
  obtain ⟨journal, after⟩ := recorded s last holds
  rcases performed : a s with ⟨result, t, j⟩
  rw [performed] at journal after
  cases result with
  | error e =>
    rw [mapError_run_error performed]
    exact ⟨journal, fun _ no => nomatch no⟩
  | ok x =>
    rw [mapError_run_ok performed]
    refine ⟨journal, ?_⟩
    rintro _ ⟨⟩
    exact after x rfl

theorem Recorded.within {a : Activity T ε α} (recorded : Recorded P a Q) (part : S → T)
    (replace : T → S → S) : Recorded P (a.within part replace) Q :=
  fun s => recorded (part s)

end Activity

/-! ## Launches, waits and chains -/

variable {σ : Type}

theorem Sink.callRecords_say (text : String) (s : Sink) :
    (Sink.say text s).journal.callRecords = [] := by
  obtain ⟨t, said⟩ | ⟨e, t, said⟩ := Sink.say_cases text s <;> rw [said] <;> rfl

theorem Sink.recorded_say {text : String} {s t : Sink} {result : Except SystemError Unit}
    {j : Journal} (said : Sink.say text s = ⟨result, t, j⟩) (last : Option Handle) :
    j.Recorded last ∧ j.lastAfter last = last := by
  have calls := Sink.calls_say text s
  have records := Sink.callRecords_say text s
  rw [said] at calls records
  exact Journal.recorded_of_silent calls records last

/-- What is logged behind a wait that has come to an answer. -/
def givenUp (h : Handle) : Except WaitError Unit → Journal
  | .ok _ => []
  | .error e => [.logged (.gaveUp h e)]

/-- A wait for the child started last is recorded once its failure, if it fails, is logged. -/
theorem recorded_await {ε : Type} (F : Facility σ) (h : Handle) (w : World σ) :
    ∃ answer t j, (await F h w : Run _ ε _) = ⟨.ok answer, t, j⟩ ∧
      Journal.Recorded (some h) (j ++ givenUp h answer) ∧
      Journal.lastAfter (some h) (j ++ givenUp h answer) = some h := by
  refine await_induction (motive := fun _ (r : Run (World σ) ε _) =>
    ∃ answer t j, r = ⟨.ok answer, t, j⟩ ∧ Journal.Recorded (some h) (j ++ givenUp h answer) ∧
      Journal.lastAfter (some h) (j ++ givenUp h answer) = some h) ?_ ?_ ?_ w
  · intro w e s _
    exact ⟨_, _, _, rfl, rfl, rfl⟩
  · intro w s _
    refine ⟨_, _, _, rfl, ?_, rfl⟩
    exact Journal.recorded_of_record? rfl (congrArg some (if_pos rfl))
  · rintro w r s _ other rest ⟨answer, t, j, rfl, recorded, last⟩
    have first : Journal.Recorded (some h) [.waited (.ok r), .logged (.discarded h r)] :=
      Journal.recorded_of_record? rfl (congrArg some (if_neg other))
    exact ⟨answer, t, _, rfl, first.append recorded, last⟩

/-- A wait of a chain's run is recorded if it is for the child started last. -/
theorem recorded_awaitOrWarn {ε : Type} (F : Facility σ) (h : Handle) :
    Activity.Recorded (fun last => last = some h) (awaitOrWarn F h : Activity (World σ) ε Unit)
      fun _ last => last = some h := by
  rintro w _ rfl
  obtain ⟨answer, t, j, performed, recorded, last⟩ := recorded_await (ε := ε) F h w
  rw [awaitOrWarn, Activity.bind_run_ok performed]
  cases answer with
  | ok _ => exact ⟨recorded, fun _ _ => last⟩
  | error e => exact ⟨recorded, fun _ _ => last⟩

/-- A child, if there is one, is the child started last. -/
def Remembers (child last : Option Handle) : Prop :=
  ∀ h, child = some h → last = some h

/-- A launch is recorded, however far its sink lets it come. A child that it starts is the
last one then. -/
theorem recorded_launch (F : Facility σ) {argv : List String} (nonempty : argv ≠ [])
    (child : Option Handle) :
    Activity.Recorded (Remembers child) (launch F argv) fun what =>
      Remembers (match what with | .started handle => some handle | _ => child) := by
  obtain ⟨program, arguments, rfl⟩ := List.exists_cons_of_ne_nil nonempty
  intro w last remembers
  rcases said : Sink.say (echoLine program) w.sink with ⟨named, t, j⟩
  obtain ⟨recorded, same⟩ := Sink.recorded_say said last
  cases named with
  | error e =>
    rw [launch_of_unsaid said]
    exact ⟨recorded, fun _ no => nomatch no⟩
  | ok _ =>
    by_cases exit : program = "exit"
    · rw [launch_of_exit said exit]
      refine ⟨recorded, ?_⟩
      rintro _ ⟨⟩
      exact same.symm ▸ remembers
    rcases answered : F.spawn (program :: arguments) w.facility with ⟨answer, s⟩
    cases answer with
    | ok handle =>
      rw [launch_of_started said exit answered]
      refine ⟨recorded.append (Journal.recorded_of_record? rfl rfl), ?_⟩
      rintro _ ⟨⟩
      rw [Journal.lastAfter_append]
      exact fun _ => id
    | error x =>
      rcases reported : Sink.say (failureLine program x) t with ⟨result, u, k⟩
      rw [launch_of_refused said exit answered reported]
      have start : Journal.Recorded last
          [.spawned (program :: arguments) (.error x), .logged (.dispatchFailed program x)] :=
        Journal.recorded_of_record? rfl rfl
      obtain ⟨report, still⟩ := Sink.recorded_say reported last
      refine ⟨recorded.append (same.symm ▸ start.append report), fun what ended => ?_⟩
      have failed : what = .failed := by
        cases result with
        | error e => cases ended
        | ok _ => cases ended; rfl
      rw [failed, Journal.lastAfter_append, same]
      exact still.symm ▸ remembers

namespace Chain

/-- A pause is recorded if the child that may be awaited is the one started last. -/
theorem recorded_awaitLast (F : Facility σ) {due child : Option Handle}
    (known : ∀ h, due = some h → child = some h) :
    Activity.Recorded (Remembers child) (awaitLast F due) fun _ => Remembers child := by
  cases due with
  | none => exact Activity.recorded_pure fun _ => id
  | some h =>
    obtain rfl := known h rfl
    refine (recorded_awaitOrWarn F h).consequence (fun last remembers => remembers h rfl) ?_
    rintro _ _ rfl
    exact fun _ => id

/-- The child that a run remembers is the child started last, though it has no word of the
children that were started before the run. -/
theorem recorded_runCommands (F : Facility σ) (background : Bool) {commands : List Command}
    (nonempty : ∀ c ∈ commands, c.argv ≠ []) (child : Option Handle)
    (pending : Option Delimiter) :
    Activity.Recorded (Remembers child) (runCommands F background commands child pending)
      fun _ _ => True := by
  induction commands generalizing child pending with
  | nil =>
    rw [runCommands_nil]
    refine (recorded_awaitLast F fun h due => ?_).bind fun _ =>
      Activity.recorded_pure fun _ _ => trivial
    cases background with
    | true => cases due
    | false => exact due
  | cons c rest ih =>
    rw [List.forall_mem_cons] at nonempty
    rw [runCommands_cons]
    refine (recorded_awaitLast F fun h due => ?_).bind fun _ =>
      (recorded_launch F nonempty.1 child).bind fun what => ?_
    · split at due
      · exact due
      · cases due
    · cases what with
      | exit => exact Activity.recorded_pure fun _ _ => trivial
      | started handle => exact ih nonempty.2 _ _
      | failed => exact ih nonempty.2 _ _

end Chain

end CommandChains
