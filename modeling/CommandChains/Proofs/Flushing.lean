import CommandChains.Proofs.Chain.Run

/-!
# What is flushed before a call

A call of the facility may block or take over the terminal, and so may a request for bytes.
Before each of them all that was written is to have been flushed, and before a command is
started its program is to be the last thing that was written. `Journal.Timely` says so of
a journal that goes on from a history.

Whether a journal is timely depends on what has happened before, so activities are judged by
what is known of the history. `Activity.Timely P a Q` says: where the history satisfies `P`,
the journal of `a` is timely, and if `a` ends with a value `x`, the history after it satisfies
`Q x`. Nothing is known after an error, so what may come next in a session is to be timely
after any history (`Activity.TimelyAnywhere`).
-/

namespace CommandChains

/-! ## Timely journals -/

/-- Whether an entry tells of something that may block or hand the terminal over: a call of
the facility or a request for bytes. -/
def Entry.mayBlock : Entry → Bool
  | .spawned _ _ => true
  | .waited _ => true
  | .fetched => true
  | _ => false

/-- Whether an entry changes nothing for those that come after it: it writes nothing and
starts nothing. -/
def Entry.isPassing : Entry → Bool
  | .wrote _ => false
  | .spawned _ _ => false
  | _ => true

/-- Something was flushed, and nothing was written since. -/
def Journal.Covered (h : Journal) : Prop :=
  ∃ front rest, h = front ++ .flushed :: rest ∧ Journal.output rest = []

/-- The start of a command is announced if the program is the last thing that was written. -/
def Journal.Announced (h : Journal) (argv : List String) : Prop :=
  ∃ program arguments, argv = program :: arguments ∧
    Text.Utf8.encode (echoLine program) <:+ h.output

/-- Nothing that may block comes before all is flushed, and no start unannounced. -/
structure Entry.Timely (h : Journal) (e : Entry) : Prop where
  covered : e.mayBlock = true → h.Covered
  announced : ∀ argv answer, e = .spawned argv answer → h.Announced argv

/-- Each entry of a journal is timely, if the journal goes on from a history. -/
def Journal.Timely (h : Journal) : Journal → Prop
  | [] => True
  | e :: rest => e.Timely h ∧ Timely (h ++ [e]) rest

namespace Entry

variable {h : Journal} {e : Entry}

theorem Timely.of_not_mayBlock (never : e.mayBlock = false) : e.Timely h where
  covered blocking := absurd blocking (Bool.eq_false_iff.1 never)
  announced := by
    rintro argv answer rfl
    simp [mayBlock] at never

theorem Timely.of_isPassing (passing : e.isPassing = true) (covered : h.Covered) :
    e.Timely h where
  covered _ := covered
  announced := by
    rintro argv answer rfl
    simp [isPassing] at passing

theorem bytes_of_isPassing (passing : e.isPassing = true) : e.bytes = [] := by
  cases e with
  | wrote bytes => simp [isPassing] at passing
  | flushed => rfl
  | spawned argv answer => rfl
  | waited answer => rfl
  | fetched => rfl
  | logged record => rfl

end Entry

namespace Journal

variable {h j a b : Journal} {e : Entry}

theorem covered_of_flushed (h : Journal) : Covered (h ++ [.flushed]) :=
  ⟨h, [], rfl, rfl⟩

/-- As long as nothing is written, everything remains flushed. -/
theorem Covered.append (covered : Covered h) (quiet : output j = []) : Covered (h ++ j) := by
  obtain ⟨front, rest, rfl, nothing⟩ := covered
  exact ⟨front, rest ++ j, by simp, by rw [output_append, nothing, quiet, List.append_nil]⟩

/-- Where nothing is written, each flush finds the same bytes accepted. -/
theorem mem_flushMarks {total n : Nat} (quiet : output j = [])
    (mem : n ∈ flushMarks total j) : n = total := by
  induction j with
  | nil => cases mem
  | cons e rest ih =>
    obtain ⟨nothing, quiet⟩ := List.append_eq_nil_iff.1 quiet
    have ih := ih quiet
    cases e with
    | wrote bytes =>
      rw [Entry.bytes] at nothing
      subst nothing
      exact ih mem
    | flushed => exact (List.mem_cons.1 mem).elim id ih
    | spawned argv answer => exact ih mem
    | waited answer => exact ih mem
    | fetched => exact ih mem
    | logged record => exact ih mem

/-- If everything is flushed, the last flush found all bytes accepted. -/
theorem Covered.flushMarks (covered : Covered h) (total : Nat) :
    (flushMarks total h).getLast? = some (total + (output h).length) := by
  obtain ⟨front, rest, rfl, nothing⟩ := covered
  have all : (output (front ++ .flushed :: rest)).length = (output front).length := by
    rw [output_append, show output (.flushed :: rest) = [] from nothing, List.append_nil]
  rw [flushMarks_append, all, Journal.flushMarks, List.getLast?_append, List.getLast?_cons,
    Option.some_or]
  cases last : (Journal.flushMarks (total + (output front).length) rest).getLast? with
  | none => rfl
  | some n => rw [Option.getD_some, mem_flushMarks nothing (List.mem_of_getLast? last)]

theorem timely_append : Timely h (a ++ b) ↔ Timely h a ∧ Timely (h ++ a) b := by
  induction a generalizing h with
  | nil => simp [Timely]
  | cons e rest ih => simp [Timely, ih, and_assoc]

/-- Every entry of a timely journal is timely after what stands before it. -/
theorem Timely.entry (timely : Timely h (a ++ e :: b)) : e.Timely (h ++ a) :=
  (timely_append.1 timely).2.1

end Journal

/-! ## Timely activities -/

namespace Activity

variable {S T ε ε' α β : Type} {P P' : Journal → Prop} {Q Q' : α → Journal → Prop}

/-- After a history with `P`, the activity is timely, and if it ends with a value `x`, the
history has `Q x`. -/
def Timely (P : Journal → Prop) (a : Activity S ε α) (Q : α → Journal → Prop) : Prop :=
  ∀ s h, P h → Journal.Timely h (a s).journal ∧
    ∀ x, (a s).result = .ok x → Q x (h ++ (a s).journal)

theorem Timely.consequence {a : Activity S ε α} (timely : Timely P a Q) (pre : ∀ h, P' h → P h)
    (post : ∀ x h, Q x h → Q' x h) : Timely P' a Q' := by
  intro s h holds
  obtain ⟨journal, after⟩ := timely s h (pre h holds)
  exact ⟨journal, fun x result => post x _ (after x result)⟩

theorem timely_pure {x : α} (holds : ∀ h, P h → Q x h) :
    Timely P (pure x : Activity S ε α) Q := by
  intro s h before
  refine ⟨trivial, ?_⟩
  rintro _ ⟨⟩
  rw [pure_run, List.append_nil]
  exact holds h before

theorem Timely.bind {R : β → Journal → Prop} {a : Activity S ε α} {f : α → Activity S ε β}
    (first : Timely P a Q) (second : ∀ x, Timely (Q x) (f x) R) : Timely P (a >>= f) R := by
  intro s h before
  obtain ⟨journal, between⟩ := first s h before
  rcases performed : a s with ⟨result, t, j⟩
  rw [performed] at journal between
  cases result with
  | error e =>
    rw [bind_run_error performed]
    refine ⟨journal, fun y result => ?_⟩
    cases result
  | ok x =>
    obtain ⟨more, after⟩ := second x t _ (between x rfl)
    rw [bind_run_ok performed]
    refine ⟨Journal.timely_append.2 ⟨journal, more⟩, fun y result => ?_⟩
    rw [← List.append_assoc]
    exact after y result

theorem Timely.mapError {a : Activity S ε α} (timely : Timely P a Q) (f : ε → ε') :
    Timely P (a.mapError f) Q := by
  intro s h before
  obtain ⟨journal, after⟩ := timely s h before
  refine ⟨journal, fun x result => after x ?_⟩
  simp only [Activity.mapError] at result
  cases performed : (a s).result with
  | error e => rw [performed] at result; cases result
  | ok y => rw [performed] at result; cases result; rfl

theorem Timely.within {a : Activity T ε α} (timely : Timely P a Q) (part : S → T)
    (replace : T → S → S) : Timely P (a.within part replace) Q :=
  fun s h before => timely (part s) h before

/-- An activity that neither writes nor starts anything is timely once all is flushed. -/
theorem timely_of_passing {a : Activity S ε α}
    (passing : ∀ s, ∀ e ∈ (a s).journal, e.isPassing = true) :
    Timely Journal.Covered a fun _ => Journal.Covered := by
  intro s h covered
  have passing := passing s
  generalize (a s).journal = j at passing
  have quiet : Journal.output j = [] :=
    List.flatMap_eq_nil_iff.2 fun e mem => Entry.bytes_of_isPassing (passing e mem)
  refine ⟨?_, fun _ _ => covered.append quiet⟩
  clear quiet
  induction j generalizing h with
  | nil => trivial
  | cons e rest ih =>
    obtain ⟨first, others⟩ := List.forall_mem_cons.1 passing
    have still : (h ++ [e]).Covered :=
      covered.append (by simp [Journal.output, Entry.bytes_of_isPassing first])
    exact ⟨.of_isPassing first covered, ih _ still others⟩

/-- The activity is timely after any history, whatever has failed before it. -/
def TimelyAnywhere (a : Activity S ε α) : Prop :=
  ∀ s h, Journal.Timely h (a s).journal

theorem Timely.anywhere {a : Activity S ε α} (timely : Timely (fun _ => True) a Q) :
    a.TimelyAnywhere :=
  fun s h => (timely s h trivial).1

theorem TimelyAnywhere.within {a : Activity T ε α} (timely : a.TimelyAnywhere) (part : S → T)
    (replace : T → S → S) : (a.within part replace).TimelyAnywhere :=
  fun s h => timely (part s) h

theorem TimelyAnywhere.journal {a : Activity S ε α} (timely : a.TimelyAnywhere) {s t : S}
    {result : Except ε α} {j : Journal} (performed : a s = ⟨result, t, j⟩) (h : Journal) :
    Journal.Timely h j := by
  have journal := timely s h
  rwa [performed] at journal

/-- A series of activities that are timely after any history is timely. -/
theorem TimelyAnywhere.series {ι : Type} {f : ι → Activity S ε α}
    (timely : ∀ x, (f x).TimelyAnywhere) (items : List ι) (s : S) (h : Journal) :
    Journal.Timely h ((Activity.series f items s).flatMap Run.journal) := by
  induction items generalizing s h with
  | nil => trivial
  | cons x rest ih => exact Journal.timely_append.2 ⟨timely x s h, ih _ _⟩

end Activity

/-! ## Launches, waits and chains -/

variable {σ : Type}

/-- What was said is flushed, and is the last thing that was written. -/
theorem Sink.timely_say (text : String) :
    Activity.Timely (fun _ => True) (Sink.say text) fun _ h =>
      h.Covered ∧ Text.Utf8.encode text <:+ h.output := by
  intro s h _
  obtain ⟨t, said⟩ | ⟨e, t, said⟩ := Sink.say_cases text s
  · rw [said]
    refine ⟨⟨.of_not_mayBlock rfl, .of_not_mayBlock rfl, trivial⟩, fun _ _ => ⟨?_, ?_⟩⟩
    · rw [List.append_cons]
      exact Journal.covered_of_flushed _
    · simp [Journal.output, Entry.bytes]
  · rw [said]
    refine ⟨⟨.of_not_mayBlock rfl, trivial⟩, fun _ result => ?_⟩
    cases result

theorem World.timely_spawn {ε : Type} (F : Facility σ) (program : String)
    (arguments : List String) :
    Activity.Timely (fun h => h.Covered ∧ Text.Utf8.encode (echoLine program) <:+ h.output)
      (spawn F (program :: arguments) : Activity (World σ) ε _) fun _ h => h.Covered := by
  rintro w h ⟨covered, named⟩
  refine ⟨⟨⟨fun _ => covered, ?_⟩, trivial⟩, fun _ _ => covered.append rfl⟩
  rintro _ _ ⟨⟩
  exact ⟨program, arguments, rfl, named⟩

theorem timely_log {S ε : Type} (r : Log.Record) :
    Activity.Timely Journal.Covered (Activity.log r : Activity S ε Unit)
      fun _ => Journal.Covered :=
  Activity.timely_of_passing fun _ e mem => by
    cases List.mem_singleton.1 mem
    rfl

/-- A launch is timely after any history: it flushes what was left from before along with
the name of its program. -/
theorem timely_launch (F : Facility σ) {argv : List String} (nonempty : argv ≠ []) :
    Activity.Timely (fun _ => True) (launch F argv) fun _ => Journal.Covered := by
  obtain ⟨program, arguments, rfl⟩ := List.exists_cons_of_ne_nil nonempty
  refine ((Sink.timely_say (echoLine program)).within _ _).bind fun _ => ?_
  split
  · exact Activity.timely_pure fun _ holds => holds.1
  · refine (World.timely_spawn F program arguments).bind fun answer => ?_
    cases answer with
    | ok handle => exact (timely_log _).bind fun _ => Activity.timely_pure fun _ => id
    | error e =>
      refine (timely_log _).bind fun _ => ?_
      refine (((Sink.timely_say (failureLine program e)).within _ _).consequence
        (fun _ _ => trivial) fun _ _ holds => holds.1).bind fun _ => ?_
      exact Activity.timely_pure fun _ => id

theorem timely_await {ε : Type} (F : Facility σ) (h : Handle) :
    Activity.Timely Journal.Covered (await F h : Activity (World σ) ε _)
      fun _ => Journal.Covered := by
  refine Activity.timely_of_passing fun w => ?_
  refine await_induction (motive := fun _ r => ∀ e ∈ r.journal, e.isPassing = true) ?_ ?_ ?_ w
  · intro w e s _
    simp [Entry.isPassing]
  · intro w s _
    simp [Entry.isPassing]
  · intro w r s _ _ rest ih
    simpa [Entry.isPassing] using ih

namespace Chain

/-- A pause is timely if there is nobody to wait for or all is flushed. -/
theorem timely_awaitLast (F : Facility σ) {P : Journal → Prop} {due : Option Handle}
    (ready : ∀ h, P h → due.isSome → h.Covered) :
    Activity.Timely P (awaitLast F due) fun _ _ => True := by
  cases due with
  | none => exact Activity.timely_pure fun _ _ => trivial
  | some handle =>
    refine ((timely_await F handle).consequence (fun h holds => ready h holds rfl)
      fun _ _ => id).bind fun answer => ?_
    cases answer with
    | ok _ => exact Activity.timely_pure fun _ _ => trivial
    | error e => exact (timely_log _).consequence (fun _ => id) fun _ _ _ => trivial

/-- A child to be waited for has been started in this run, and since then all has been
flushed. -/
theorem timely_runCommands (F : Facility σ) (background : Bool) {commands : List Command}
    (nonempty : ∀ c ∈ commands, c.argv ≠ []) (last : Option Handle)
    (pending : Option Delimiter) :
    Activity.Timely (fun h => last.isSome → h.Covered)
      (runCommands F background commands last pending) fun _ _ => True := by
  -- The invariant is that whoever may be awaited was started behind a flush. A launch
  -- restores it whatever it comes to.
  induction commands generalizing last pending with
  | nil =>
    rw [runCommands_nil]
    have pause : Activity.Timely (fun h => last.isSome → h.Covered)
        (awaitLast F (if background then none else last)) fun _ _ => True :=
      timely_awaitLast F fun h covered due => covered (by cases background <;> simp_all)
    exact pause.bind fun _ => Activity.timely_pure fun _ _ => trivial
  | cons c rest ih =>
    rw [List.forall_mem_cons] at nonempty
    have pause : Activity.Timely (fun h => last.isSome → h.Covered)
        (awaitLast F (if pending = some .sequential then last else none)) fun _ _ => True :=
      timely_awaitLast F fun h covered due => covered (by split at due <;> simp_all)
    rw [runCommands_cons]
    refine pause.bind fun _ => (timely_launch F nonempty.1).bind fun launched => ?_
    cases launched with
    | exit => exact Activity.timely_pure fun _ _ => trivial
    | started handle =>
      exact (ih nonempty.2 _ _).consequence (fun _ covered _ => covered) fun _ _ => id
    | failed =>
      exact (ih nonempty.2 _ _).consequence (fun _ covered _ => covered) fun _ _ => id

end Chain

end CommandChains
