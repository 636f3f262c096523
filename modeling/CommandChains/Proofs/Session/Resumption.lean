import CommandChains.Proofs.Session.Counter
import CommandChains.Proofs.Session.LineByLine

/-!
# Lists that fail on the way

A list of lines may fail between any two lines. A failure stops the work on the list, but all
that it takes away is its own entry: the work can be taken up again on the same session, with
the entries that are left. `sittings` are the states from which the work is taken up. Together
the sittings come to what one work comes to on the list without its failures
(`together_sittings`, by induction on the entries), and in each of them nothing is done but
running lines (`converse_runs_lines`).
-/

namespace CommandChains

def ListedLine.isFailure : ListedLine → Bool
  | failure _ => true
  | _ => false

namespace ListedLines

def sound (entries : List ListedLine) : List ListedLine :=
  entries.filter fun entry => !entry.isFailure

/-- Reading an entry changes nothing but the list, and uses up an entry unless it says that
there are no more lines. -/
theorem of_next {σ : Type} {prompt : String} {w w' : World σ} {input rest : ListedLines}
    {result : Except SessionError (Option String)} {j : Journal}
    (read : source.next prompt (w, input) = ⟨result, (w', rest), j⟩) :
    w' = w ∧ j = [] ∧ (result ≠ .ok none → rest.entries.length < input.entries.length) := by
  obtain ⟨entries, prompts⟩ := input
  match entries with
  | [] => cases read; exact ⟨rfl, rfl, fun no => absurd rfl no⟩
  | .line text :: more => cases read; exact ⟨rfl, rfl, fun _ => Nat.lt_succ_self _⟩
  | .failure text :: more => cases read; exact ⟨rfl, rfl, fun _ => Nat.lt_succ_self _⟩
  | .endOfInput :: more => cases read; exact ⟨rfl, rfl, fun no => absurd rfl no⟩

theorem next_run {σ : Type} {prompt : String} {input rest : ListedLines}
    {result : Except SessionError (Option String)}
    (told : take prompt input = ⟨result, rest, []⟩) (w : World σ) :
    source.next prompt (w, input) = ⟨result, (w, rest), []⟩ := by
  refine source_beside.next_run ?_
  rw [LineSource.onSource, Activity.within, told]

end ListedLines

namespace Session

variable {σ : Type}

/-! ## One work on a list -/

/-- A work that fails has used up some entry. -/
theorem length_lt_of_failed (F : Facility σ) {start : Session σ × ListedLines} {e : SessionError}
    (failed : (converse F ListedLines.source start).result = .error e) :
    (converse F ListedLines.source start).state.2.entries.length < start.2.entries.length := by
  obtain ⟨s, input⟩ := start
  refine converse_induction (motive := fun _ input talk => talk.result = .error e →
    talk.state.2.entries.length < input.entries.length) ?_ ?_ ?_ ?_ ?_ s input failed
  · intro s input _ no
    cases no
  · intro s input e w rest j _ read _
    exact (ListedLines.of_next read).2.2 fun no => nomatch no
  · intro s input w rest j _ _ no
    cases no
  · intro s input line w rest j e t k _ read _ _
    exact (ListedLines.of_next read).2.2 fun no => nomatch no
  · intro s input line w rest j how t k _ read _ more later failed
    exact (later failed).trans ((ListedLines.of_next read).2.2 fun no => nomatch no)

/-- The work on a list runs lines and does nothing else, except that the end of the lines is
logged: a failure of the list calls nobody, writes and logs nothing, and leaves the session as
the last line has left it. -/
theorem converse_runs_lines (F : Facility σ) (start : Session σ × ListedLines) :
    let talk := converse F ListedLines.source start
    let runs := Activity.series (execute F) ((turns F ListedLines.source start).map Turn.line) start.1
    talk.state.1 = Activity.stateAfter runs start.1 ∧
    talk.journal = runs.flatMap Run.journal ++
      if talk.result = .ok .endOfInput then [.logged .endOfInput] else [] := by
  fun_induction turns F ListedLines.source start with
  | case1 s input closed =>
    rw [converse_of_terminated closed]
    exact ⟨rfl, rfl⟩
  | case2 s input going e after j read =>
    obtain ⟨w, rest⟩ := after
    obtain ⟨rfl, rfl, _⟩ := ListedLines.of_next read
    rw [converse_of_error (Bool.eq_false_iff.2 going) read]
    exact ⟨rfl, rfl⟩
  | case3 s input going after j read =>
    obtain ⟨w, rest⟩ := after
    obtain ⟨rfl, rfl, _⟩ := ListedLines.of_next read
    rw [converse_of_end (Bool.eq_false_iff.2 going) read]
    exact ⟨rfl, rfl⟩
  | case4 s input going line w rest j read fewer e s' k ran =>
    obtain ⟨rfl, rfl, _⟩ := ListedLines.of_next read
    have ran : execute F line s = _ := ran
    rw [converse_of_line_error (Bool.eq_false_iff.2 going) read ran]
    simp [Activity.series, Activity.stateAfter, ran]
  | case5 s input going line w rest j read fewer how s' k ran ih =>
    obtain ⟨rfl, rfl, _⟩ := ListedLines.of_next read
    have ran : execute F line s = _ := ran
    rw [converse_of_line (Bool.eq_false_iff.2 going) read ran]
    obtain ⟨state, journal⟩ := ih
    refine ⟨?_, ?_⟩
    · simpa [Activity.series, Activity.stateAfter, ran] using state
    · simpa [Activity.series, ran] using journal

/-! ## Sittings -/

/-- What a list that has failed leaves to go on with. -/
def interrupted? (talk : Run (Session σ × ListedLines) SessionError SessionEnd) :
    Option (Session σ × ListedLines) :=
  match talk.result with
  | .error (.source _) => some talk.state
  | _ => none

theorem length_lt_of_interrupted (F : Facility σ) {start left : Session σ × ListedLines}
    (broken : interrupted? (converse F ListedLines.source start) = some left) :
    left.2.entries.length < start.2.entries.length := by
  unfold interrupted? at broken
  split at broken
  · next failed =>
    cases broken
    exact length_lt_of_failed F failed
  · cases broken

/-- The states from which the work on a list is taken up: the first one, and whenever the list
has failed, the one that is left then. -/
def sittings (F : Facility σ) (start : Session σ × ListedLines) :
    List (Session σ × ListedLines) :=
  start ::
    match broken : interrupted? (converse F ListedLines.source start) with
    | some left =>
      have : left.2.entries.length < start.2.entries.length := length_lt_of_interrupted F broken
      sittings F left
    | none => []
termination_by start.2.entries.length

/-- After a work, the list is taken up again if it has failed. -/
def sittingsAfter (F : Facility σ) (talk : Run (Session σ × ListedLines) SessionError SessionEnd) :
    List (Session σ × ListedLines) :=
  match interrupted? talk with
  | some left => sittings F left
  | none => []

theorem sittings_cons (F : Facility σ) (start : Session σ × ListedLines) :
    sittings F start = start :: sittingsAfter F (converse F ListedLines.source start) := by
  rw [sittings, sittingsAfter]
  split <;> simp [*]

/-! ## All sittings together -/

/-- A work on a list that comes to its end, and one that ends in the same way, with the same
session and, but for failures, the same entries left. -/
structure SameEnd (talk once : Run (Session σ × ListedLines) SessionError SessionEnd) : Prop where
  done : ∃ how, talk.result = .ok how
  result : talk.result = once.result
  session : talk.state.1 = once.state.1
  left : ListedLines.sound talk.state.2.entries = once.state.2.entries

/-- Some sittings together come to what one work comes to: the same lines are executed, the
same is done, and the last sitting ends as the one work does. -/
structure Together (F : Facility σ) (starts : List (Session σ × ListedLines))
    (whole : Session σ × ListedLines) : Prop where
  turns : starts.flatMap (turns F ListedLines.source) = turns F ListedLines.source whole
  journal : (starts.flatMap fun start => (converse F ListedLines.source start).journal) =
    (converse F ListedLines.source whole).journal
  ended : ∃ last, starts.getLast? = some last ∧
    SameEnd (converse F ListedLines.source last) (converse F ListedLines.source whole)

section

variable {F : Facility σ} {start later whole rest : Session σ × ListedLines}

/-- A work that comes to its end is the only sitting. -/
theorem together_of_done
    (same : SameEnd (converse F ListedLines.source start) (converse F ListedLines.source whole))
    (turns : Session.turns F ListedLines.source start = Session.turns F ListedLines.source whole)
    (journal : (converse F ListedLines.source start).journal =
      (converse F ListedLines.source whole).journal) :
    Together F (sittings F start) whole := by
  obtain ⟨how, done⟩ := same.done
  have only : sittings F start = [start] := by
    rw [sittings_cons, sittingsAfter, interrupted?, done]
  rw [only]
  exact ⟨by simpa using turns, by simpa using journal, start, rfl, same⟩

/-- A sitting in which the list fails before any line is nothing. -/
theorem Together.failure {text : String} (together : Together F (sittings F later) whole)
    (turns : Session.turns F ListedLines.source start = [])
    (broken : converse F ListedLines.source start = ⟨.error (.source text), later, []⟩) :
    Together F (sittings F start) whole := by
  have first : sittings F start = start :: sittings F later := by
    rw [sittings_cons, broken]
    rfl
  rw [first]
  refine ⟨?_, ?_, ?_⟩
  · rw [List.flatMap_cons, turns, together.turns]
    rfl
  · rw [List.flatMap_cons, broken, together.journal]
    rfl
  · obtain ⟨last, found, same⟩ := together.ended
    refine ⟨last, ?_, same⟩
    rw [List.getLast?_cons, found]
    rfl

theorem together_of_terminated {s : Session σ} {input input' : ListedLines}
    (closed : s.terminated = true) (same : ListedLines.sound input.entries = input'.entries) :
    Together F (sittings F (s, input)) (s, input') := by
  refine together_of_done ?_ ?_ ?_
  · rw [converse_of_terminated closed, converse_of_terminated closed]
    exact ⟨⟨_, rfl⟩, rfl, rfl, same⟩
  · rw [turns_of_terminated closed, turns_of_terminated closed]
  · rw [converse_of_terminated closed, converse_of_terminated closed]

/-- A work that begins with a turn and goes on as another does. -/
structure BeginsWith (F : Facility σ) (turn : Turn) (k : Journal)
    (start later : Session σ × ListedLines) : Prop where
  turns : Session.turns F ListedLines.source start =
    turn :: Session.turns F ListedLines.source later
  talk : converse F ListedLines.source start =
    ⟨(converse F ListedLines.source later).result, (converse F ListedLines.source later).state,
      k ++ (converse F ListedLines.source later).journal⟩

/-- A line before the first sitting and before the one work. -/
theorem Together.line {turn : Turn} {k : Journal} (together : Together F (sittings F later) rest)
    (first : BeginsWith F turn k start later) (once : BeginsWith F turn k whole rest) :
    Together F (sittings F start) whole := by
  -- What is taken up later depends on how the first sitting ends, not on what it has done.
  have resumed : sittingsAfter F (converse F ListedLines.source start) =
      sittingsAfter F (converse F ListedLines.source later) := by
    rw [first.talk]
    rfl
  rw [sittings_cons] at together
  rw [sittings_cons, resumed]
  generalize sittingsAfter F (converse F ListedLines.source later) = more at together
  refine ⟨?_, ?_, ?_⟩
  · rw [List.flatMap_cons, first.turns, once.turns, ← together.turns]
    rfl
  · rw [List.flatMap_cons, first.talk, once.talk, ← together.journal, List.flatMap_cons,
      List.append_assoc]
  · obtain ⟨last, found, same⟩ := together.ended
    rw [List.getLast?_cons] at found ⊢
    rw [once.talk]
    cases behind : more.getLast? with
    | some other =>
      rw [behind] at found
      cases found
      exact ⟨_, rfl, same.done, same.result, same.session, same.left⟩
    | none =>
      rw [behind] at found
      cases found
      refine ⟨start, rfl, ?_⟩
      rw [first.talk]
      exact ⟨same.done, same.result, same.session, same.left⟩

end

section

variable {F : Facility σ} {s t : Session σ} (going : s.terminated = false)

include going

theorem beginsWith_of_line {text : String} {how : Ending} {k : Journal}
    (ran : execute F text s = ⟨.ok how, t, k⟩) (rest : List ListedLine) (prompts : List String) :
    BeginsWith F ⟨text, .ok how⟩ k (s, ⟨.line text :: rest, prompts⟩)
      (t, ⟨rest, prompts ++ [s.prompt]⟩) := by
  have read := ListedLines.next_run (σ := σ)
    (rfl : ListedLines.take s.prompt ⟨.line text :: rest, prompts⟩ = _) s.toWorld
  exact ⟨turns_of_line going read ran, converse_of_line going read ran⟩

/-- Two lists that say at once that there are no more lines. -/
theorem together_of_end {input input' left left' : ListedLines}
    (told : ListedLines.take s.prompt input = ⟨.ok none, left, []⟩)
    (told' : ListedLines.take s.prompt input' = ⟨.ok none, left', []⟩)
    (same : ListedLines.sound left.entries = left'.entries) :
    Together F (sittings F (s, input)) (s, input') := by
  have read := ListedLines.next_run told s.toWorld
  have read' := ListedLines.next_run told' s.toWorld
  have none_ (line : String) : (.ok none : Except SessionError (Option String)) ≠ .ok (some line) :=
    fun no => nomatch no
  refine together_of_done ?_ ?_ ?_
  · rw [converse_of_end going read, converse_of_end going read']
    exact ⟨⟨_, rfl⟩, rfl, rfl, same⟩
  · rw [turns_of_no_line read none_, turns_of_no_line read' none_]
  · rw [converse_of_end going read, converse_of_end going read']

end

/-- Sittings on a list come to what one work comes to on the list without its failures. -/
theorem together_sittings (F : Facility σ) (entries : List ListedLine) (s : Session σ)
    (prompts prompts' : List String) (unfailing : s.sink.Unfailing) :
    Together F (sittings F (s, ⟨entries, prompts⟩))
      (s, ⟨ListedLines.sound entries, prompts'⟩) := by
  induction entries generalizing s prompts prompts' with
  | nil =>
    by_cases closed : s.terminated = true
    · exact together_of_terminated closed rfl
    exact together_of_end (Bool.eq_false_iff.2 closed) rfl rfl rfl
  | cons entry rest ih =>
    by_cases closed : s.terminated = true
    · exact together_of_terminated closed rfl
    have going := Bool.eq_false_iff.2 closed
    cases entry with
    | failure text =>
      have read := ListedLines.next_run
        (rfl : ListedLines.take s.prompt ⟨.failure text :: rest, prompts⟩ = _) s.toWorld
      refine (ih s (prompts ++ [s.prompt]) prompts' unfailing).failure ?_
        (converse_of_error going read)
      exact turns_of_no_line read fun _ no => nomatch no
    | endOfInput => exact together_of_end going rfl rfl rfl
    | line text =>
      obtain ⟨how, t, k, ran⟩ := execute_of_unfailing F text going
      obtain ⟨after, still, ran⟩ := ran s.sink unfailing
      refine (ih _ _ (prompts' ++ [s.prompt]) still).line (beginsWith_of_line going ran rest prompts) ?_
      exact beginsWith_of_line going ran (ListedLines.sound rest) prompts'

/-- A list of lines that fails loses nothing. Take any session, over or not, any facility, a
sink that never fails, and any list of lines, failures and words that there are no more lines.
Let the session work on the list, and whenever the list fails, let it work again on the entries
that are left. The last work ends with an exit or at the end of the lines, and compared with
one work on the list without its failures it ends in the same way, with the same session and
facility, and, but for failures, with the same entries unread. All works together execute the
same lines with the same results, and do the same in the same order: the facility is asked for
the same things and gives the same answers, and the same is written and logged. And a work that
ends with an error has only run its lines. The error itself asks nothing of the facility, writes
nothing and leaves the session, with its counter and its end, as the last line has left it. -/
theorem resumed_eq_unbroken (F : Facility σ) (s : Session σ) (input : ListedLines)
    (unfailing : s.sink.Unfailing) :
    let starts := sittings F (s, input)
    let talks := starts.map (converse F ListedLines.source)
    let whole := (s, { input with entries := ListedLines.sound input.entries })
    let once := converse F ListedLines.source whole
    (∃ last, talks.getLast? = some last ∧
      (last.result = .ok .exit ∨ last.result = .ok .endOfInput) ∧
      last.result = once.result ∧ last.state.1 = once.state.1 ∧
      ListedLines.sound last.state.2.entries = once.state.2.entries) ∧
    talks.flatMap Run.journal = once.journal ∧
    starts.flatMap (turns F ListedLines.source) = turns F ListedLines.source whole ∧
    ∀ start ∈ starts, ∀ e, (converse F ListedLines.source start).result = .error e →
      let talk := converse F ListedLines.source start
      let lines := (turns F ListedLines.source start).map Turn.line
      let runs := Activity.series (execute F) lines start.1
      talk.state.1 = Activity.stateAfter runs start.1 ∧
      talk.journal = runs.flatMap Run.journal := by
  intro starts talks whole once
  have together : Together F starts whole :=
    together_sittings F input.entries s input.prompts input.prompts unfailing
  refine ⟨?_, ?_, together.turns, ?_⟩
  · obtain ⟨last, found, same⟩ := together.ended
    refine ⟨converse F ListedLines.source last, ?_, ?_, same.result, same.session, same.left⟩
    · have talked := List.getLast?_map (f := converse F ListedLines.source) (l := starts)
      rw [found] at talked
      exact talked
    · obtain ⟨how, done⟩ := same.done
      cases how with
      | exit => exact .inl done
      | endOfInput => exact .inr done
  · exact (List.flatMap_map _ _ _).trans together.journal
  · intro start _ e failed
    obtain ⟨session, journal⟩ := converse_runs_lines F start
    rw [failed, if_neg (by simp), List.append_nil] at journal
    exact ⟨session, journal⟩

/-- A list that fails before its first line, twice between two lines, and behind the one that
ends the session. -/
theorem resumed_through_exit :
    let F := Scripted.facility {}
    let s : Session Scripted.State := { facility := {}, sink := .boundless }
    let input : ListedLines := { entries := [.failure "f", .line "a &", .failure "g", .failure "h",
      .line "b ; exit", .failure "i", .endOfInput, .line "c"] }
    let starts := sittings F (s, input)
    s.sink.Unfailing ∧
      (starts.flatMap (turns F ListedLines.source)).map Turn.line = ["a &", "b ; exit"] ∧
      ∃ last, (starts.map (converse F ListedLines.source)).getLast? = some last ∧
        last.result = .ok .exit ∧ last.state.1.counter = 2 ∧
        ListedLines.sound last.state.2.entries = [.endOfInput, .line "c"] := by
  intro F s input starts
  have unfailing := Sink.unfailing_boundless
  obtain ⟨⟨last, found, _, result, session, left⟩, _, executed, _⟩ :=
    resumed_eq_unbroken F s input unfailing
  refine ⟨unfailing, ?_, last, found, result.trans ?_, ?_, left.trans ?_⟩
  · rw [executed]
    simp only [F, s, input]
    cbv
  · simp only [F, s, input]
    cbv
  · rw [session]
    simp only [F, s, input]
    cbv
  · simp only [F, s, input]
    cbv

end Session

end CommandChains
