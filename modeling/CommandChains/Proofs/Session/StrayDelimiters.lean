import Mathlib
import CommandChains.Facility.Scripted
import CommandChains.Proofs.Chain.Run
import CommandChains.Proofs.Chain.Words
import CommandChains.Proofs.Session.Execute

/-!
# Stray delimiters

A delimiter behind another one, or at the beginning of a line, closes a command that has no
words. Such a command is not run, and the delimiter behind it asks for no wait. Only as the
last word of a line does it count, because the last word says whether the line is left in
the background. So everywhere else a stray delimiter may be left out.

What a line does depends on its chain in two respects only, `Chain.RunsLike`: which commands
are run, and whether the chain is left in the background. A chain without anything to run
does nothing when it is run, so it makes no difference that lines with such chains are not
run at all.
-/

namespace CommandChains

variable {σ : Type}

namespace Chain

structure RunsLike (a b : Chain) : Prop where
  dispatchable : a.dispatchable = b.dispatchable
  background : a.endsInBackground = b.endsInBackground

theorem RunsLike.run {a b : Chain} (alike : a.RunsLike b) (F : Facility σ) :
    a.run F = b.run F := by
  rw [Chain.run, Chain.run, alike.dispatchable, alike.background]

/-- A chain with nothing to run is completed at once when it is run. -/
theorem run_of_isNoop (F : Facility σ) {chain : Chain} (noop : chain.isNoop = true) :
    chain.run F = pure .completed := by
  have nothing : chain.dispatchable = [] := by
    rw [Chain.dispatchable, List.filter_eq_nil_iff]
    intro c mem
    simpa using List.all_eq_true.1 noop c mem
  rw [Chain.run, nothing, runCommands_nil]
  cases chain.endsInBackground <;> simp [awaitLast]

/-- A delimiter that has no words before it and is not last does not change how a chain is
run. -/
theorem runsLike_of_stray {front rest : List String} (d : Delimiter)
    (closed : ∀ word ∈ front.getLast?, ∃ e : Delimiter, word = e.word) (some_ : rest ≠ []) :
    (ofWords (front ++ d.word :: rest)).RunsLike (ofWords (front ++ rest)) := by
  have stray : commandsOf (d.word :: rest) = [⟨[], some d⟩] ++ commandsOf rest :=
    commandsOf_delimiter rest (Delimiter.ofWord?_word d)
  have others := commandsOf_ne_nil some_
  simp only [ofWords, commandsOf_append closed, stray]
  constructor
  · simp [dispatchable, Command.isEmpty]
  · rw [← List.append_assoc, endsInBackground_append _ others, endsInBackground_append _ others]

end Chain

namespace Session

variable {F : Facility σ} {line line' : String} {s : Session σ}

/-- It makes no difference that a line with nothing to run is not run. -/
theorem runLine_eq_run (F : Facility σ) (line : String) :
    runLine F line = onWorld ((Chain.ofLine line).run F) := by
  unfold runLine
  split
  · next noop =>
    rw [Chain.run_of_isNoop F noop]
    rfl
  · rfl

theorem line_ne_empty (words : Text.wordsOf line ≠ []) : line ≠ "" := by
  rintro rfl
  exact words rfl

/-- Lines whose chains run alike do the same, apart from what is logged of the chain. -/
theorem execute_of_runsLike (F : Facility σ) (going : s.terminated = false)
    (alike : (Chain.ofLine line).RunsLike (Chain.ofLine line')) (some_ : line ≠ "")
    (some_' : line' ≠ "") :
    ∃ result t j,
      execute F line s = ⟨result, t, .logged (.parsed (Chain.ofLine line)) :: j⟩ ∧
      execute F line' s = ⟨result, t, .logged (.parsed (Chain.ofLine line')) :: j⟩ := by
  have same : runLine F line = runLine F line' := by
    rw [runLine_eq_run, runLine_eq_run, alike.run]
  rw [execute_of_going F line going, execute_of_going F line' going]
  rcases ran : runLine F line s with ⟨_ | ending, t, j⟩
  · exact ⟨_, t, j, proceed_of_error ran, proceed_of_error (same ▸ ran)⟩
  · have counted : settled line ending t = settled line' ending t := by
      cases ending with
      | exit => rfl
      | completed => rw [settled, settled, if_neg some_, if_neg some_']
    refine ⟨_, _, _, proceed_of_ok ran, ?_⟩
    rw [proceed_of_ok (same ▸ ran), counted]
    rfl

/-- A stray delimiter makes no difference unless it is last. Take a session that is not over,
on any facility and sink, and two lines whose words are the same but for a delimiter in the
one, which stands at the beginning or behind another delimiter and has some word behind it.
Both lines give the same result or error and leave the same session behind, with its counter,
sink and facility, and they do the same on the way: they write and flush the same, and make
the same calls with the same answers. Only the record of the chain itself differs.

Nor can it be told that a line with nothing to run is completed without being run: every line
does what it would do if its chain were run in any case. -/
theorem stray_delimiter_unseen (F : Facility σ) (s : Session σ) (going : s.terminated = false) :
    (∀ (front rest : List String) (d : Delimiter) (line line' : String),
      (∀ word ∈ front.getLast?, ∃ e : Delimiter, word = e.word) → rest ≠ [] →
      Text.wordsOf line = front ++ [d.word] ++ rest → Text.wordsOf line' = front ++ rest →
      ∃ result t j,
        execute F line s = ⟨result, t, .logged (.parsed (Chain.ofLine line)) :: j⟩ ∧
        execute F line' s = ⟨result, t, .logged (.parsed (Chain.ofLine line')) :: j⟩) ∧
    ∀ line, execute F line s = (do
      let chain ← Chain.read line
      let ending ← onWorld (chain.run F)
      settle line ending
      pure ending : Activity (Session σ) SessionError Ending) s := by
  refine ⟨fun front rest d line line' closed some_ words words' => ?_, fun line => ?_⟩
  · refine execute_of_runsLike F going ?_ (line_ne_empty ?_) (line_ne_empty ?_)
    · rw [Chain.ofLine, Chain.ofLine, words, words', List.append_assoc, List.singleton_append]
      exact Chain.runsLike_of_stray d closed some_
    · simp [words]
    · simp [words', some_]
  · rw [execute_of_going F line going, proceed, runLine_eq_run]
    simp [Chain.read]

/-- In `a & ; b` the `;` asks for no wait, so both commands are started before either is
awaited, as they are in `a & b`. -/
theorem stray_between_commands :
    let F := Scripted.facility {}
    let s : Session Scripted.State := { facility := {}, sink := .boundless }
    s.terminated = false ∧ (∀ word ∈ ["a", "&"].getLast?, ∃ e : Delimiter, word = e.word) ∧
      ["b"] ≠ [] ∧ Text.wordsOf "a & ; b" = ["a", "&"] ++ [Delimiter.sequential.word] ++ ["b"] ∧
      Text.wordsOf "a & b" = ["a", "&"] ++ ["b"] ∧
      (execute F "a & ; b" s).result = .ok .completed ∧
      (execute F "a & ; b" s).journal.calls =
        [.spawn ["a"] (.ok (.ofIndex 0)), .spawn ["b"] (.ok (.ofIndex 1)),
          .wait (.ok (.ofIndex 0)), .wait (.ok (.ofIndex 1))] := by
  intro F s
  have closed : ∀ word ∈ ["a", "&"].getLast?, ∃ e : Delimiter, word = e.word := by
    rintro word ⟨⟩
    exact ⟨.concurrent, rfl⟩
  have words : Text.wordsOf "a & ; b" = ["a", "&"] ++ [Delimiter.sequential.word] ++ ["b"] := by
    cbv
  have words' : Text.wordsOf "a & b" = ["a", "&"] ++ ["b"] := by cbv
  obtain ⟨result, t, j, whole, without⟩ :=
    (stray_delimiter_unseen F s rfl).1 _ ["b"] _ _ _ closed (by simp) words words'
  have same : (execute F "a & ; b" s).journal.calls = (execute F "a & b" s).journal.calls := by
    rw [whole, without]
    rfl
  have ended : (execute F "a & ; b" s).result = (execute F "a & b" s).result := by
    rw [whole, without]
  exact ⟨rfl, closed, by simp, words, words', ended.trans (by cbv), same.trans (by cbv)⟩

end Session

end CommandChains
