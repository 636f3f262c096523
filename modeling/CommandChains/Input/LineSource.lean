import CommandChains.SessionError
import CommandChains.World

/-!
# Line sources

A line source shows a prompt and gives the next line, or says that there are no
more, or fails. It may write its prompt to the sink of the session, and it may
share something with the facility: the lines and the commands can draw on the same
input. Every line uses up something of what remains, so reading line after line
comes to an end.
-/

namespace CommandChains

/-- A source of lines over states `τ`, beside a facility over states `σ`. -/
structure LineSource (σ τ : Type) where
  /-- Shows a prompt and reads the next line, if there is one. -/
  next : String → Activity (World σ × τ) SessionError (Option String)
  remaining : τ → Nat
  /-- Each line uses up some of the bound. -/
  remaining_lt : ∀ {prompt line : String} {w w' : World σ} {t t' : τ} {j : Journal},
    next prompt (w, t) = ⟨.ok (some line), (w', t'), j⟩ → remaining t' < remaining t

namespace LineSource

variable {σ τ ε α : Type}

def onSink (a : Activity Sink ε α) : Activity (Sink × τ) ε α :=
  a.within Prod.fst fun sink s => (sink, s.2)

def onSource (a : Activity τ ε α) : Activity (Sink × τ) ε α :=
  a.within Prod.snd fun t s => (s.1, t)

def besideFacility (a : Activity (Sink × τ) ε α) : Activity (World σ × τ) ε α :=
  a.within (fun s => (s.1.sink, s.2)) fun t s => ({ s.1 with sink := t.1 }, t.2)

/-- An activity on the sink, the facility and the source. -/
def withFacility (a : Activity (Sink × σ × τ) ε α) : Activity (World σ × τ) ε α :=
  a.within (fun s => (s.1.sink, s.1.facility, s.2)) fun t _ => (⟨t.2.1, t.1⟩, t.2.2)

theorem of_besideFacility {a : Activity (Sink × τ) ε α} {w w' : World σ} {t t' : τ}
    {r : Except ε α} {j : Journal}
    (h : besideFacility a (w, t) = ⟨r, (w', t'), j⟩) :
    a (w.sink, t) = ⟨r, (w'.sink, t'), j⟩ := by
  simp only [besideFacility, Activity.within, Run.mk.injEq, Prod.mk.injEq] at h
  obtain ⟨rfl, ⟨rfl, rfl⟩, rfl⟩ := h
  rfl

theorem of_withFacility {a : Activity (Sink × σ × τ) ε α} {w w' : World σ} {t t' : τ}
    {r : Except ε α} {j : Journal}
    (h : withFacility a (w, t) = ⟨r, (w', t'), j⟩) :
    a (w.sink, w.facility, t) = ⟨r, (w'.sink, w'.facility, t'), j⟩ := by
  simp only [withFacility, Activity.within, Run.mk.injEq, Prod.mk.injEq] at h
  obtain ⟨rfl, ⟨rfl, rfl⟩, rfl⟩ := h
  rfl

end LineSource

/-!
## Lines from a list

A line source for rehearsals: a list of what each reading gives. A line may hold
anything, newlines too. After the last entry there are no more lines. No prompt
is written, but the prompts are kept.
-/

inductive ListedLine where
  | line (text : String)
  | failure (text : String)
  /-- The word that there are no more lines, although entries may follow. -/
  | endOfInput
  deriving DecidableEq, Repr

/-- The entries that are left, and the prompts shown. -/
structure ListedLines where
  entries : List ListedLine
  prompts : List String := []
  deriving DecidableEq, Repr

namespace ListedLines

def take (prompt : String) : Activity ListedLines SessionError (Option String) := fun s =>
  let prompts := s.prompts ++ [prompt]
  match s.entries with
  | [] => ⟨.ok none, ⟨[], prompts⟩, []⟩
  | .line text :: rest => ⟨.ok (some text), ⟨rest, prompts⟩, []⟩
  | .failure text :: rest => ⟨.error (.source text), ⟨rest, prompts⟩, []⟩
  | .endOfInput :: rest => ⟨.ok none, ⟨rest, prompts⟩, []⟩

theorem length_lt_of_take {prompt line : String} {s s' : ListedLines} {j : Journal}
    (h : take prompt s = ⟨.ok (some line), s', j⟩) :
    s'.entries.length < s.entries.length := by
  unfold take at h
  split at h <;> simp only [Run.mk.injEq, reduceCtorEq, Except.ok.injEq, false_and] at h
  next rest e => rw [e, ← h.2.1]; simp

def source {σ : Type} : LineSource σ ListedLines where
  next prompt := LineSource.besideFacility (LineSource.onSource (take prompt))
  remaining s := s.entries.length
  remaining_lt {prompt line w w' t t' j} h := by
    have h := LineSource.of_besideFacility h
    simp only [LineSource.onSource, Activity.within, Run.mk.injEq, Prod.mk.injEq] at h
    obtain ⟨result, ⟨_, state⟩, _⟩ := h
    cases taken : take prompt t with
    | mk r u k =>
      rw [taken] at result state
      cases result
      cases state
      exact length_lt_of_take taken

end ListedLines

end CommandChains
