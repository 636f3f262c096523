import CommandChains.Journal

/-!
# Activities

An activity works on a state. It ends with a value or an error, leaves the state
as it has made it, and keeps a journal of this one performance. An error ends
the activity but undoes nothing: state and journal are those of the moment.

Activities are put together in sequence. The journal of the whole is the journal
of the parts, one after the other.
-/

namespace CommandChains

structure Run (S ε α : Type) where
  result : Except ε α
  state : S
  journal : Journal

/-- What can be done on states `S`, ending with an `α` or an error `ε`. -/
def Activity (S ε α : Type) := S → Run S ε α

namespace Activity

variable {S T ε ε' α β : Type}

def run (a : Activity S ε α) (s : S) : Run S ε α := a s

/-- Does nothing but give a value. -/
protected def pure (x : α) : Activity S ε α :=
  fun s => ⟨.ok x, s, []⟩

/-- Performs an activity and then, unless it failed, the one that its value calls
for. -/
protected def bind (a : Activity S ε α) (f : α → Activity S ε β) : Activity S ε β :=
  fun s =>
    match a s with
    | ⟨.error e, s', j⟩ => ⟨.error e, s', j⟩
    | ⟨.ok x, s', j⟩ =>
      let after := f x s'
      ⟨after.result, after.state, j ++ after.journal⟩

instance : Monad (Activity S ε) where
  pure := Activity.pure
  bind := Activity.bind

def fail (e : ε) : Activity S ε α :=
  fun s => ⟨.error e, s, []⟩

def state : Activity S ε S :=
  fun s => ⟨.ok s, s, []⟩

def update (f : S → S) : Activity S ε Unit :=
  fun s => ⟨.ok (), f s, []⟩

def note (e : Entry) : Activity S ε Unit :=
  fun s => ⟨.ok (), s, [e]⟩

def log (r : Log.Record) : Activity S ε Unit :=
  note (.logged r)

def within (part : S → T) (replace : T → S → S) (a : Activity T ε α) : Activity S ε α :=
  fun s =>
    let inner := a (part s)
    ⟨inner.result, replace inner.state s, inner.journal⟩

/-- An activity with its error seen as one of a larger kind. -/
def mapError (f : ε → ε') (a : Activity S ε α) : Activity S ε' α :=
  fun s =>
    let inner := a s
    ⟨inner.result.mapError f, inner.state, inner.journal⟩

/-- An activity with its result, good or bad, as its value. It never fails. -/
def attempt (a : Activity S ε α) : Activity S ε' (Except ε α) :=
  fun s =>
    let inner := a s
    ⟨.ok inner.result, inner.state, inner.journal⟩

/-- Performs an activity for each item, one after the other on the same state. An
error ends its own activity only. -/
def series {ι : Type} (f : ι → Activity S ε α) : List ι → S → List (Run S ε α)
  | [], _ => []
  | x :: rest, s =>
    let first := f x s
    first :: series f rest first.state

/-- The state after a series, if it began in a given state. -/
def stateAfter : List (Run S ε α) → S → S
  | [], s => s
  | r :: rest, _ => stateAfter rest r.state

@[simp] theorem pure_run (x : α) (s : S) :
    (pure x : Activity S ε α) s = ⟨.ok x, s, []⟩ := rfl

theorem bind_run (a : Activity S ε α) (f : α → Activity S ε β) (s : S) :
    (a >>= f) s =
      match a s with
      | ⟨.error e, s', j⟩ => ⟨.error e, s', j⟩
      | ⟨.ok x, s', j⟩ => ⟨(f x s').result, (f x s').state, j ++ (f x s').journal⟩ := rfl

theorem bind_run_ok {a : Activity S ε α} {s t : S} {x : α} {j : Journal}
    (h : a s = ⟨.ok x, t, j⟩) (f : α → Activity S ε β) :
    (a >>= f) s = ⟨(f x t).result, (f x t).state, j ++ (f x t).journal⟩ := by
  rw [bind_run, h]

theorem bind_run_error {a : Activity S ε α} {s t : S} {e : ε} {j : Journal}
    (h : a s = ⟨.error e, t, j⟩) (f : α → Activity S ε β) :
    (a >>= f) s = ⟨.error e, t, j⟩ := by
  rw [bind_run, h]

theorem mapError_run_ok {a : Activity S ε α} {s t : S} {x : α} {j : Journal}
    (h : a s = ⟨.ok x, t, j⟩) (f : ε → ε') : a.mapError f s = ⟨.ok x, t, j⟩ :=
  congrArg (fun r : Run S ε α => Run.mk (r.result.mapError f) r.state r.journal) h

theorem mapError_run_error {a : Activity S ε α} {s t : S} {e : ε} {j : Journal}
    (h : a s = ⟨.error e, t, j⟩) (f : ε → ε') : a.mapError f s = ⟨.error (f e), t, j⟩ :=
  congrArg (fun r : Run S ε α => Run.mk (r.result.mapError f) r.state r.journal) h

@[simp] theorem fail_run (e : ε) (s : S) :
    (fail e : Activity S ε α) s = ⟨.error e, s, []⟩ := rfl

@[simp] theorem state_run (s : S) : (state : Activity S ε S) s = ⟨.ok s, s, []⟩ := rfl

@[simp] theorem update_run (f : S → S) (s : S) :
    (update f : Activity S ε Unit) s = ⟨.ok (), f s, []⟩ := rfl

@[simp] theorem note_run (e : Entry) (s : S) :
    (note e : Activity S ε Unit) s = ⟨.ok (), s, [e]⟩ := rfl

@[simp] theorem log_run (r : Log.Record) (s : S) :
    (log r : Activity S ε Unit) s = ⟨.ok (), s, [.logged r]⟩ := rfl

end Activity

end CommandChains
