/-!
# Lists that are cut at some of their items

Words are cut at delimiters, and bytes and texts are cut at newlines. What holds of a list
in which nothing is cut, and goes on to hold if a cut and what stands in front of it are put
before a list, holds of all lists.
-/

namespace CommandChains

/-- Induction along the cuts of a list: a list has no cut in it, or it has a first one, and
behind that stands a list with fewer. -/
@[elab_as_elim]
theorem segment_induction {α : Type} (isCut : α → Bool) {motive : List α → Prop}
    (last : ∀ segment, (∀ x ∈ segment, isCut x = false) → motive segment)
    (cut : ∀ segment c rest, (∀ x ∈ segment, isCut x = false) → isCut c = true → motive rest →
      motive (segment ++ c :: rest))
    (items : List α) : motive items := by
  -- What has been passed over since the last cut is kept in front.
  suffices kept : ∀ segment, (∀ x ∈ segment, isCut x = false) → motive (segment ++ items) from
    kept [] fun _ mem => nomatch mem
  induction items with
  | nil =>
    intro segment plain
    rw [List.append_nil]
    exact last segment plain
  | cons x rest ih =>
    intro segment plain
    cases cutting : isCut x with
    | true => exact cut segment x rest plain cutting (ih [] fun _ mem => nomatch mem)
    | false =>
      rw [← List.singleton_append, ← List.append_assoc]
      refine ih (segment ++ [x]) fun y mem => ?_
      rcases List.mem_append.1 mem with before | here
      · exact plain y before
      · rw [List.mem_singleton.1 here]
        exact cutting

end CommandChains
