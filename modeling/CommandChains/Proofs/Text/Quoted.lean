import CommandChains.Text.Quoted
import Mathlib.Logic.Function.Basic

/-!
# Printed forms that say where they end

Something is printed in the midst of a text. `Text.SelfDelimiting` says that what was printed
can be told from the text, and so can the place where its form ends, whatever stands behind it.
Such forms can be put behind each other, and a list of them can be closed with a mark, as long as
none of them begins with the mark.

The quoted form of a text is of this kind. A character is either shown as itself, and then it is
neither a quote nor a backslash, or it is written as an escape. Escapes begin with a backslash, and
the character behind it says which escape it is: one for a character that has a name, or one that
gives the code point and closes it with a brace.
-/

namespace CommandChains.Text

/-- A form of printing from which, whatever stands behind it, can be told what was printed and
where the form ends. -/
def SelfDelimiting {α : Type} (print : α → List Char) : Prop :=
  ∀ a b s t, print a ++ s = print b ++ t → a = b ∧ s = t

namespace SelfDelimiting

variable {α β : Type} {print : α → List Char}

/-- Different things are printed differently. -/
theorem injective (h : SelfDelimiting print) : Function.Injective print :=
  fun a b same => (h a b [] [] (by rw [same])).1

/-- A label in front tells nothing, and hides nothing. -/
theorem labelled (h : SelfDelimiting print) (label : List Char) :
    SelfDelimiting fun a => label ++ print a := by
  intro a b s t same
  rw [List.append_assoc, List.append_assoc] at same
  exact h a b s t (List.append_cancel_left same)

/-- So does something that always stands behind it. -/
theorem closed (h : SelfDelimiting print) (ending : List Char) :
    SelfDelimiting fun a => print a ++ ending := by
  intro a b s t same
  rw [List.append_assoc, List.append_assoc] at same
  obtain ⟨rfl, rest⟩ := h a b _ _ same
  exact ⟨rfl, List.append_cancel_left rest⟩

/-- The form of something that can be told from one of its parts. -/
theorem comap (h : SelfDelimiting print) {part : β → α} (tells : Function.Injective part) :
    SelfDelimiting fun x => print (part x) := by
  intro x y s t same
  obtain ⟨parts, rest⟩ := h (part x) (part y) s t same
  exact ⟨tells parts, rest⟩

/-- The form of something that can be told from two of its parts. -/
theorem both {γ : Type} {print' : β → List Char} (h : SelfDelimiting print)
    (h' : SelfDelimiting print') {first : γ → α} {second : γ → β}
    (tell : ∀ x y, first x = first y → second x = second y → x = y) :
    SelfDelimiting fun x => print (first x) ++ print' (second x) := by
  intro x y s t same
  rw [List.append_assoc, List.append_assoc] at same
  obtain ⟨firsts, behind⟩ := h (first x) (first y) _ _ same
  obtain ⟨seconds, rest⟩ := h' (second x) (second y) s t behind
  exact ⟨tell x y firsts seconds, rest⟩

/-- Forms one after the other, up to a mark with which none of them begins. -/
theorem upTo {mark : Char} (h : SelfDelimiting print)
    (begins : ∀ a, ∃ c rest, print a = c :: rest ∧ c ≠ mark) :
    SelfDelimiting fun items : List α => items.flatMap print ++ [mark] := by
  intro items
  induction items with
  | nil =>
    intro items' s t same
    cases items' with
    | nil => exact ⟨rfl, List.append_cancel_left same⟩
    | cons b others =>
      obtain ⟨c, rest, form, other⟩ := begins b
      simp only [List.flatMap_nil, List.flatMap_cons, form, List.cons_append, List.nil_append,
        List.cons.injEq] at same
      exact absurd same.1.symm other
  | cons a more ih =>
    intro items' s t same
    cases items' with
    | nil =>
      obtain ⟨c, rest, form, other⟩ := begins a
      simp only [List.flatMap_nil, List.flatMap_cons, form, List.cons_append, List.nil_append,
        List.cons.injEq] at same
      exact absurd same.1 other
    | cons b others =>
      simp only [List.flatMap_cons, List.append_assoc] at same ih
      obtain ⟨rfl, behind⟩ := h a b _ _ same
      obtain ⟨rfl, rest⟩ := ih others s t behind
      exact ⟨rfl, rest⟩

end SelfDelimiting

/-! ## Numbers -/

/-- What a digit of a hexadecimal number is. -/
theorem exists_of_mem_toDigits {n : Nat} {c : Char} (mem : c ∈ Nat.toDigits 16 n) :
    ∃ k < 16, c = Nat.digitChar k := by
  induction n using Nat.strongRecOn with
  | ind n ih =>
    by_cases small : n < 16
    · rw [Nat.toDigits_of_lt_base small, List.mem_singleton] at mem
      exact ⟨n, small, mem⟩
    · rw [Nat.toDigits_of_base_le (by decide) (by omega), List.mem_append,
        List.mem_singleton] at mem
      rcases mem with front | last
      · exact ih (n / 16) (by omega) front
      · exact ⟨n % 16, Nat.mod_lt n (by decide), last⟩

theorem digitChar_inj {m n : Nat} (first : m < 16) (second : n < 16)
    (same : m.digitChar = n.digitChar) : m = n := by
  have all : ∀ a b : Fin 16, a.val.digitChar = b.val.digitChar → a = b := by decide
  exact congrArg Fin.val (all ⟨m, first⟩ ⟨n, second⟩ same)

/-- The digits of a number tell which it is. -/
theorem toDigits_inj {m n : Nat} (same : Nat.toDigits 16 m = Nat.toDigits 16 n) : m = n := by
  induction m using Nat.strongRecOn generalizing n with
  | ind m ih =>
    by_cases small : m < 16 <;> by_cases small' : n < 16
    · rw [Nat.toDigits_of_lt_base small, Nat.toDigits_of_lt_base small', List.singleton_inj] at same
      exact digitChar_inj small small' same
    · rw [Nat.toDigits_of_lt_base small, Nat.toDigits_of_base_le (by decide) (by omega),
        List.singleton_eq_append_iff] at same
      simp [Nat.toDigits_ne_nil] at same
    · rw [Nat.toDigits_of_lt_base small', Nat.toDigits_of_base_le (by decide) (by omega),
        List.append_eq_singleton_iff] at same
      simp [Nat.toDigits_ne_nil] at same
    · rw [Nat.toDigits_of_base_le (by decide) (Nat.le_of_not_lt small),
        Nat.toDigits_of_base_le (by decide) (Nat.le_of_not_lt small')] at same
      obtain ⟨front, last⟩ := List.append_inj' same rfl
      have quotient := ih (m / 16) (by omega) front
      have remainder := digitChar_inj (Nat.mod_lt m (by decide)) (Nat.mod_lt n (by decide))
        (List.singleton_inj.1 last)
      omega

/-- A character that is no digit stands in no number. -/
theorem not_mem_toDigits {c : Char} (other : ∀ k : Fin 16, c ≠ k.val.digitChar) (n : Nat) :
    c ∉ Nat.toDigits 16 n := by
  intro mem
  obtain ⟨k, small, same⟩ := exists_of_mem_toDigits mem
  exact other ⟨k, small⟩ same

/-- Up to the first time that a mark stands in a text, the text can be told. -/
theorem append_mark_inj {mark : Char} {a b s t : List Char} (first : mark ∉ a) (second : mark ∉ b)
    (same : a ++ mark :: s = b ++ mark :: t) : a = b ∧ s = t := by
  induction a generalizing b with
  | nil =>
    cases b with
    | nil => exact ⟨rfl, (List.cons.inj same).2⟩
    | cons c rest => exact absurd (List.cons.inj same).1 (List.ne_of_not_mem_cons second)
  | cons c rest ih =>
    cases b with
    | nil => exact absurd (List.cons.inj same).1.symm (List.ne_of_not_mem_cons first)
    | cons d others =>
      obtain ⟨rfl, behind⟩ := List.cons.inj same
      obtain ⟨rfl, rest⟩ := ih (List.not_mem_of_not_mem_cons first)
        (List.not_mem_of_not_mem_cons second) behind
      exact ⟨rfl, rest⟩

/-- The escape of a code point tells which character it is of. -/
theorem selfDelimiting_codePointEscape : SelfDelimiting codePointEscape := by
  intro c d s t same
  simp only [codePointEscape, List.append_assoc, List.cons_append, List.nil_append,
    List.cons.injEq, true_and] at same
  have noDigit : ∀ k : Fin 16, '}' ≠ k.val.digitChar := by decide
  obtain ⟨digits, rest⟩ :=
    append_mark_inj (not_mem_toDigits noDigit _) (not_mem_toDigits noDigit _) same
  exact ⟨Char.toNat_inj.1 (toDigits_inj digits), rest⟩

/-! ## Characters -/

/-- The characters with an escape of their own, each with the letter that stands behind the
backslash. -/
def namedEscapes : List (Char × Char) :=
  [('\x00', '0'), ('\t', 't'), ('\r', 'r'), ('\n', 'n'), ('\\', '\\'), ('"', '"')]

/-- A character is written by the name of its escape, or as itself, or by its code point. -/
theorem escapeChar_cases (c : Char) :
    (∃ name, (c, name) ∈ namedEscapes ∧ escapeChar c = ['\\', name]) ∨
      ((∀ row ∈ namedEscapes, c ≠ row.1) ∧ escapeChar c = [c]) ∨
      escapeChar c = codePointEscape c := by
  unfold escapeChar
  split
  case h_7 null tab return_ newline slash quote =>
    split
    · have plain : ∀ row ∈ namedEscapes, c ≠ row.1 := by
        simp only [namedEscapes, List.forall_mem_cons]
        exact ⟨null, tab, return_, newline, slash, quote, fun _ mem => nomatch mem⟩
      exact .inr (.inl ⟨plain, rfl⟩)
    · exact .inr (.inr rfl)
  all_goals exact .inl ⟨_, by decide, rfl⟩

/-- The name of an escape tells which character it is of. -/
theorem namedEscapes_inj {c d name : Char} (first : (c, name) ∈ namedEscapes)
    (second : (d, name) ∈ namedEscapes) : c = d := by
  have all : ∀ p ∈ namedEscapes, ∀ q ∈ namedEscapes, p.2 = q.2 → p.1 = q.1 := by decide
  exact all _ first _ second rfl

/-- No escape has the name that stands in front of a code point. -/
theorem ne_u_of_mem_namedEscapes {c name : Char} (mem : (c, name) ∈ namedEscapes) :
    name ≠ 'u' := by
  have all : ∀ p ∈ namedEscapes, p.2 ≠ 'u' := by decide
  exact all _ mem

/-- What begins with another character than a backslash is the form of this character. -/
theorem eq_of_escapeChar_begins {c d : Char} {s t : List Char} (slash : c ≠ '\\')
    (same : c :: s = escapeChar d ++ t) : c = d ∧ s = t := by
  rcases escapeChar_cases d with ⟨name, -, form⟩ | ⟨-, form⟩ | form <;> rw [form] at same
  · exact absurd (List.cons.inj same).1 slash
  · exact List.cons.inj same
  · exact absurd (List.cons.inj same).1 slash

/-- A character inside a quoted text can be told, and so can where its form ends. -/
theorem selfDelimiting_escapeChar : SelfDelimiting escapeChar := by
  intro c d s t same
  have slash : ('\\', '\\') ∈ namedEscapes := by decide
  rcases escapeChar_cases c with ⟨name, mem, form⟩ | ⟨plain, form⟩ | form
  · rcases escapeChar_cases d with ⟨name', mem', form'⟩ | ⟨plain', form'⟩ | form'
    · simp only [form, form', List.cons_append, List.nil_append, List.cons.injEq, true_and] at same
      obtain ⟨rfl, rest⟩ := same
      exact ⟨namedEscapes_inj mem mem', rest⟩
    · rw [form'] at same
      exact (eq_of_escapeChar_begins (plain' _ slash) same.symm).imp Eq.symm Eq.symm
    · simp only [form, form', codePointEscape, List.cons_append, List.cons.injEq] at same
      exact absurd same.2.1 (ne_u_of_mem_namedEscapes mem)
  · rw [form] at same
    exact eq_of_escapeChar_begins (plain _ slash) same
  · rcases escapeChar_cases d with ⟨name', mem', form'⟩ | ⟨plain', form'⟩ | form'
    · simp only [form, form', codePointEscape, List.cons_append, List.cons.injEq] at same
      exact absurd same.2.1.symm (ne_u_of_mem_namedEscapes mem')
    · rw [form'] at same
      exact (eq_of_escapeChar_begins (plain' _ slash) same.symm).imp Eq.symm Eq.symm
    · rw [form, form'] at same
      exact selfDelimiting_codePointEscape c d s t same

/-- No character inside a quoted text begins with a quote. -/
theorem escapeChar_begins (c : Char) :
    ∃ first rest, escapeChar c = first :: rest ∧ first ≠ '"' := by
  rcases escapeChar_cases c with ⟨name, -, form⟩ | ⟨plain, form⟩ | form
  · exact ⟨'\\', [name], form, by decide⟩
  · exact ⟨c, [], form, plain ('"', '"') (by decide)⟩
  · exact ⟨'\\', _, form, by decide⟩

/-- A quoted text says where it ends and what it holds. -/
theorem selfDelimiting_quoteChars : SelfDelimiting quoteChars :=
  (selfDelimiting_escapeChar.upTo escapeChar_begins).labelled ['"']

/-- Quotes and escapes in a text are marked, and end nothing. -/
example : quoteChars ['"', '\\', '"'] = ['"', '\\', '"', '\\', '\\', '\\', '"', '"'] := by
  decide

/-- A line break inside a text is not written as itself. -/
theorem newline_not_mem_escapeChar (c : Char) : '\n' ∉ escapeChar c := by
  rcases escapeChar_cases c with ⟨name, mem, form⟩ | ⟨plain, form⟩ | form <;> rw [form]
  · have names : ∀ row ∈ namedEscapes, '\n' ∉ ['\\', row.2] := by decide
    exact names _ mem
  · have other : c ≠ '\n' := plain ('\n', 'n') (by decide)
    simpa using other.symm
  · have noDigit : ∀ k : Fin 16, '\n' ≠ k.val.digitChar := by decide
    simpa [codePointEscape] using not_mem_toDigits noDigit c.toNat

/-- A quoted text is written on one line. -/
theorem newline_not_mem_quoteChars (text : List Char) : '\n' ∉ quoteChars text := by
  simp [quoteChars, newline_not_mem_escapeChar]

end CommandChains.Text
