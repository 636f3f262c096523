import CommandChains.Text.Lines

/-!
# Decoding

The decoder takes a byte at a time. The bytes of one character take it from between two
characters to between two characters again, and on the way it finds that character and
nothing else (`Utf8.unitsFrom_encodeChar`). So the bytes of a text are well-formed, and both
readings of them give the text.

The bytes of a character other than a newline are no newlines. Hence a text has a newline
just where its bytes have one. This is so for ill-formed bytes too: the byte that ends a line
ends every sequence that has been begun and is read as a newline, and nothing else is read as
one. So the reading of bytes with a newline among them is the reading of the bytes before it, a
newline, and the reading of the bytes behind it (`Utf8.decodeChars_append_newline`).
-/

namespace CommandChains.Text.Utf8

/-! ## Single bytes -/

theorem step_none (b : UInt8) : step none b = start b := rfl

theorem toNat_ofNat_of_lt {n : Nat} (byte : n < 0x100) : (UInt8.ofNat n).toNat = n := by
  rw [UInt8.toNat_ofNat']
  exact Nat.mod_eq_of_lt byte

/-- The last byte of a sequence gives its character. -/
theorem step_last (value tail low high : Nat) (above : low ≤ 0x80 + tail)
    (below : 0x80 + tail ≤ high) (byte : tail < 0x40) :
    step (some ⟨value, 0, low, high⟩) (UInt8.ofNat (0x80 + tail)) =
      ⟨[some (Char.ofNat (value * 0x40 + tail))], none⟩ := by
  have number : (UInt8.ofNat (0x80 + tail)).toNat = 0x80 + tail := toNat_ofNat_of_lt (by omega)
  rw [step, number, if_pos ⟨above, below⟩, Nat.add_sub_cancel_left]

/-- Any other byte behind the first is kept for later. -/
theorem step_more (value owed tail low high : Nat) (above : low ≤ 0x80 + tail)
    (below : 0x80 + tail ≤ high) (byte : tail < 0x40) :
    step (some ⟨value, owed + 1, low, high⟩) (UInt8.ofNat (0x80 + tail)) =
      ⟨[], some ⟨value * 0x40 + tail, owed, 0x80, 0xBF⟩⟩ := by
  have number : (UInt8.ofNat (0x80 + tail)).toNat = 0x80 + tail := toNat_ofNat_of_lt (by omega)
  rw [step, number, if_pos ⟨above, below⟩, Nat.add_sub_cancel_left]

theorem start_one {n : Nat} (ascii : n < 0x80) :
    start (UInt8.ofNat n) = ⟨[some (Char.ofNat n)], none⟩ := by
  have number : (UInt8.ofNat n).toNat = n := toNat_ofNat_of_lt (by omega)
  simp only [start, number, if_pos ascii]

theorem start_two (lead : Nat) (long : 2 ≤ lead) (short : lead < 0x20) :
    start (UInt8.ofNat (0xC0 + lead)) = ⟨[], some ⟨lead, 0, 0x80, 0xBF⟩⟩ := by
  have number : (UInt8.ofNat (0xC0 + lead)).toNat = 0xC0 + lead := toNat_ofNat_of_lt (by omega)
  simp only [start, number]
  rw [if_neg (by omega), if_neg (by omega), if_pos (by omega), Nat.add_sub_cancel_left]

/-- A sequence of three bytes, whose second byte leaves out overlong forms and
surrogates. -/
theorem start_three (lead tail : Nat) (short : lead < 0x10) (overlong : lead = 0 → 0x20 ≤ tail)
    (surrogate : lead = 0xD → tail < 0x20) (byte : tail < 0x40) :
    ∃ low high, start (UInt8.ofNat (0xE0 + lead)) = ⟨[], some ⟨lead, 1, low, high⟩⟩ ∧
      low ≤ 0x80 + tail ∧ 0x80 + tail ≤ high := by
  have number : (UInt8.ofNat (0xE0 + lead)).toNat = 0xE0 + lead := toNat_ofNat_of_lt (by omega)
  simp only [start, number]
  rw [if_neg (by omega), if_neg (by omega), if_neg (by omega)]
  by_cases zero : lead = 0
  · subst zero
    have := overlong rfl
    exact ⟨_, _, by rw [if_pos (by omega)], by omega, by omega⟩
  rw [if_neg (by omega)]
  by_cases thirteen : lead = 0xD
  · subst thirteen
    have := surrogate rfl
    exact ⟨_, _, by rw [if_pos (by omega)], by omega, by omega⟩
  · rw [if_neg (by omega), if_pos (by omega), Nat.add_sub_cancel_left]
    exact ⟨_, _, rfl, by omega, by omega⟩

/-- A sequence of four bytes, whose second byte leaves out overlong forms and everything
above the last character. -/
theorem start_four (lead tail : Nat) (short : lead < 5) (overlong : lead = 0 → 0x10 ≤ tail)
    (last : lead = 4 → tail < 0x10) (byte : tail < 0x40) :
    ∃ low high, start (UInt8.ofNat (0xF0 + lead)) = ⟨[], some ⟨lead, 2, low, high⟩⟩ ∧
      low ≤ 0x80 + tail ∧ 0x80 + tail ≤ high := by
  have number : (UInt8.ofNat (0xF0 + lead)).toNat = 0xF0 + lead := toNat_ofNat_of_lt (by omega)
  simp only [start, number]
  rw [if_neg (by omega), if_neg (by omega), if_neg (by omega), if_neg (by omega),
    if_neg (by omega), if_neg (by omega)]
  by_cases zero : lead = 0
  · subst zero
    have := overlong rfl
    exact ⟨_, _, by rw [if_pos (by omega)], by omega, by omega⟩
  rw [if_neg (by omega)]
  by_cases four : lead = 4
  · subst four
    have := last rfl
    exact ⟨_, _, by rw [if_neg (by omega), if_pos (by omega)], by omega, by omega⟩
  · rw [if_pos (by omega), Nat.add_sub_cancel_left]
    exact ⟨_, _, rfl, by omega, by omega⟩

/-! ## Characters and texts -/

/-- The numbers of characters leave out the surrogates. -/
theorem toNat_valid (c : Char) :
    c.toNat < 0xD800 ∨ 0xDFFF < c.toNat ∧ c.toNat < 0x110000 :=
  c.valid

/-- The bytes of a character are read as that character, whatever follows them. -/
theorem unitsFrom_encodeChar (c : Char) (rest : Bytes) :
    unitsFrom none (encodeChar c ++ rest) = some c :: unitsFrom none rest := by
  have valid := toNat_valid c
  have again : Char.ofNat c.toNat = c := Char.ofNat_toNat c
  unfold encodeChar
  generalize c.toNat = n at valid again
  -- One case for each length. The parts of the number are put together again at the end.
  dsimp only
  split
  · next one =>
    simp only [List.cons_append, List.nil_append, unitsFrom_cons, step_none, start_one one, again]
  split
  · next two =>
    have started := start_two (n / 0x40) (by omega) (by omega)
    have ended := step_last (n / 0x40) (n % 0x40) 0x80 0xBF (by omega) (by omega) (by omega)
    have number : n / 0x40 * 0x40 + n % 0x40 = n := by omega
    simp only [List.cons_append, List.nil_append, unitsFrom_cons, step_none, started, ended,
      number, again]
  split
  · next three =>
    obtain ⟨low, high, started, above, below⟩ :=
      start_three (n / 0x1000) (n / 0x40 % 0x40) (by omega) (by omega) (by omega) (by omega)
    have went := step_more (n / 0x1000) 0 _ low high above below (by omega)
    have ended := step_last (n / 0x1000 * 0x40 + n / 0x40 % 0x40) (n % 0x40) 0x80 0xBF
      (by omega) (by omega) (by omega)
    have number : (n / 0x1000 * 0x40 + n / 0x40 % 0x40) * 0x40 + n % 0x40 = n := by omega
    simp only [List.cons_append, List.nil_append, unitsFrom_cons, step_none, started, went, ended,
      number, again]
  · next four =>
    obtain ⟨low, high, started, above, below⟩ :=
      start_four (n / 0x40000) (n / 0x1000 % 0x40) (by omega) (by omega) (by omega) (by omega)
    have went := step_more (n / 0x40000) 1 _ low high above below (by omega)
    have onward := step_more (n / 0x40000 * 0x40 + n / 0x1000 % 0x40) 0 (n / 0x40 % 0x40) 0x80 0xBF
      (by omega) (by omega) (by omega)
    have ended := step_last
      ((n / 0x40000 * 0x40 + n / 0x1000 % 0x40) * 0x40 + n / 0x40 % 0x40) (n % 0x40) 0x80 0xBF
      (by omega) (by omega) (by omega)
    have number : ((n / 0x40000 * 0x40 + n / 0x1000 % 0x40) * 0x40 + n / 0x40 % 0x40) * 0x40 +
        n % 0x40 = n := by omega
    simp only [List.cons_append, List.nil_append, unitsFrom_cons, step_none, started, went, onward,
      ended, number, again]

/-- The bytes of a text are well-formed, and say the text. -/
theorem units_encodeChars (text : List Char) : units (encodeChars text) = text.map some := by
  induction text with
  | nil => rfl
  | cons c rest ih => rw [encodeChars_cons, units, unitsFrom_encodeChar, List.map_cons, ← ih, units]

/-- The bytes of a text are read back as the text. -/
theorem decodeChars_encodeChars (text : List Char) : decodeChars (encodeChars text) = text := by
  rw [decodeChars, units_encodeChars, List.map_map]
  exact List.map_id text

/-! ## Newlines that are written -/

/-- A byte of a character is its number, or one that begins or goes on with a sequence. -/
theorem of_mem_encodeChar {c : Char} {b : UInt8} (mem : b ∈ encodeChar c) :
    b.toNat = c.toNat ∨ 0x80 ≤ b.toNat := by
  have valid := toNat_valid c
  unfold encodeChar at mem
  generalize c.toNat = n at mem valid
  dsimp only at mem
  split at mem
  · rw [List.mem_singleton.1 mem]
    exact .inl (toNat_ofNat_of_lt (by omega))
  right
  -- What is left are sequences of two, three and four bytes.
  split at mem
  · simp only [List.mem_cons, List.not_mem_nil, or_false] at mem
    rcases mem with rfl | rfl <;> rw [toNat_ofNat_of_lt (by omega)] <;> omega
  split at mem
  · simp only [List.mem_cons, List.not_mem_nil, or_false] at mem
    rcases mem with rfl | rfl | rfl <;> rw [toNat_ofNat_of_lt (by omega)] <;> omega
  · simp only [List.mem_cons, List.not_mem_nil, or_false] at mem
    rcases mem with rfl | rfl | rfl | rfl <;> rw [toNat_ofNat_of_lt (by omega)] <;> omega

/-- Only newlines are written with the byte that ends a line. -/
theorem newlineByte_notMem_encodeChars {text : List Char} (inside : '\n' ∉ text) :
    newlineByte ∉ encodeChars text := by
  intro mem
  obtain ⟨c, some_, byte⟩ := List.mem_flatMap.1 mem
  rcases of_mem_encodeChar byte with same | beyond
  · have newline : c = '\n' := Char.toNat_inj.1 same.symm
    exact inside (newline ▸ some_)
  · exact absurd beyond (by decide)

/-! ## Sequences that have been begun -/

/-- A sequence that can only say a character with no shorter form. It goes on with bytes that
are no characters by themselves, and whatever they are, the character is beyond those that
are written as a single byte. -/
structure Begun.Long (p : Begun) : Prop where
  low : 0x80 ≤ p.low
  /-- The number that the next byte makes is so large that one more byte makes it too large for
  a single byte. -/
  value : 2 ≤ p.value * 0x40 + (p.low - 0x80)
  last : p.owed = 0 → 0x80 ≤ p.value * 0x40 + (p.low - 0x80)

variable {begun : Option Begun}

/-- A byte between two characters is one itself, is ill-formed, or begins a sequence. -/
theorem start_cases (b : UInt8) :
    start b = ⟨[some (Char.ofNat b.toNat)], none⟩ ∨ start b = ⟨[none], none⟩ ∨
      ∃ p : Begun, p.Long ∧ start b = ⟨[], some p⟩ := by
  by_cases single : b.toNat < 0x80
  · exact .inl (if_pos single)
  right
  have others : ∃ step, start b = step ∧
      (step = ⟨[none], none⟩ ∨ ∃ p : Begun, p.Long ∧ step = ⟨[], some p⟩) := by
    refine ⟨_, if_neg single, ?_⟩
    generalize b.toNat = n
    -- One case for each class of first bytes. Where the number that the first byte gives is zero,
    -- the bound on the second byte makes up for it.
    split
    · exact .inl rfl
    iterate 7
      split
      · exact .inr ⟨_, ⟨by dsimp only; omega, by dsimp only; omega, by dsimp only; omega⟩, rfl⟩
    exact .inl rfl
  obtain ⟨step, same, either⟩ := others
  rwa [same]

theorem long_start (b : UInt8) : ∀ p ∈ (start b).begun, p.Long := by
  intro p mem
  rcases start_cases b with started | started | ⟨q, long, started⟩ <;> rw [started] at mem
  · cases mem
  · cases mem
  · cases mem
    exact long

theorem long_step (long : ∀ p ∈ begun, p.Long) (b : UInt8) :
    ∀ p ∈ (step begun b).begun, p.Long := by
  cases begun with
  | none => exact long_start b
  | some p =>
    have value := (long p rfl).value
    obtain ⟨number, owed, least, most⟩ := p
    dsimp only at value
    simp only [step]
    split
    · next inside =>
      cases owed with
      | zero => exact fun q mem => nomatch mem
      | succ owed =>
        intro q mem
        simp only [Option.mem_def, Option.some.injEq] at mem
        subst mem
        constructor <;> dsimp only <;> omega
    · exact long_start b

/-! ## Newlines that are read -/

theorem ofNat_eq_newline {n : Nat} (h : Char.ofNat n = '\n') : n = 0x0A := by
  by_cases valid : n.isValidChar
  · have said : Char.ofNatAux n valid = '\n' := (dif_pos valid).symm.trans h
    exact congrArg Char.toNat said
  · have said : Char.ofNat 0 = '\n' := (dif_neg valid).symm.trans h
    cases said

theorem newline_of_mem_start {b : UInt8} (mem : some '\n' ∈ (start b).units) :
    b = newlineByte := by
  rcases start_cases b with started | started | ⟨p, _, started⟩ <;> rw [started] at mem
  · have said : Char.ofNat b.toNat = '\n' := by simpa [eq_comm] using mem
    exact UInt8.toNat_inj.1 (ofNat_eq_newline said)
  · simp at mem
  · cases mem

/-- Only the byte that ends a line is read as a newline. -/
theorem newline_of_mem_step (long : ∀ p ∈ begun, p.Long) {b : UInt8}
    (mem : some '\n' ∈ (step begun b).units) : b = newlineByte := by
  cases begun with
  | none => exact newline_of_mem_start mem
  | some p =>
    have last := (long p rfl).last
    obtain ⟨number, owed, least, most⟩ := p
    dsimp only at last
    simp only [step] at mem
    split at mem
    · next inside =>
      cases owed with
      | zero =>
        have said : Char.ofNat (number * 0x40 + (b.toNat - 0x80)) = '\n' := by
          simpa [eq_comm] using mem
        have ten := ofNat_eq_newline said
        have large := last rfl
        omega
      | succ owed => cases mem
    · exact newline_of_mem_start (by simpa using mem)

theorem newline_of_mem_unitsFrom (long : ∀ p ∈ begun, p.Long) {bytes : Bytes}
    (mem : some '\n' ∈ unitsFrom begun bytes) : newlineByte ∈ bytes := by
  induction bytes generalizing begun with
  | nil => cases begun <;> simp at mem
  | cons b rest ih =>
    rw [unitsFrom_cons, List.mem_append] at mem
    rcases mem with here | later
    · rw [newline_of_mem_step long here]
      exact List.mem_cons_self
    · exact List.mem_cons_of_mem b (ih (long_step long b) later)

/-- The byte that ends a line ends a sequence that has been begun, which is ill-formed then. -/
theorem step_newline (long : ∀ p ∈ begun, p.Long) :
    step begun newlineByte = ⟨unitsFrom begun [] ++ [some '\n'], none⟩ := by
  cases begun with
  | none => rfl
  | some p =>
    have low := (long p rfl).low
    have ten : newlineByte.toNat = 0x0A := rfl
    rw [step, if_neg (by omega), unitsFrom_some_nil]
    rfl

/-- What stands behind a newline is read as if nothing stood before it. -/
theorem unitsFrom_append_newline (long : ∀ p ∈ begun, p.Long) (bytes rest : Bytes) :
    unitsFrom begun (bytes ++ newlineByte :: rest) =
      unitsFrom begun bytes ++ some '\n' :: unitsFrom none rest := by
  induction bytes generalizing begun with
  | nil => rw [List.nil_append, unitsFrom_cons, step_newline long, List.append_assoc]; rfl
  | cons b more ih =>
    rw [List.cons_append, unitsFrom_cons, unitsFrom_cons, ih (long_step long b), List.append_assoc]

theorem no_begun_long : ∀ p ∈ (none : Option Begun), p.Long :=
  fun _ mem => nomatch mem

/-- Decoding bytes with a newline among them is decoding what stands before it and what stands
behind it. -/
theorem decodeChars_append_newline (bytes rest : Bytes) :
    decodeChars (bytes ++ newlineByte :: rest) = decodeChars bytes ++ '\n' :: decodeChars rest := by
  rw [decodeChars, units, unitsFrom_append_newline no_begun_long, List.map_append, List.map_cons]
  rfl

/-- Bytes without a newline are read as a text without one. -/
theorem newline_notMem_decodeChars {bytes : Bytes} (inside : newlineByte ∉ bytes) :
    '\n' ∉ decodeChars bytes := by
  intro mem
  obtain ⟨unit, found, said⟩ := List.mem_map.1 mem
  cases unit with
  | none => cases said
  | some c =>
    obtain rfl : c = '\n' := said
    exact inside (newline_of_mem_unitsFrom no_begun_long found)

/-! ## Nothing is passed over -/

theorem unitsFrom_some_ne_nil (p : Begun) (bytes : Bytes) : unitsFrom (some p) bytes ≠ [] := by
  induction bytes generalizing p with
  | nil => simp
  | cons b rest ih =>
    rw [unitsFrom_cons]
    simp only [step]
    split
    · split
      · simp
      · exact ih _
    · simp

theorem decodeChars_ne_nil {bytes : Bytes} (some_ : bytes ≠ []) : decodeChars bytes ≠ [] := by
  obtain ⟨b, rest, rfl⟩ := List.exists_cons_of_ne_nil some_
  rw [decodeChars, Ne, List.map_eq_nil_iff, units, unitsFrom_cons, step_none]
  rcases start_cases b with started | started | ⟨p, _, started⟩ <;> rw [started]
  · exact List.cons_ne_nil _ _
  · exact List.cons_ne_nil _ _
  · exact unitsFrom_some_ne_nil p rest

end CommandChains.Text.Utf8
