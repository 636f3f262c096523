import Mathlib
import CommandChains.Proofs.Activity
import CommandChains.Proofs.Input.Lines
import CommandChains.Proofs.Segments
import CommandChains.Proofs.Text.Utf8

/-!
# Lines of the decoded text

A byte source is cut into lines before anything is decoded, and each line is decoded by itself.
The lines are those of the text nevertheless: bytes that are decoded as a whole and cut behind
every newline then give the same lines (`Text.cutLines_decodeChars`). In particular, lines that
were written one after the other are read as they were written.

Readings that come one after the other give the lines one after the other, and when these have
been given, every reading says that there are no more.
-/

namespace CommandChains

namespace Text

/-! ## Cutting a text -/

/-- A text is cut behind its first newline. -/
theorem cutLines_append_newline {text : List Char} (inside : '\n' ∉ text) (rest : List Char) :
    cutLines (text ++ '\n' :: rest) = (text ++ ['\n']) :: cutLines rest := by
  induction text with
  | nil => simp [cutLines]
  | cons c more ih =>
    rw [List.mem_cons, not_or] at inside
    rw [List.cons_append, cutLines, if_neg (Ne.symm inside.1), ih inside.2]
    rfl

/-- A text without a newline is one line, if there is any text. -/
theorem cutLines_of_notMem {text : List Char} (inside : '\n' ∉ text) (some_ : text ≠ []) :
    cutLines text = [text] := by
  induction text with
  | nil => exact absurd rfl some_
  | cons c more ih =>
    rw [List.mem_cons, not_or] at inside
    rw [cutLines, if_neg (Ne.symm inside.1)]
    cases more with
    | nil => rfl
    | cons next others => rw [ih inside.2 (List.cons_ne_nil _ _)]

/-! ## The end of a line -/

variable {text ending : List Char}

theorem trimLineEnd_isPrefix (text : List Char) : trimLineEnd text <+: text := by
  rw [← List.reverse_suffix, trimLineEnd, List.reverse_reverse]
  exact List.dropWhile_suffix _

/-- What is left of a line does not end with a newline or a carriage return. -/
theorem getLast?_trimLineEnd (text : List Char) :
    ∀ c ∈ (trimLineEnd text).getLast?, isLineEnd c = false := by
  intro c last
  rw [trimLineEnd, List.getLast?_reverse] at last
  have stopped := List.head?_dropWhile_not isLineEnd text.reverse
  rw [Option.mem_def.1 last] at stopped
  exact stopped

/-- Only the end of a line is taken off. -/
theorem trimLineEnd_append (text : List Char) (ends : ∀ c ∈ ending, isLineEnd c = true) :
    trimLineEnd (text ++ ending) = trimLineEnd text := by
  rw [trimLineEnd, List.reverse_append, List.dropWhile_append_of_pos, trimLineEnd]
  exact fun c mem => ends c (List.mem_reverse.1 mem)

theorem trimLineEnd_eq_self (last : ∀ c ∈ text.getLast?, isLineEnd c = false) :
    trimLineEnd text = text := by
  rw [← List.head?_reverse] at last
  have stops : text.reverse.dropWhile isLineEnd = text.reverse := by
    cases reversed : text.reverse with
    | nil => rfl
    | cons c rest =>
      rw [reversed] at last
      rw [List.dropWhile_cons_of_neg]
      simp [last c rfl]
  rw [trimLineEnd, stops, List.reverse_reverse]

/-! ## Cutting before decoding -/

/-- Cutting bytes into lines and decoding each is decoding the bytes and cutting the text. -/
theorem cutLines_decodeChars (bytes : Bytes) :
    cutLines (Utf8.decodeChars bytes) = (cutBytes bytes).map Utf8.decodeChars := by
  induction bytes using segment_induction fun b => b == newlineByte with
  | last bytes plain =>
    have inside : newlineByte ∉ bytes := fun mem => by simpa using plain _ mem
    by_cases some_ : bytes = []
    · subst some_
      rfl
    · rw [cutBytes_of_notMem inside some_, List.map_singleton]
      exact cutLines_of_notMem (Utf8.newline_notMem_decodeChars inside)
        (Utf8.decodeChars_ne_nil some_)
  | cut bytes b rest plain newline ih =>
    have inside : newlineByte ∉ bytes := fun mem => by simpa using plain _ mem
    obtain rfl := eq_of_beq newline
    have closed : Utf8.decodeChars (bytes ++ [newlineByte]) = Utf8.decodeChars bytes ++ ['\n'] :=
      Utf8.decodeChars_append_newline bytes []
    rw [Utf8.decodeChars_append_newline, cutBytes_append_newline inside, List.map_cons, closed,
      cutLines_append_newline (Utf8.newline_notMem_decodeChars inside), ih]

/-- The lines of bytes are what the lines of their text say. -/
theorem map_lineOf_cutBytes (bytes : Bytes) :
    (cutBytes bytes).map lineOf =
      (cutLines (Utf8.decodeChars bytes)).map fun line => String.ofList (trimLineEnd line) := by
  rw [cutLines_decodeChars, List.map_map]
  rfl

/-! ## Lines written one after the other -/

/-- A line that survives being written with a newline behind it. -/
def IsPlainLine (line : String) : Prop :=
  '\n' ∉ line.toList ∧ line.toList.getLast? ≠ some '\r'

instance (line : String) : Decidable (IsPlainLine line) :=
  inferInstanceAs (Decidable (_ ∧ _))

theorem encode_line (line : String) :
    Utf8.encode (line ++ "\n") = Utf8.encode line ++ [newlineByte] :=
  Utf8.encode_append line "\n"

/-- Bytes in which every line is closed by a newline are cut into these lines. -/
theorem cutBytes_of_closed {lines : List String} (inside : ∀ line ∈ lines, '\n' ∉ line.toList) :
    cutBytes (lines.flatMap fun line => Utf8.encode (line ++ "\n")) =
      lines.map fun line => Utf8.encode (line ++ "\n") := by
  induction lines with
  | nil => rfl
  | cons line rest ih =>
    obtain ⟨here, others⟩ := List.forall_mem_cons.1 inside
    have here : newlineByte ∉ Utf8.encode line := Utf8.newlineByte_notMem_encodeChars here
    rw [List.flatMap_cons, List.map_cons, encode_line, List.append_assoc, List.singleton_append,
      cutBytes_append_newline here, ih others]

theorem cutBytes_of_lines {lines : List String} (plain : ∀ line ∈ lines, IsPlainLine line) :
    cutBytes (lines.flatMap fun line => Utf8.encode (line ++ "\n")) =
      lines.map fun line => Utf8.encode (line ++ "\n") :=
  cutBytes_of_closed fun line mem => (plain line mem).1

/-- A plain line does not end with what is taken off a line. -/
theorem isLineEnd_getLast?_of_plain {line : String} (plain : IsPlainLine line) :
    ∀ c ∈ line.toList.getLast?, isLineEnd c = false := by
  intro c last
  have newline : c ≠ '\n' := by
    rintro rfl
    exact plain.1 (List.mem_of_getLast? last)
  have return_ : c ≠ '\r' := by
    rintro rfl
    exact plain.2 last
  simp [isLineEnd, newline, return_]

/-- A line is read as it was written, whatever newlines and carriage returns follow it. -/
theorem lineOf_append_ending {line : String} (plain : IsPlainLine line) {ending : List Char}
    (ends : ∀ c ∈ ending, isLineEnd c = true) :
    lineOf (Utf8.encode (line ++ String.ofList ending)) = line := by
  rw [lineOf, Utf8.encode, Utf8.decodeChars_encodeChars, String.toList_append,
    String.toList_ofList, trimLineEnd_append _ ends,
    trimLineEnd_eq_self (isLineEnd_getLast?_of_plain plain), String.ofList_toList]

theorem map_lineOf_of_plain {lines : List String} (plain : ∀ line ∈ lines, IsPlainLine line) :
    (lines.map fun line => Utf8.encode (line ++ "\n")).map lineOf = lines := by
  rw [List.map_map]
  refine (List.map_congr_left fun line mem => ?_).trans (List.map_id lines)
  exact lineOf_append_ending (plain line mem) (by simp [isLineEnd])

/-- Lines are read as they were written, each with any number of carriage returns and a
newline behind it. -/
theorem map_lineOf_cutBytes_of_written {written : List (String × Nat)}
    (plain : ∀ line ∈ written, IsPlainLine line.1) :
    (cutBytes (written.flatMap fun line =>
      Utf8.encode (line.1 ++ String.ofList (List.replicate line.2 '\r') ++ "\n"))).map lineOf =
        written.map Prod.fst := by
  let full (line : String × Nat) := line.1 ++ String.ofList (List.replicate line.2 '\r')
  have inside : ∀ line ∈ written.map full, '\n' ∉ line.toList := by
    intro _ mem
    obtain ⟨line, of, rfl⟩ := List.mem_map.1 mem
    simp [full, (plain line of).1]
  have cut := cutBytes_of_closed inside
  rw [List.flatMap_map, List.map_map] at cut
  rw [cut, List.map_map]
  refine List.map_congr_left fun line mem => ?_
  have whole : full line ++ "\n" = line.1 ++ String.ofList (List.replicate line.2 '\r' ++ ['\n']) := by
    rw [String.append_assoc, String.ofList_append]
  simp only [Function.comp_apply, whole]
  refine lineOf_append_ending (plain line mem) fun c end_ => ?_
  rcases List.mem_append.1 end_ with return_ | newline
  · rw [List.eq_of_mem_replicate return_]
    rfl
  · rw [List.mem_singleton.1 newline]
    rfl

/-! ## What lines look like -/

/-- A line of a text has a newline at its very end, if at all. -/
theorem of_mem_cutLines {text line : List Char} (mem : line ∈ cutLines text) :
    ∃ inside, '\n' ∉ inside ∧ (line = inside ∨ line = inside ++ ['\n']) := by
  induction text using segment_induction fun c => c == '\n' with
  | last text plain =>
    have inside : '\n' ∉ text := fun mem => by simpa using plain _ mem
    by_cases some_ : text = []
    · subst some_
      cases mem
    · rw [cutLines_of_notMem inside some_, List.mem_singleton] at mem
      exact ⟨text, inside, .inl mem⟩
  | cut text c rest plain newline ih =>
    have inside : '\n' ∉ text := fun mem => by simpa using plain _ mem
    obtain rfl := eq_of_beq newline
    rw [cutLines_append_newline inside, List.mem_cons] at mem
    exact mem.elim (fun first => ⟨text, inside, .inr first⟩) ih

/-- A line that is read has no newline and does not end with a carriage return. -/
theorem isPlainLine_of_mem_cutLines {text line : List Char} (mem : line ∈ cutLines text) :
    IsPlainLine (String.ofList (trimLineEnd line)) := by
  rw [IsPlainLine, String.toList_ofList]
  constructor
  · obtain ⟨inside, newline, rfl | rfl⟩ := of_mem_cutLines mem
    · exact fun mem => newline ((trimLineEnd_isPrefix _).subset mem)
    · rw [trimLineEnd_append _ (by simp [isLineEnd])]
      exact fun mem => newline ((trimLineEnd_isPrefix _).subset mem)
  · intro last
    have := getLast?_trimLineEnd line '\r' last
    cases this

/-! ## One line after the other -/

/-- The first line goes through the first newline. -/
theorem head?_cutBytes (bytes : Bytes) :
    (cutBytes bytes).head? =
      if (throughNewline bytes).isEmpty then none else some (throughNewline bytes) := by
  by_cases some_ : bytes = []
  · subst some_
    rfl
  · rw [cutBytes_of_ne_nil some_, if_neg]
    · rfl
    · rw [List.isEmpty_iff]
      exact throughNewline_ne_nil some_

/-- The other lines are those of what stands behind it. -/
theorem tail_cutBytes (bytes : Bytes) :
    (cutBytes bytes).tail = cutBytes (bytes.drop (throughNewline bytes).length) := by
  by_cases some_ : bytes = []
  · subst some_
    rfl
  · rw [cutBytes_of_ne_nil some_, List.tail_cons]

end Text

namespace Prompted

open Text

/-- Readings that come one after the other give the lines of the bytes, and then say that there
are no more. Behind each reading the lines that it has not come to are unread. -/
theorem readings_of_steady (prompts : List String) {sink : Sink} {input : ByteSource}
    (unfailing : sink.Unfailing) (steady : input.Steady) {i : Nat}
    {r : Run (Sink × ByteSource) SessionError (Option String)}
    (reading : (Activity.series next prompts (sink, input))[i]? = some r) :
    r.result = .ok ((cutBytes input.unread)[i]?.map lineOf) ∧
      r.state.2.unread = ((cutBytes input.unread).drop (i + 1)).flatten := by
  -- The induction is on the prompts, for any sink and source that go well.
  induction prompts generalizing sink input i with
  | nil => cases reading
  | cons prompt rest ih =>
    obtain ⟨after, j, still, _, _, told⟩ := next_of_steady unfailing steady prompt
    have within_ := (throughNewline_isPrefix input.unread).length_le
    rw [Activity.series, told] at reading
    cases i with
    | zero =>
      obtain rfl := Option.some.inj reading
      rw [← List.head?_eq_getElem?, head?_cutBytes]
      refine ⟨?_, ?_⟩
      · dsimp only
        split <;> rfl
      · rw [List.drop_one, tail_cutBytes, flatten_cutBytes]
        rfl
    | succ i =>
      obtain ⟨result, unread⟩ := ih still (steady.advance within_) reading
      have others : cutBytes (input.advance (throughNewline input.unread).length).unread =
          (cutBytes input.unread).tail := (tail_cutBytes _).symm
      rw [others] at result unread
      rw [List.getElem?_tail] at result
      rw [List.drop_tail] at unread
      exact ⟨result, unread⟩

/-- The lines that are read are the lines of the text. Take a sink that never fails and a source
that hands out all its bytes, in any pieces. Let the lines of the text be what remains if the
bytes are decoded as a whole, the text is cut behind every newline, and all newlines and
carriage returns are taken off the end of each piece. Readings, with any prompts, give these
lines one after the other. When all have been given, every byte has been read, and every
further reading says that there are no more. No line that is read has a newline in it or ends
with a carriage return. And lines that are like this are read as they were written, each with
any number of carriage returns and a newline behind it. -/
theorem readings_eq_lines_of_text (sink : Sink) (input : ByteSource) (prompts : List String)
    (unfailing : sink.Unfailing) (steady : input.Steady) :
    let lines := (cutLines (Utf8.decodeChars input.unread)).map fun line =>
      String.ofList (trimLineEnd line)
    let readings := Activity.series next prompts (sink, input)
    readings.map (fun r => r.result) =
      (List.range prompts.length).map (fun i => .ok lines[i]?) ∧
    (∀ i r, readings[i]? = some r → lines.length ≤ i + 1 → r.state.2.unread = []) ∧
    (∀ line ∈ lines, '\n' ∉ line.toList ∧ line.toList.getLast? ≠ some '\r') ∧
    ∀ written : List (String × Nat),
      (∀ line ∈ written, '\n' ∉ line.1.toList ∧ line.1.toList.getLast? ≠ some '\r') →
      (input.unread = written.flatMap fun line =>
        Utf8.encode (line.1 ++ String.ofList (List.replicate line.2 '\r') ++ "\n")) →
      lines = written.map Prod.fst := by
  intro lines readings
  have cut : (cutBytes input.unread).map lineOf = lines := map_lineOf_cutBytes input.unread
  have size : readings.length = prompts.length := Activity.length_series ..
  have reads {i : Nat} {r} (reading : readings[i]? = some r) :=
    readings_of_steady prompts unfailing steady reading
  refine ⟨?_, fun i r reading all => ?_, ?_, fun written plain text => ?_⟩
  · refine List.ext_getElem (by simp [size]) fun i inside _ => ?_
    have inside : i < readings.length := by simpa using inside
    rw [List.getElem_map, List.getElem_map, List.getElem_range,
      (reads (List.getElem?_eq_getElem inside)).1, ← cut, List.getElem?_map]
  · rw [← cut, List.length_map] at all
    rw [(reads reading).2, List.drop_of_length_le all]
    rfl
  · intro line mem
    obtain ⟨piece, of, rfl⟩ := List.mem_map.1 mem
    exact isPlainLine_of_mem_cutLines of
  · rw [← cut, text]
    exact map_lineOf_cutBytes_of_written plain

/-- A sequence that breaks off at a newline, a line of carriage returns alone and a last line
without a newline, handed out one byte at a time; and two lines that are read as they were
written. -/
theorem readings_of_broken_text :
    let bytes : Bytes := [0x61, 0xE2, 0x82, 0x0A, 0x0D, 0x0D, 0x0A, 0x62, 0x0D, 0x63]
    let input : ByteSource := { unread := bytes, chunk := some 1 }
    let readings := Activity.series next ["> ", "> ", "> ", "> ", "> "] (.boundless, input)
    let written := [("é\rè", 2), ("", 0)]
    let again : ByteSource := { unread := Utf8.encode "é\rè\r\r\n\n" }
    Sink.boundless.Unfailing ∧ input.Steady ∧ again.Steady ∧
      (∀ line ∈ written, '\n' ∉ line.1.toList ∧ line.1.toList.getLast? ≠ some '\r') ∧
      readings.map (fun r => r.result) =
        [.ok (some "a\uFFFD"), .ok (some ""), .ok (some "b\rc"), .ok none, .ok none] ∧
      (∀ r, readings[2]? = some r → r.state.2.unread = []) ∧
      (cutLines (Utf8.decodeChars again.unread)).map (fun line => String.ofList (trimLineEnd line)) =
        ["é\rè", ""] := by
  intro bytes input readings written again
  have unfailing := Sink.unfailing_boundless
  have steady : input.Steady := ⟨by decide, fun _ no => nomatch no⟩
  have steady' : again.Steady := ⟨by decide, fun _ no => nomatch no⟩
  have plain : ∀ line ∈ written, '\n' ∉ line.1.toList ∧ line.1.toList.getLast? ≠ some '\r' := by
    decide
  obtain ⟨results, unread, _, _⟩ :=
    readings_eq_lines_of_text .boundless input ["> ", "> ", "> ", "> ", "> "] unfailing steady
  obtain ⟨_, _, _, back⟩ := readings_eq_lines_of_text .boundless again [] unfailing steady'
  exact ⟨unfailing, steady, steady', plain, results.trans (by cbv),
    fun r reading => unread 2 r reading (by cbv), back written plain (by cbv)⟩

end Prompted

end CommandChains
