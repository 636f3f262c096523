import CommandChains.Proofs.Segments
import CommandChains.Text.Words

/-!
# How words lie on a line

Words lie on a line with white space between any two of them, and there may be white space in
front of the first and behind the last. A `Text.Layout` is such an arrangement. Every line has
a layout (`Text.exists_layout`), and the words of a line are the words of any layout that it
has (`Text.wordsOf_line`). So a line determines its words, whatever its white space is.

Everything about words follows from two equations: white space in front of a text does not
count, and a word that is followed by white space is the first word.
-/

namespace CommandChains.Text

/-! ## White space and words -/

/-- Nothing but white space. -/
def IsBlank (text : List Char) : Prop :=
  ∀ c ∈ text, isWhiteSpace c = true

/-- Some characters, none of which is white space. -/
structure IsWord (word : String) : Prop where
  nonempty : word ≠ ""
  plain : ∀ c ∈ word.toList, isWhiteSpace c = false

theorem IsWord.toList_ne_nil {word : String} (h : IsWord word) : word.toList ≠ [] := by
  simpa using h.nonempty

theorem isWord_ofList {chars : List Char} (some_ : chars ≠ [])
    (plain : ∀ c ∈ chars, isWhiteSpace c = false) : IsWord (String.ofList chars) :=
  ⟨by simpa using some_, by simpa using plain⟩

/-- The code points with the Unicode property White_Space, one by one. -/
def whiteSpaceCodes : List Nat :=
  [0x09, 0x0A, 0x0B, 0x0C, 0x0D, 0x20, 0x85, 0xA0, 0x1680, 0x2000, 0x2001, 0x2002, 0x2003, 0x2004,
    0x2005, 0x2006, 0x2007, 0x2008, 0x2009, 0x200A, 0x2028, 0x2029, 0x202F, 0x205F, 0x3000]

theorem isWhiteSpace_iff (c : Char) : isWhiteSpace c = true ↔ c.toNat ∈ whiteSpaceCodes := by
  rw [isWhiteSpace, CodeRanges.contains_iff]
  simp only [whiteSpace, whiteSpaceCodes, List.mem_cons, List.not_mem_nil, or_false,
    exists_eq_or_imp, exists_eq_left]
  omega

/-! ## Cutting a text -/

variable {word text : List Char}

theorem words_blank_append {gap : List Char} (blank : IsBlank gap) (text : List Char) :
    words (gap ++ text) = words text := by
  induction gap with
  | nil => rfl
  | cons c rest ih =>
    obtain ⟨here, others⟩ := List.forall_mem_cons.1 blank
    rw [List.cons_append, words_cons_space _ here, ih others]

theorem words_of_blank (blank : IsBlank text) : words text = [] := by
  have none_ := words_blank_append blank []
  rwa [List.append_nil] at none_

/-- Characters that are not white space belong to the first piece of what they stand in. -/
theorem pieces_append (plain : ∀ c ∈ word, isWhiteSpace c = false) (text : List Char) :
    ∃ piece others, pieces text = piece :: others ∧
      pieces (word ++ text) = (word ++ piece) :: others := by
  obtain ⟨piece, others, cut⟩ := List.exists_cons_of_ne_nil (pieces_ne_nil text)
  refine ⟨piece, others, cut, ?_⟩
  induction word with
  | nil => exact cut
  | cons c rest ih =>
    obtain ⟨here, later⟩ := List.forall_mem_cons.1 plain
    rw [List.cons_append, pieces, ih later, here]
    rfl

section

variable (some_ : word ≠ []) (plain : ∀ c ∈ word, isWhiteSpace c = false)

include some_ plain

/-- A word that white space follows is the first word. -/
theorem words_append_space {c : Char} (space : isWhiteSpace c = true) (rest : List Char) :
    words (word ++ c :: rest) = word :: words rest := by
  obtain ⟨piece, others, cut, whole⟩ := pieces_append plain (c :: rest)
  rw [pieces, if_pos space] at cut
  obtain ⟨rfl, rfl⟩ := List.cons.inj cut
  rw [words, whole, List.append_nil, List.filter_cons_of_pos (by simpa using some_)]
  rfl

theorem words_of_word : words word = [word] := by
  obtain ⟨piece, others, cut, whole⟩ := pieces_append plain []
  obtain ⟨rfl, rfl⟩ := List.cons.inj cut
  rw [List.append_nil] at whole
  rw [words, whole, List.filter_cons_of_pos (by simpa using some_)]
  rfl

end

theorem flatten_pieces (text : List Char) :
    (pieces text).flatten = text.filter fun c => !isWhiteSpace c := by
  induction text with
  | nil => rfl
  | cons c rest ih =>
    rw [pieces]
    split
    · next space => simp [space, ih]
    · next plain =>
      obtain ⟨piece, others, cut⟩ := List.exists_cons_of_ne_nil (pieces_ne_nil rest)
      rw [cut] at ih ⊢
      simp [plain, ← ih]

/-- The words of a text have all its characters but the white space. -/
theorem flatten_words (text : List Char) :
    (words text).flatten = text.filter fun c => !isWhiteSpace c :=
  List.flatten_filter_not_isEmpty.trans (flatten_pieces text)

/-! ## Layouts -/

structure Layout where
  front : List Char
  /-- The words, each with what stands behind it. -/
  items : List (String × List Char)
  front_blank : IsBlank front
  word : ∀ item ∈ items, IsWord item.1
  blank : ∀ item ∈ items, IsBlank item.2
  /-- Something stands between any two words. -/
  apart : ∀ item ∈ items.dropLast, item.2 ≠ []

namespace Layout

/-- The characters of some words with what stands behind each. -/
def charsOf (items : List (String × List Char)) : List Char :=
  items.flatMap fun item => item.1.toList ++ item.2

@[simp] theorem charsOf_nil : charsOf [] = [] := rfl

@[simp] theorem charsOf_cons (item : String × List Char) (rest : List (String × List Char)) :
    charsOf (item :: rest) = item.1.toList ++ item.2 ++ charsOf rest :=
  List.flatMap_cons

def chars (l : Layout) : List Char :=
  l.front ++ charsOf l.items

def line (l : Layout) : String :=
  String.ofList l.chars

def words (l : Layout) : List String :=
  l.items.map Prod.fst

end Layout

/-- Words that are set apart by white space are the words of the text. -/
theorem words_charsOf {items : List (String × List Char)} (word : ∀ item ∈ items, IsWord item.1)
    (blank : ∀ item ∈ items, IsBlank item.2) (apart : ∀ item ∈ items.dropLast, item.2 ≠ []) :
    words (Layout.charsOf items) = items.map fun item => item.1.toList := by
  induction items with
  | nil => rfl
  | cons item rest ih =>
    obtain ⟨first, gap⟩ := item
    obtain ⟨here, others⟩ := List.forall_mem_cons.1 word
    obtain ⟨gapBlank, blanks⟩ := List.forall_mem_cons.1 blank
    cases rest with
    | nil =>
      rw [Layout.charsOf_cons, Layout.charsOf_nil, List.append_nil]
      cases gap with
      | nil => rw [List.append_nil, words_of_word here.toList_ne_nil here.plain]; rfl
      | cons c gap =>
        obtain ⟨space, gapBlank⟩ := List.forall_mem_cons.1 gapBlank
        rw [words_append_space here.toList_ne_nil here.plain space, words_of_blank gapBlank]
        rfl
    | cons next more =>
      obtain ⟨some_, laterApart⟩ := List.forall_mem_cons.1 apart
      obtain ⟨c, gap, rfl⟩ := List.exists_cons_of_ne_nil some_
      obtain ⟨space, gapBlank⟩ := List.forall_mem_cons.1 gapBlank
      rw [Layout.charsOf_cons, List.append_assoc, List.cons_append,
        words_append_space here.toList_ne_nil here.plain space, words_blank_append gapBlank,
        ih others blanks laterApart]
      rfl

/-- The words of a line are those that are laid out on it. -/
theorem wordsOf_line (l : Layout) : wordsOf l.line = l.words := by
  rw [wordsOf, Layout.line, String.toList_ofList, Layout.chars, words_blank_append l.front_blank,
    words_charsOf l.word l.blank l.apart, List.map_map, Layout.words]
  exact List.map_congr_left fun item _ => String.ofList_toList

/-- The layout of a line with a word in front of it, set apart from what stands there. -/
def Layout.cons (word : String) (gap : List Char) (l : Layout) (isWord : IsWord word)
    (blank : IsBlank gap) (some_ : gap ≠ []) : Layout where
  front := []
  items := (word, gap) :: l.items
  front_blank := by simp [IsBlank]
  word := List.forall_mem_cons.2 ⟨isWord, l.word⟩
  blank := List.forall_mem_cons.2 ⟨blank, l.blank⟩
  apart := by
    have apart := l.apart
    cases items : l.items with
    | nil => simp
    | cons next more =>
      rw [items] at apart
      exact List.forall_mem_cons.2 ⟨some_, apart⟩

/-- In every text words are laid out. -/
theorem exists_layout_chars (text : List Char) : ∃ l : Layout, l.chars = text := by
  induction text using segment_induction isWhiteSpace with
  | last segment plain =>
    by_cases some_ : segment = []
    · subst some_
      exact ⟨⟨[], [], by simp [IsBlank], by simp, by simp, by simp⟩, rfl⟩
    · have word := isWord_ofList some_ plain
      refine ⟨⟨[], [(String.ofList segment, [])], by simp [IsBlank], by simpa using word,
        by simp [IsBlank], by simp⟩, ?_⟩
      simp [Layout.chars]
  | cut segment c rest plain space ih =>
    obtain ⟨l, rfl⟩ := ih
    have gap : IsBlank (c :: l.front) := List.forall_mem_cons.2 ⟨space, l.front_blank⟩
    by_cases some_ : segment = []
    · subst some_
      exact ⟨⟨c :: l.front, l.items, gap, l.word, l.blank, l.apart⟩, rfl⟩
    · have word := isWord_ofList some_ plain
      refine ⟨l.cons (String.ofList segment) (c :: l.front) word gap (List.cons_ne_nil _ _), ?_⟩
      simp [Layout.chars, Layout.cons]

theorem exists_layout (line : String) : ∃ l : Layout, l.line = line := by
  obtain ⟨l, chars⟩ := exists_layout_chars line.toList
  exact ⟨l, by rw [Layout.line, chars, String.ofList_toList]⟩

/-! ## Words of a line -/

theorem isWord_of_mem_wordsOf {line word : String} (mem : word ∈ wordsOf line) : IsWord word := by
  obtain ⟨l, rfl⟩ := exists_layout line
  rw [wordsOf_line] at mem
  obtain ⟨item, of, rfl⟩ := List.mem_map.1 mem
  exact l.word item of

/-- Words with a single space between any two of them are the words of what they make up. -/
theorem wordsOf_intercalate {words : List String} (isWord : ∀ word ∈ words, IsWord word) :
    wordsOf (" ".intercalate words) = words := by
  induction words with
  | nil => rfl
  | cons word rest ih =>
    obtain ⟨here, others⟩ := List.forall_mem_cons.1 isWord
    have space : isWhiteSpace ' ' = true := by decide
    cases rest with
    | nil =>
      rw [String.intercalate_singleton, wordsOf, words_of_word here.toList_ne_nil here.plain,
        List.map_singleton, String.ofList_toList]
    | cons next more =>
      rw [String.intercalate_cons_cons, wordsOf, String.toList_append, String.toList_append,
        List.append_assoc]
      refine (congrArg _ (words_append_space here.toList_ne_nil here.plain space _)).trans ?_
      rw [List.map_cons, String.ofList_toList]
      exact congrArg _ (ih others)

/-- A line has the words that lie on it, and no others. Its words are the one list of words with
which it can be laid out, that is, written as white space, a word, white space, a word and so on,
where no word is empty or has white space in it, and only the white space at the two ends of the
line may be missing. So any words come back, with whatever white space they are set apart. Texts
with a single space between any two of them come back just if each of them is a word, as those
that were cut from a line are. The words of a line have all its characters, in order, but the
white space, and white space is what has the Unicode property White_Space. -/
theorem wordsOf_eq_iff_layout :
    (∀ line words, wordsOf line = words ↔ ∃ l : Layout, l.line = line ∧ l.words = words) ∧
    (∀ l : Layout, wordsOf l.line = l.words) ∧
    (∀ words, wordsOf (" ".intercalate words) = words ↔ ∀ word ∈ words, IsWord word) ∧
    (∀ line, wordsOf (" ".intercalate (wordsOf line)) = wordsOf line) ∧
    (∀ line, (wordsOf line).flatMap String.toList =
      line.toList.filter fun c => !isWhiteSpace c) ∧
    ∀ c, isWhiteSpace c = true ↔ c.toNat ∈ whiteSpaceCodes := by
  refine ⟨fun line words => ?_, wordsOf_line, fun words => ?_, fun line => ?_, fun line => ?_,
    isWhiteSpace_iff⟩
  · constructor
    · rintro rfl
      obtain ⟨l, rfl⟩ := exists_layout line
      exact ⟨l, rfl, (wordsOf_line l).symm⟩
    · rintro ⟨l, rfl, rfl⟩
      exact wordsOf_line l
  · refine ⟨fun same word mem => ?_, wordsOf_intercalate⟩
    rw [← same] at mem
    exact isWord_of_mem_wordsOf mem
  · exact wordsOf_intercalate fun word => isWord_of_mem_wordsOf
  · rw [← flatten_words, wordsOf, List.flatMap_map]
    simp only [String.toList_ofList, List.flatMap_id']

/-- A line separator and an ideographic space are white space. A zero width space and a byte order
mark are not, nor are delimiters that are not set apart. -/
example : wordsOf "\u3000a;b\u2028\u00A0\u200Bc\uFEFF &\t" = ["a;b", "\u200Bc\uFEFF", "&"] := by
  decide

end CommandChains.Text
