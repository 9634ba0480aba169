import Mathlib.Data.List.Basic
import N0te.Library.Text

/-!
# Texts with single spaces

`collapse` is `" ".join(value.split())`: the words of a text with one space between any two. A `Line`
is a text that this leaves as it is and that is not empty. It has no whitespace at either end, so it
is a `Text` as well (`Line.text`).
-/

set_option autoImplicit false
set_option relaxedAutoImplicit false

namespace N0te.Library

/-! ### Words -/

/-- A word that has begun, as the list of words it makes. -/
def endWord (word : List Char) : List (List Char) := if word = [] then [] else [word]

/-- `str.split()` on the characters that follow the word that has begun. -/
def splitWords : List Char → List Char → List (List Char)
  | word, [] => endWord word
  | word, c :: rest =>
    if isSpace c then endWord word ++ splitWords [] rest else splitWords (word ++ [c]) rest

/-- `" ".join(value.split())`. -/
def collapse (s : String) : String :=
  String.ofList ([' '].intercalate (splitWords [] s.toList))

/-- A word has a character and no whitespace. -/
def IsWord (word : List Char) : Prop := word ≠ [] ∧ ∀ c ∈ word, isSpace c = false

theorem isWord_of_mem_endWord {word w : List Char} (hword : ∀ c ∈ word, isSpace c = false)
    (h : w ∈ endWord word) : IsWord w := by
  unfold endWord at h
  split_ifs at h with hempty
  · cases h
  · rw [List.mem_singleton.mp h]
    exact ⟨hempty, hword⟩

theorem isWord_of_mem_splitWords {l word w : List Char} (hword : ∀ c ∈ word, isSpace c = false)
    (h : w ∈ splitWords word l) : IsWord w := by
  induction l generalizing word with
  | nil => exact isWord_of_mem_endWord hword h
  | cons c rest ih =>
    unfold splitWords at h
    split_ifs at h with hspace
    · rcases List.mem_append.mp h with hend | hrest
      · exact isWord_of_mem_endWord hword hend
      · exact ih (by simp) hrest
    · refine ih (fun d hd ↦ ?_) h
      rcases List.mem_append.mp hd with hold | hnew
      · exact hword d hold
      · rw [List.mem_singleton.mp hnew]
        simpa using hspace

theorem splitWords_of_no_space {l word : List Char} (h : ∀ c ∈ l, isSpace c = false) :
    splitWords word l = endWord (word ++ l) := by
  induction l generalizing word with
  | nil => rw [splitWords, List.append_nil]
  | cons c rest ih =>
    rw [List.forall_mem_cons] at h
    rw [splitWords, if_neg (by simp [h.1]), ih h.2, List.append_assoc, List.singleton_append]

/-- A text without whitespace is its own collapse. -/
theorem collapse_of_no_space {s : String} (h : ∀ c ∈ s.toList, isSpace c = false) :
    collapse s = s := by
  rw [collapse, splitWords_of_no_space h, List.nil_append, endWord]
  split_ifs with hempty
  · simp [String.toList_eq_nil_iff.mp hempty]
  · simp

/-! ### The ends of a collapsed text -/

theorem stripChars_eq_self {l : List Char} (hhead : ∀ c ∈ l.head?, isSpace c = false)
    (hlast : ∀ c ∈ l.getLast?, isSpace c = false) : stripChars l = l := by
  have hdrop : l.dropWhile isSpace = l := by
    cases l with
    | nil => rfl
    | cons c rest => exact List.dropWhile_cons_of_neg (by simp [hhead c rfl])
  have hrdrop : l.rdropWhile isSpace = l := by
    rw [List.rdropWhile_eq_self_iff]
    intro hne
    simp [hlast _ (List.getLast?_eq_some_getLast hne)]
  rw [stripChars, hdrop, hrdrop]

/-- A text has no whitespace at either end. -/
theorem Text.ends (t : Text) : (∀ c ∈ t.val.toList.head?, isSpace c = false) ∧
    ∀ c ∈ t.val.toList.getLast?, isSpace c = false := by
  have hstrip : stripChars t.val.toList = t.val.toList := by
    rw [← toList_strip, t.stripped]
  have hsuffix := List.dropWhile_suffix isSpace (l := t.val.toList)
  have hinit := List.rdropWhile_prefix isSpace (t.val.toList.dropWhile isSpace)
  have hdrop : t.val.toList.dropWhile isSpace = t.val.toList := by
    refine hsuffix.eq_of_length_le ?_
    rw [← congrArg List.length hstrip]
    exact hinit.length_le
  have hrdrop : t.val.toList.rdropWhile isSpace = t.val.toList := by
    rwa [stripChars, hdrop] at hstrip
  constructor
  · intro c hc
    rw [List.dropWhile_eq_self_iff] at hdrop
    obtain ⟨rest, hrest⟩ := List.head?_eq_some_iff.mp hc
    have hhead := hdrop (by simp [hrest])
    simpa [hrest] using hhead
  · intro c hc
    rw [List.rdropWhile_eq_self_iff] at hrdrop
    obtain ⟨init, hinit⟩ := List.getLast?_eq_some_iff.mp hc
    have hlast := hrdrop (by simp [hinit])
    simpa [hinit] using hlast

/-- A text, anything, and a text make a text without whitespace at either end. -/
theorem strip_between (t u : Text) (middle : String) :
    strip (t.val ++ middle ++ u.val) = t.val ++ middle ++ u.val := by
  have hne (v : Text) : v.val.toList ≠ [] := fun h ↦ v.nonempty (String.toList_eq_nil_iff.mp h)
  rw [strip, stripChars_eq_self, String.ofList_toList]
  · intro c hc
    rw [String.toList_append, String.toList_append, List.append_assoc,
      List.head?_append_of_ne_nil _ (hne t)] at hc
    exact t.ends.1 c hc
  · intro c hc
    rw [String.toList_append, List.getLast?_append_of_ne_nil _ (hne u)] at hc
    exact u.ends.2 c hc

theorem head?_intercalate {words : List (List Char)} (h : ∀ w ∈ words, IsWord w) :
    ∀ c ∈ ([' '].intercalate words).head?, isSpace c = false := by
  rcases words with _ | ⟨⟨⟩ | ⟨c, word⟩, rest⟩
  · simp
  · exact absurd rfl (h [] List.mem_cons_self).1
  · intro d hd
    have hword := (h (c :: word) List.mem_cons_self).2
    have hhead : d = c := by cases rest <;> simpa [List.intercalate, eq_comm] using hd
    rw [hhead]
    exact hword c List.mem_cons_self

theorem getLast?_intercalate {words : List (List Char)} (h : ∀ w ∈ words, IsWord w) :
    ∀ c ∈ ([' '].intercalate words).getLast?, isSpace c = false := by
  induction words with
  | nil => simp
  | cons word rest ih =>
    rw [List.forall_mem_cons] at h
    cases rest with
    | nil =>
      intro c hc
      refine h.1.2 c (List.mem_of_getLast? ?_)
      simpa [List.intercalate] using hc
    | cons next rest =>
      have hne : [' '].intercalate (next :: rest) ≠ [] := by
        have hnext := (h.2 next List.mem_cons_self).1
        cases rest <;> simp [List.intercalate, hnext]
      have hsplit : [' '].intercalate (word :: next :: rest) =
          word ++ [' '] ++ [' '].intercalate (next :: rest) := by
        simp [List.intercalate]
      rw [hsplit, List.getLast?_append_of_ne_nil _ hne]
      exact ih h.2

/-- A collapsed text has no whitespace at either end. -/
theorem strip_collapse (s : String) : strip (collapse s) = collapse s := by
  have hwords : ∀ w ∈ splitWords [] s.toList, IsWord w :=
    fun w hw ↦ isWord_of_mem_splitWords (by simp) hw
  rw [strip, collapse, String.toList_ofList,
    stripChars_eq_self (head?_intercalate hwords) (getLast?_intercalate hwords)]

theorem splitWords_append {w : List Char} (h : ∀ c ∈ w, isSpace c = false) (word l : List Char) :
    splitWords word (w ++ l) = splitWords (word ++ w) l := by
  induction w generalizing word with
  | nil => simp
  | cons c rest ih =>
    rw [List.forall_mem_cons] at h
    rw [List.cons_append, splitWords, if_neg (by simp [h.1]), ih h.2, List.append_assoc,
      List.singleton_append]

/-- Splitting joined words gives the words back. -/
theorem splitWords_intercalate {words : List (List Char)} (h : ∀ w ∈ words, IsWord w) :
    splitWords [] ([' '].intercalate words) = words := by
  induction words with
  | nil => rfl
  | cons word rest ih =>
    rw [List.forall_mem_cons] at h
    have hend : endWord word = [word] := if_neg h.1.1
    cases rest with
    | nil =>
      have hsingle : [' '].intercalate [word] = word := by simp [List.intercalate]
      rw [hsingle, splitWords_of_no_space h.1.2, List.nil_append, hend]
    | cons next rest =>
      have hsplit : [' '].intercalate (word :: next :: rest) =
          word ++ ' ' :: [' '].intercalate (next :: rest) := by
        simp [List.intercalate]
      rw [hsplit, splitWords_append h.1.2, List.nil_append, splitWords, if_pos (by decide), hend,
        ih h.2, List.singleton_append]

/-- Collapsing twice is collapsing once. -/
@[simp] theorem collapse_collapse (s : String) : collapse (collapse s) = collapse s := by
  have hwords : ∀ w ∈ splitWords [] s.toList, IsWord w :=
    fun w hw ↦ isWord_of_mem_splitWords (by simp) hw
  rw [collapse, collapse, String.toList_ofList, splitWords_intercalate hwords]

/-! ### How much is left of a text -/

/-- Words are shorter than the text that they are the words of. -/
theorem length_intercalate_splitWords (word l : List Char) :
    ([' '].intercalate (splitWords word l)).length ≤ word.length + l.length := by
  induction l generalizing word with
  | nil =>
    rw [splitWords, endWord]
    split_ifs with hempty
    · simp
    · simp [List.intercalate]
  | cons c rest ih =>
    rw [splitWords, List.length_cons]
    split_ifs with hspace
    · have hrest := ih []
      rw [endWord]
      split_ifs with hempty
      · rw [List.nil_append]
        simp only [List.length_nil] at hrest
        omega
      · rcases hwords : splitWords [] rest with _ | ⟨next, others⟩
        · simp [List.intercalate]
        · have hsplit : [' '].intercalate ([word] ++ next :: others) =
              word ++ [' '] ++ [' '].intercalate (next :: others) := by
            simp [List.intercalate]
          rw [hsplit, List.length_append, List.length_append, ← hwords, List.length_singleton]
          simp only [List.length_nil] at hrest
          omega
    · have hrest := ih (word ++ [c])
      rw [List.length_append, List.length_singleton] at hrest
      omega

/-- A text does not become longer when it is collapsed. -/
theorem length_collapse_le (s : String) : (collapse s).toList.length ≤ s.toList.length := by
  rw [collapse, String.toList_ofList]
  exact (length_intercalate_splitWords [] s.toList).trans_eq (Nat.zero_add _)

theorem splitWords_eq_nil {l word : List Char} :
    splitWords word l = [] ↔ word = [] ∧ ∀ c ∈ l, isSpace c = true := by
  induction l generalizing word with
  | nil =>
    rw [splitWords, endWord]
    split_ifs with hempty <;> simp [hempty]
  | cons c rest ih =>
    rw [splitWords, List.forall_mem_cons]
    split_ifs with hspace
    · rw [List.append_eq_nil_iff, ih, endWord]
      split_ifs with hempty <;> simp [hempty, hspace]
    · rw [ih]
      simp [hspace]

/-- Nothing is left of a text exactly when it is blank. -/
theorem collapse_eq_empty {s : String} : collapse s = "" ↔ ∀ c ∈ s.toList, isSpace c = true := by
  have hwords : ∀ w ∈ splitWords [] s.toList, IsWord w :=
    fun w hw ↦ isWord_of_mem_splitWords (by simp) hw
  have hnil : splitWords [] s.toList = [] ↔ ∀ c ∈ s.toList, isSpace c = true := by
    rw [splitWords_eq_nil]
    exact and_iff_right rfl
  rw [← hnil, collapse, String.ofList_eq_empty_iff]
  constructor
  · intro h
    rw [← splitWords_intercalate hwords, h]
    rfl
  · intro h
    rw [h]
    rfl

/-! ### Lines -/

/-- A text with single spaces that is not empty. -/
structure Line where
  val : String
  /-- Its words have one space between any two. -/
  collapsed : collapse val = val
  /-- At least one character. -/
  nonempty : val ≠ ""

theorem Line.eq_iff {line other : Line} : line.val = other.val ↔ line = other := by
  cases line
  cases other
  simp

instance : DecidableEq Line := fun _ _ ↦ decidable_of_iff _ Line.eq_iff

/-- The collapsed text, when something is left of it. -/
def Line.ofString (s : String) : Option Line :=
  if h : collapse s = "" then none else some ⟨collapse s, collapse_collapse s, h⟩

/-- A line is a checked text. -/
def Line.text (line : Line) : Text where
  val := line.val
  stripped := line.collapsed ▸ strip_collapse line.val
  nonempty := line.nonempty

@[simp] theorem Line.text_val (line : Line) : line.text.val = line.val := rfl

theorem Line.ext {a b : Line} (h : a.val = b.val) : a = b := by
  cases a
  cases b
  cases h
  rfl

theorem Line.ofString_eq_some {s : String} {line : Line} :
    Line.ofString s = some line ↔ collapse s = line.val ∧ collapse s ≠ "" := by
  unfold Line.ofString
  split_ifs with hempty
  · simp [hempty]
  · simp only [Option.some.injEq, ne_eq, hempty, not_false_eq_true, and_true]
    exact ⟨fun h ↦ h ▸ rfl, fun h ↦ Line.ext h⟩

theorem Line.text_injective : Function.Injective Line.text :=
  fun _ _ h ↦ Line.ext (congrArg Text.val h)

end N0te.Library
