import N0te.Library.Spacing

/-!
# The lexical structure of SQL texts

`sqlMarks` reads a text as SQLite does before it forms tokens: characters that stand for themselves,
literals and quoted names with what is between their quotes, and gaps, which are whitespace and
comments. A line comment goes up to the next line feed, and a block comment up to its end or that of
the text. What a text means is `sqlLexemes`: its marks with one gap where there are several, and none
at the ends.

Joining the words of a text with single spaces keeps its meaning exactly when whitespace stands in
it `AsSeparator` (`sqlLexemes_collapse_iff`): in literals and quoted names as single spaces only,
elsewhere as whitespace of SQL, and nothing but gaps after the line feed of a line comment.
-/

set_option autoImplicit false
set_option relaxedAutoImplicit false

namespace N0te.Library

/-! ### Marks -/

/-- A part of an SQL text. -/
inductive SqlMark where
  /-- A character that stands for itself. -/
  | plain (c : Char)
  /-- A literal or a quoted name. -/
  | quoted (opening : Char) (content : List Char)
  /-- A quote that is not closed, with which a statement is refused. -/
  | unterminated
  /-- Whitespace, or the beginning of a comment. -/
  | gap
  /-- The line feed that ends a line comment. -/
  | lineEnd
  deriving DecidableEq

/-- What separates tokens. -/
def SqlMark.isGap : SqlMark → Bool
  | .gap => true
  | .lineEnd => true
  | _ => false

/-- What is being read. -/
inductive SqlMode where
  | plain
  /-- After whitespace. -/
  | space
  /-- After a dash. -/
  | dash
  /-- After a slash. -/
  | slash
  | quoted (opening : Char) (content : List Char)
  | line
  | block
  /-- After a star in a block comment. -/
  | star
  deriving DecidableEq

/-- The character that closes what another opens. -/
def closing (c : Char) : Option Char :=
  if c.toNat = 39 ∨ c.toNat = 34 ∨ c.toNat = 96 then some c
  else if c = '[' then some ']' else none

/-- The whitespace of SQL. A vertical tab is one only behind another. -/
def sqlSpace (c : Char) : Bool :=
  c.toNat = 9 || c.toNat = 10 || c.toNat = 12 || c.toNat = 13 || c.toNat = 32

/-- Read a character outside of quotes and comments. -/
def plainStep (c : Char) : SqlMode × List SqlMark :=
  if c = '-' then (.dash, [])
  else if c = '/' then (.slash, [])
  else if (closing c).isSome then (.quoted c [], [])
  else if sqlSpace c then (.space, [.gap])
  else (.plain, [.plain c])

/-- Read a character. -/
def SqlMode.step (c : Char) : SqlMode → SqlMode × List SqlMark
  | .plain => plainStep c
  | .space => if c.toNat = 11 then (.space, [.gap]) else plainStep c
  | .dash => if c = '-' then (.line, [.gap]) else ((plainStep c).1, .plain '-' :: (plainStep c).2)
  | .slash => if c = '*' then (.block, [.gap]) else ((plainStep c).1, .plain '/' :: (plainStep c).2)
  | .quoted opening content =>
    if closing opening = some c then (.plain, [.quoted opening content])
    else (.quoted opening (content ++ [c]), [])
  | .line => if c = '\n' then (.space, [.lineEnd]) else (.line, [])
  | .block => if c = '*' then (.star, []) else (.block, [])
  | .star => if c = '/' then (.plain, []) else if c = '*' then (.star, []) else (.block, [])

/-- What is left at the end of a text. -/
def SqlMode.finish : SqlMode → List SqlMark
  | .dash => [.plain '-']
  | .slash => [.plain '/']
  | .quoted _ _ => [.unterminated]
  | _ => []

/-- The marks of a text that is read from a mode on. -/
def SqlMode.marks : SqlMode → List Char → List SqlMark
  | mode, [] => mode.finish
  | mode, c :: rest => (mode.step c).2 ++ SqlMode.marks (mode.step c).1 rest

/-- The marks of a text. -/
def sqlMarks (s : String) : List SqlMark := SqlMode.plain.marks s.toList

/-- What a text means. -/
def sqlLexemes (s : String) : List SqlMark := squeeze SqlMark.isGap .gap .start (sqlMarks s)

/-! ### Whitespace as a separator -/

/-- A mark that joining words with single spaces leaves as it is. -/
def SqlMark.Stable : SqlMark → Prop
  | .plain c => isSpace c = false
  | .quoted _ content => SingleSpaced content
  | _ => True

instance (mark : SqlMark) : Decidable mark.Stable := by
  cases mark <;> unfold SqlMark.Stable <;> infer_instance

/-- The marks up to the end of the first line comment. -/
def firstLine (marks : List SqlMark) : List SqlMark := marks.takeWhile fun mark ↦ mark ≠ .lineEnd

/-- The marks after the end of the first line comment. -/
def laterLines (marks : List SqlMark) : List SqlMark := marks.dropWhile fun mark ↦ mark ≠ .lineEnd

/-- Whitespace stands in a text as a separator only. -/
structure AsSeparator (s : String) : Prop where
  /-- In literals and quoted names it is single spaces, and elsewhere whitespace of SQL. -/
  stable : ∀ mark ∈ sqlMarks s, mark.Stable
  /-- Nothing follows a line comment that has ended. -/
  lines : ∀ mark ∈ laterLines (sqlMarks s), mark.isGap = true

/-! ### Quotes -/

/-- What was read of a literal or a quoted name. -/
def SqlMode.content : SqlMode → List Char
  | .quoted _ content => content
  | _ => []

theorem content_plainStep (c : Char) : (plainStep c).1.content = [] := by
  unfold plainStep
  split_ifs <;> rfl

theorem not_mem_plainStep_quoted {c opening : Char} {content : List Char} :
    SqlMark.quoted opening content ∉ (plainStep c).2 := by
  unfold plainStep
  split_ifs <;> simp

theorem content_step (mode : SqlMode) (c : Char) :
    (mode.step c).1.content = [] ∨ (mode.step c).1.content = mode.content ++ [c] := by
  cases mode with
  | plain => exact .inl (content_plainStep c)
  | quoted opening content =>
    simp only [SqlMode.step]
    split_ifs
    · exact .inl rfl
    · exact .inr rfl
  | space | dash | slash =>
    left
    simp only [SqlMode.step]
    split_ifs
    · rfl
    · exact content_plainStep c
  | line | block | star =>
    left
    simp only [SqlMode.step]
    split_ifs <;> rfl

theorem content_finish {mode : SqlMode} {opening : Char} {content : List Char} :
    SqlMark.quoted opening content ∉ mode.finish := by
  cases mode <;> simp [SqlMode.finish]

/-- Where quotes are closed, what was read since they opened is between them. -/
theorem quoted_mem_step {mode : SqlMode} {c opening : Char} {content : List Char}
    (h : SqlMark.quoted opening content ∈ (mode.step c).2) : content = mode.content := by
  cases mode with
  | plain => exact absurd h not_mem_plainStep_quoted
  | quoted first before =>
    simp only [SqlMode.step] at h
    split_ifs at h
    · simpa [SqlMode.content] using (SqlMark.quoted.inj (List.mem_singleton.mp h)).2
    · simp at h
  | space =>
    simp only [SqlMode.step] at h
    split_ifs at h
    · simp at h
    · exact absurd h not_mem_plainStep_quoted
  | dash | slash =>
    simp only [SqlMode.step] at h
    split_ifs at h
    · simp at h
    · rw [List.mem_cons, or_iff_right (by simp)] at h
      exact absurd h not_mem_plainStep_quoted
  | line | block | star =>
    simp only [SqlMode.step] at h
    split_ifs at h <;> simp at h

/-- What is between quotes is a part of the text. -/
theorem content_isInfix {mode : SqlMode} {l : List Char} {opening : Char} {content : List Char}
    (h : SqlMark.quoted opening content ∈ mode.marks l) : content <:+: mode.content ++ l := by
  induction l generalizing mode with
  | nil => exact absurd h content_finish
  | cons c rest ih =>
    rw [SqlMode.marks, List.mem_append] at h
    rcases h with hstep | hrest
    · rw [quoted_mem_step hstep]
      exact (List.prefix_append _ _).isInfix
    · refine (ih hrest).trans ?_
      rcases content_step mode c with hempty | hlonger
      · rw [hempty, List.nil_append]
        exact ((List.suffix_cons _ _).trans (List.suffix_append _ _)).isInfix
      · rw [hlonger, List.append_assoc, List.singleton_append]

theorem plain_mem_plainStep {a c : Char} (h : SqlMark.plain c ∈ (plainStep a).2) :
    c = a ∧ sqlSpace c = false := by
  unfold plainStep at h
  split_ifs at h with hdash hslash hclosing hspace
  · simp at h
  · simp at h
  · simp at h
  · simp at h
  · obtain rfl := SqlMark.plain.inj (List.mem_singleton.mp h)
    exact ⟨rfl, by simpa using hspace⟩

theorem plain_mem_step {mode : SqlMode} {a c : Char} (h : SqlMark.plain c ∈ (mode.step a).2)
    (hc : isSpace c = true) : c = a ∧ sqlSpace c = false := by
  have hother (b : Char) (hb : isSpace b = false) : SqlMark.plain c ≠ .plain b := by
    intro heq
    rw [SqlMark.plain.inj heq, hb] at hc
    cases hc
  cases mode with
  | plain => exact plain_mem_plainStep h
  | space =>
    simp only [SqlMode.step] at h
    split_ifs at h
    · simp at h
    · exact plain_mem_plainStep h
  | dash =>
    simp only [SqlMode.step] at h
    split_ifs at h
    · simp at h
    · exact plain_mem_plainStep ((List.mem_cons.mp h).resolve_left (hother _ (by decide)))
  | slash =>
    simp only [SqlMode.step] at h
    split_ifs at h
    · simp at h
    · exact plain_mem_plainStep ((List.mem_cons.mp h).resolve_left (hother _ (by decide)))
  | quoted | line | block | star =>
    simp only [SqlMode.step] at h
    split_ifs at h <;> simp at h

/-- Whitespace that stands for itself is in the text, and is no whitespace of SQL. -/
theorem plain_mem {mode : SqlMode} {l : List Char} {c : Char}
    (h : SqlMark.plain c ∈ mode.marks l) (hc : isSpace c = true) : c ∈ l ∧ sqlSpace c = false := by
  induction l generalizing mode with
  | nil =>
    cases mode with
    | dash | slash =>
      rw [SqlMode.marks, SqlMode.finish, List.mem_singleton] at h
      rw [SqlMark.plain.inj h] at hc
      exact absurd hc (by decide)
    | _ => simp [SqlMode.marks, SqlMode.finish] at h
  | cons a rest ih =>
    rw [SqlMode.marks, List.mem_append] at h
    rcases h with hstep | hrest
    · obtain ⟨rfl, hspace⟩ := plain_mem_step hstep hc
      exact ⟨List.mem_cons_self, hspace⟩
    · exact ⟨List.mem_cons_of_mem a (ih hrest).1, (ih hrest).2⟩

/-- What closes a quote is no whitespace. -/
theorem isSpace_closing {opening q : Char} (h : closing opening = some q) : isSpace q = false := by
  unfold closing at h
  split_ifs at h with hquote hbracket
  · obtain rfl := Option.some.inj h
    rcases hquote with hquote | hquote | hquote
    all_goals simp [isSpace, hquote]
  · obtain rfl := Option.some.inj h
    decide

theorem isSpace_opening {opening q : Char} (h : closing opening = some q) :
    isSpace opening = false := by
  unfold closing at h
  split_ifs at h with hquote hbracket
  · obtain rfl := Option.some.inj h
    exact isSpace_closing (by rw [closing, if_pos hquote])
  · rw [hbracket]
    decide

/-- A quote that is closed later leaves a mark, with what was read of it before. -/
theorem quoted_mem_marks {opening q : Char} {l : List Char} (hq : closing opening = some q)
    (hl : q ∈ l) (content : List Char) : ∃ more, SqlMark.quoted opening (content ++ more) ∈
      firstLine ((SqlMode.quoted opening content).marks l) := by
  induction l generalizing content with
  | nil => exact absurd hl List.not_mem_nil
  | cons c rest ih =>
    by_cases hc : closing opening = some c
    · refine ⟨[], ?_⟩
      simp [SqlMode.marks, SqlMode.step, hc, firstLine]
    · have hrest : q ∈ rest := by
        refine (List.mem_cons.mp hl).resolve_left ?_
        rintro rfl
        exact hc hq
      obtain ⟨more, hmore⟩ := ih hrest (content ++ [c])
      refine ⟨c :: more, ?_⟩
      rw [List.append_assoc, List.singleton_append] at hmore
      simpa [SqlMode.marks, SqlMode.step, hc] using hmore

theorem marks_of_not_closed {opening : Char} {l : List Char}
    (h : ∀ q, closing opening = some q → q ∉ l) (content : List Char) :
    (SqlMode.quoted opening content).marks l = [.unterminated] := by
  induction l generalizing content with
  | nil => rfl
  | cons c rest ih =>
    have hc : closing opening ≠ some c := fun hclosing ↦ h c hclosing List.mem_cons_self
    have hrest := ih (fun q hq hmem ↦ h q hq (List.mem_cons_of_mem c hmem)) (content ++ [c])
    simpa [SqlMode.marks, SqlMode.step, hc] using hrest

/-! ### Lines -/

theorem firstLine_append {m n : List SqlMark} (h : SqlMark.lineEnd ∉ m) :
    firstLine (m ++ n) = m ++ firstLine n := by
  refine List.takeWhile_append_of_pos fun mark hmark ↦ ?_
  have hne : mark ≠ .lineEnd := by
    rintro rfl
    exact h hmark
  simpa using hne

theorem firstLine_append_laterLines (marks : List SqlMark) :
    firstLine marks ++ laterLines marks = marks :=
  List.takeWhile_append_dropWhile

theorem lineEnd_not_mem_plainStep (c : Char) : SqlMark.lineEnd ∉ (plainStep c).2 := by
  unfold plainStep
  split_ifs <;> simp

/-- A line comment ends at a line feed only. -/
theorem lineEnd_not_mem_step {c : Char} (hc : c ≠ '\n') (mode : SqlMode) :
    SqlMark.lineEnd ∉ (mode.step c).2 := by
  cases mode with
  | plain => exact lineEnd_not_mem_plainStep c
  | space | dash | slash =>
    simp only [SqlMode.step]
    split_ifs
    · simp
    · simpa using lineEnd_not_mem_plainStep c
  | line => simp [SqlMode.step, hc]
  | quoted | block | star =>
    simp only [SqlMode.step]
    split_ifs <;> simp

theorem firstLine_line (l : List Char) : firstLine (SqlMode.line.marks l) = [] := by
  induction l with
  | nil => rfl
  | cons c rest ih =>
    by_cases hc : c = '\n'
    · simp [SqlMode.marks, SqlMode.step, hc, firstLine]
    · simpa [SqlMode.marks, SqlMode.step, hc] using ih

theorem line_marks {l : List Char} (h : '\n' ∉ l) : SqlMode.line.marks l = [] := by
  induction l with
  | nil => rfl
  | cons c rest ih =>
    obtain ⟨hc, hrest⟩ := not_or.mp (mt List.mem_cons.mpr h)
    simpa [SqlMode.marks, SqlMode.step, Ne.symm hc] using ih hrest

/-! ### Joining words -/

/-- A text reads as the first line of another, up to gaps, where the marks of that are stable. -/
def SqlMode.JoinsTo (mode : SqlMode) (raw joined : List Char) : Prop :=
  (∀ mark ∈ firstLine (mode.marks raw), mark.Stable) → ∀ g,
    squeeze SqlMark.isGap .gap g (mode.marks joined) =
      squeeze SqlMark.isGap .gap g (firstLine (mode.marks raw))

/-- What is being read does not end in a text without line feeds. -/
def SqlMode.Endless (l : List Char) : SqlMode → Prop
  | .line => True
  | .quoted opening _ => ∀ q, closing opening = some q → q ∉ l
  | _ => False

theorem lineFeed_not_mem_squeeze (s : Spacing) (l : List Char) :
    '\n' ∉ squeeze isSpace ' ' s l := by
  induction l generalizing s with
  | nil => exact List.not_mem_nil
  | cons c rest ih =>
    by_cases hc : isSpace c = true
    · rw [squeeze_blank hc]
      exact ih _
    · have hne : '\n' ≠ c := by
        rintro rfl
        exact hc (by decide)
      rw [squeeze_of_not_blank (by simpa using hc)]
      cases s <;> simp [Spacing.before, hne, ih]

theorem joinsTo_of_endless {mode : SqlMode} {rest : List Char} (h : mode.Endless rest)
    {blanks : List Char} (hblanks : ∀ b ∈ blanks, isSpace b = true) (s : Spacing) :
    mode.JoinsTo (blanks ++ rest) (squeeze isSpace ' ' s rest) := by
  intro _ g
  cases mode with
  | line => rw [firstLine_line, line_marks (lineFeed_not_mem_squeeze s rest)]
  | quoted opening content =>
    have hraw : ∀ q, closing opening = some q → q ∉ blanks ++ rest := by
      intro q hq hmem
      rcases List.mem_append.mp hmem with hblank | hrest
      · have hspace := hblanks q hblank
        rw [isSpace_closing hq] at hspace
        cases hspace
      · exact h q hq hrest
    have hjoined : ∀ q, closing opening = some q → q ∉ squeeze isSpace ' ' s rest := by
      intro q hq hmem
      exact h q hq ((mem_squeeze (isSpace_closing hq) (by decide) s).mp hmem)
    rw [marks_of_not_closed hraw, marks_of_not_closed hjoined]
    rfl
  | plain | space | dash | slash | block | star => exact absurd h (by simp [SqlMode.Endless])

/-- The same character before both texts. -/
theorem SqlMode.JoinsTo.cons {mode : SqlMode} {c : Char} {raw joined : List Char} (hc : c ≠ '\n')
    (h : (mode.step c).1.JoinsTo raw joined) : mode.JoinsTo (c :: raw) (c :: joined) := by
  intro hstable g
  have hsplit : firstLine (mode.marks (c :: raw)) =
      (mode.step c).2 ++ firstLine ((mode.step c).1.marks raw) :=
    firstLine_append (lineEnd_not_mem_step hc mode)
  have hrest : ∀ mark ∈ firstLine ((mode.step c).1.marks raw), mark.Stable :=
    fun mark hmark ↦ hstable mark (hsplit ▸ List.mem_append_right _ hmark)
  rw [hsplit, SqlMode.marks, squeeze_append, squeeze_append, h hrest]

theorem plainStep_blank {a : Char} (ha : isSpace a = true) :
    plainStep a = plainStep ' ' ∨ plainStep a = (.plain, [.plain a]) := by
  have hother {b : Char} (hb : isSpace b = false) : a ≠ b := by
    rintro rfl
    rw [hb] at ha
    cases ha
  have hopens : ¬(closing a).isSome := by
    intro hsome
    obtain ⟨q, hq⟩ := Option.isSome_iff_exists.mp hsome
    exact hother (isSpace_opening hq) rfl
  rw [plainStep, if_neg (hother (by decide)), if_neg (hother (by decide)), if_neg hopens]
  split_ifs
  · exact .inl rfl
  · exact .inr rfl

theorem quoted_step_blank {a opening : Char} {content : List Char} (ha : isSpace a = true) :
    (SqlMode.quoted opening content).step a = (.quoted opening (content ++ [a]), []) := by
  refine if_neg fun hclosing ↦ ?_
  rw [isSpace_closing hclosing] at ha
  cases ha

/-- Whitespace that is stable is read as a space is, unless nothing ends what is being read. -/
theorem step_blank {mode : SqlMode} {a : Char} {rest : List Char} (ha : isSpace a = true)
    (hstable : ∀ mark ∈ firstLine (mode.marks (a :: rest)), mark.Stable) :
    mode.step a = mode.step ' ' ∨ mode.Endless rest := by
  have hother {b : Char} (hb : isSpace b = false) : a ≠ b := by
    rintro rfl
    rw [hb] at ha
    cases ha
  have hplain (before : List SqlMark) (hbefore : SqlMark.lineEnd ∉ before)
      (hmarks : mode.marks (a :: rest) =
        before ++ (plainStep a).2 ++ (plainStep a).1.marks rest) : plainStep a = plainStep ' ' := by
    refine (plainStep_blank ha).resolve_right fun hself ↦ ?_
    rw [hself] at hmarks
    have hmem : SqlMark.plain a ∈ firstLine (mode.marks (a :: rest)) := by
      rw [hmarks, firstLine_append (by simpa using hbefore)]
      simp
    have hfalse : isSpace a = false := hstable _ hmem
    rw [hfalse] at ha
    cases ha
  cases mode with
  | plain => exact .inl (hplain [] List.not_mem_nil rfl)
  | space =>
    left
    by_cases htab : a.toNat = 11
    · rw [SqlMode.step, if_pos htab]
      rfl
    · have hstep : SqlMode.space.step a = plainStep a := if_neg htab
      rw [hstep, hplain [] List.not_mem_nil (by rw [SqlMode.marks, hstep]; rfl)]
      rfl
  | dash =>
    have hstep : SqlMode.dash.step a = ((plainStep a).1, .plain '-' :: (plainStep a).2) :=
      if_neg (hother (by decide))
    left
    rw [hstep, hplain [.plain '-'] (by simp) (by rw [SqlMode.marks, hstep]; rfl)]
    rfl
  | slash =>
    have hstep : SqlMode.slash.step a = ((plainStep a).1, .plain '/' :: (plainStep a).2) :=
      if_neg (hother (by decide))
    left
    rw [hstep, hplain [.plain '/'] (by simp) (by rw [SqlMode.marks, hstep]; rfl)]
    rfl
  | quoted opening content =>
    by_cases hends : SqlMode.Endless rest (.quoted opening content)
    · exact .inr hends
    · left
      simp only [SqlMode.Endless, not_forall, not_not] at hends
      obtain ⟨q, hq, hmem⟩ := hends
      obtain ⟨more, hmore⟩ := quoted_mem_marks hq hmem (content ++ [a])
      rw [SqlMode.marks, quoted_step_blank ha] at hstable
      have hsingle : SingleSpaced (content ++ [a] ++ more) := hstable _ hmore
      rw [hsingle.1 a (by simp) ha]
  | line => exact .inr trivial
  | block =>
    left
    rw [SqlMode.step, if_neg (hother (by decide))]
    rfl
  | star =>
    left
    rw [SqlMode.step, if_neg (hother (by decide)), if_neg (hother (by decide))]
    rfl

theorem endless_of_step_space {mode : SqlMode} {rest : List Char}
    (h : (mode.step ' ').1.Endless rest) : mode.Endless rest := by
  cases mode with
  | line => trivial
  | quoted opening content =>
    rw [quoted_step_blank (by decide)] at h
    exact h
  | plain | space | dash | slash | block | star => exact h

/-- A second space changes nothing. -/
theorem SqlMode.JoinsTo.space {mode : SqlMode} {s : Spacing} {rest : List Char}
    (h : mode.JoinsTo (' ' :: rest) (squeeze isSpace ' ' s rest)) :
    mode.JoinsTo (' ' :: ' ' :: rest) (squeeze isSpace ' ' s rest) := by
  by_cases hends : mode.Endless rest
  · have hblanks : ∀ b ∈ [' ', ' '], isSpace b = true := by simp [isSpace]
    exact joinsTo_of_endless hends hblanks s
  intro hstable g
  have hgaps (before : List SqlMark) (hbefore : SqlMark.lineEnd ∉ before)
      (hone : mode.marks (' ' :: rest) = before ++ [.gap] ++ SqlMode.space.marks rest)
      (htwo : mode.marks (' ' :: ' ' :: rest) =
        before ++ [.gap, .gap] ++ SqlMode.space.marks rest) :
      squeeze SqlMark.isGap .gap g (mode.marks (squeeze isSpace ' ' s rest)) =
        squeeze SqlMark.isGap .gap g (firstLine (mode.marks (' ' :: ' ' :: rest))) := by
    rw [htwo, firstLine_append (by simpa using hbefore)] at hstable
    have hfirst : firstLine (mode.marks (' ' :: rest)) =
        before ++ [.gap] ++ firstLine (SqlMode.space.marks rest) := by
      rw [hone, firstLine_append (by simpa using hbefore)]
    have hfewer : ∀ mark ∈ firstLine (mode.marks (' ' :: rest)), mark.Stable := by
      rw [hfirst]
      exact fun mark hmark ↦ hstable mark (by simpa using hmark)
    rw [h hfewer, hfirst, htwo, firstLine_append (by simpa using hbefore), List.append_assoc,
      List.append_assoc, squeeze_append g before, squeeze_append g before]
    cases spacingAfter SqlMark.isGap g before <;> rfl
  cases mode with
  | line => exact absurd trivial hends
  | quoted opening content =>
    simp only [SqlMode.Endless, not_forall, not_not] at hends
    obtain ⟨q, hq, hmem⟩ := hends
    obtain ⟨more, hmore⟩ := quoted_mem_marks hq hmem (content ++ [' '] ++ [' '])
    rw [SqlMode.marks, quoted_step_blank (by decide), SqlMode.marks,
      quoted_step_blank (by decide)] at hstable
    have hsingle : SingleSpaced (content ++ [' '] ++ [' '] ++ more) := hstable _ hmore
    have htwo : SingleSpaced [' ', ' '] := hsingle.part ⟨content, more, by simp⟩
    exact absurd htwo (by decide)
  | plain | space => exact hgaps [] List.not_mem_nil rfl rfl
  | dash => exact hgaps [.plain '-'] (by simp) rfl rfl
  | slash => exact hgaps [.plain '/'] (by simp) rfl rfl
  | block | star => exact h hstable g

/-- Read a character more: of the text as it is, and behind a space. -/
theorem joinsTo_squeeze (l : List Char) (mode : SqlMode) :
    mode.JoinsTo l (squeeze isSpace ' ' .inside l) ∧
      mode.JoinsTo (' ' :: l) (squeeze isSpace ' ' .pending l) := by
  induction l generalizing mode with
  | nil =>
    constructor
    · intro _ g
      cases mode <;> rfl
    · by_cases hends : mode.Endless []
      · have hblanks : ∀ b ∈ [' '], isSpace b = true := by simp [isSpace]
        exact joinsTo_of_endless hends hblanks .pending
      · intro _ g
        cases mode with
        | quoted => exact absurd (fun _ _ ↦ List.not_mem_nil) hends
        | _ => cases g <;> rfl
  | cons c rest ih =>
    by_cases hc : isSpace c = true
    · rw [squeeze_blank hc, squeeze_blank hc]
      constructor
      · intro hstable
        rcases step_blank hc hstable with hstep | hends
        · have hmarks : mode.marks (c :: rest) = mode.marks (' ' :: rest) := by
            rw [SqlMode.marks, SqlMode.marks, hstep]
          rw [hmarks] at hstable ⊢
          exact (ih mode).2 hstable
        · have hblanks : ∀ b ∈ [c], isSpace b = true := by simpa using hc
          exact joinsTo_of_endless hends hblanks .pending hstable
      · intro hstable
        have hlater : ∀ mark ∈ firstLine ((mode.step ' ').1.marks (c :: rest)), mark.Stable := by
          intro mark hmark
          refine hstable mark ?_
          rw [SqlMode.marks, firstLine_append (lineEnd_not_mem_step (by decide) mode)]
          exact List.mem_append_right _ hmark
        rcases step_blank hc hlater with hstep | hends
        · have hmarks : mode.marks (' ' :: c :: rest) = mode.marks (' ' :: ' ' :: rest) := by
            rw [SqlMode.marks, SqlMode.marks, SqlMode.marks, SqlMode.marks, hstep]
          rw [hmarks] at hstable ⊢
          exact (ih mode).2.space hstable
        · have hblanks : ∀ b ∈ [' ', c], isSpace b = true :=
            List.forall_mem_cons.mpr ⟨by decide, by simpa using hc⟩
          exact joinsTo_of_endless (endless_of_step_space hends) hblanks .pending hstable
    · have hfalse : isSpace c = false := by simpa using hc
      have hne : c ≠ '\n' := by
        rintro rfl
        exact hc (by decide)
      rw [squeeze_of_not_blank hfalse, squeeze_of_not_blank hfalse]
      constructor
      · exact (ih _).1.cons hne
      · exact ((ih _).1.cons hne).cons (by decide)

/-- The same from the start of a text, where gaps are dropped. -/
theorem squeeze_firstLine {mode : SqlMode} (hmode : mode = .plain ∨ mode = .space) (l : List Char)
    (hstable : ∀ mark ∈ firstLine (mode.marks l), mark.Stable) :
    squeeze SqlMark.isGap .gap .start (SqlMode.plain.marks (squeeze isSpace ' ' .start l)) =
      squeeze SqlMark.isGap .gap .start (firstLine (mode.marks l)) := by
  induction l generalizing mode with
  | nil =>
    rcases hmode with rfl | rfl <;> rfl
  | cons c rest ih =>
    by_cases hc : isSpace c = true
    · have hstep : mode.step c = (.space, [.gap]) := by
        rcases hmode with rfl | rfl
        all_goals exact (step_blank hc hstable).resolve_right (by simp [SqlMode.Endless])
      have hsplit : firstLine (mode.marks (c :: rest)) =
          .gap :: firstLine (SqlMode.space.marks rest) := by
        rw [SqlMode.marks, hstep]
        rfl
      rw [hsplit] at hstable
      rw [squeeze_blank hc, hsplit, squeeze_blank rfl]
      exact ih (.inr rfl) fun mark hmark ↦ hstable mark (List.mem_cons_of_mem _ hmark)
    · have hfalse : isSpace c = false := by simpa using hc
      have hne : c ≠ '\n' := by
        rintro rfl
        exact hc (by decide)
      have hmarks : mode.marks (c :: rest) = SqlMode.plain.marks (c :: rest) := by
        rcases hmode with rfl | rfl
        · rfl
        · have htab : c.toNat ≠ 11 := by
            intro htab
            rw [isSpace, htab] at hfalse
            exact absurd hfalse (by decide)
          have hstep : SqlMode.space.step c = plainStep c := if_neg htab
          rw [SqlMode.marks, hstep]
          rfl
      rw [hmarks] at hstable ⊢
      rw [squeeze_of_not_blank hfalse]
      exact (joinsTo_squeeze rest _).1.cons hne hstable .start

/-! ### The meaning of joined words -/

theorem sqlLexemes_collapse_of_stable {s : String}
    (hstable : ∀ mark ∈ firstLine (sqlMarks s), mark.Stable) :
    sqlLexemes (collapse s) = squeeze SqlMark.isGap .gap .start (firstLine (sqlMarks s)) := by
  rw [sqlLexemes, sqlMarks, collapse_eq_squeeze]
  exact squeeze_firstLine (.inl rfl) _ hstable

theorem singleSpaced_collapse (s : String) : SingleSpaced (collapse s).toList := by
  rw [collapse_eq_squeeze]
  exact singleSpaced_squeeze _

/-- Every mark of joined words is stable. -/
theorem stable_of_mem_collapse {s : String} {mark : SqlMark} (h : mark ∈ sqlMarks (collapse s)) :
    mark.Stable := by
  cases mark with
  | plain c =>
    by_contra hspace
    have hblank : isSpace c = true := by simpa [SqlMark.Stable] using hspace
    obtain ⟨hmem, hsql⟩ := plain_mem h hblank
    rw [(singleSpaced_collapse s).1 c hmem hblank] at hsql
    exact absurd hsql (by decide)
  | quoted opening content => exact (singleSpaced_collapse s).part (content_isInfix h)
  | unterminated | gap | lineEnd => trivial

/-- A mark that is no gap is one of the meaning. -/
theorem mem_sqlLexemes {s : String} {mark : SqlMark} (h : mark.isGap = false) :
    mark ∈ sqlLexemes s ↔ mark ∈ sqlMarks s :=
  mem_squeeze h rfl .start

theorem isGap_of_not_stable {mark : SqlMark} (h : ¬mark.Stable) : mark.isGap = false := by
  cases mark with
  | plain | quoted => rfl
  | unterminated | gap | lineEnd => exact absurd trivial h

/-- Joining the words of a text keeps its meaning exactly when whitespace is a separator in it. -/
theorem sqlLexemes_collapse_iff (s : String) :
    sqlLexemes (collapse s) = sqlLexemes s ↔ AsSeparator s := by
  constructor
  · intro heq
    have hstable : ∀ mark ∈ sqlMarks s, mark.Stable := by
      intro mark hmark
      by_contra hunstable
      have hgap := isGap_of_not_stable hunstable
      have hlexeme := (mem_sqlLexemes hgap).mpr hmark
      rw [← heq] at hlexeme
      exact hunstable (stable_of_mem_collapse ((mem_sqlLexemes hgap).mp hlexeme))
    refine ⟨hstable, ?_⟩
    have hfirst : ∀ mark ∈ firstLine (sqlMarks s), mark.Stable :=
      fun mark hmark ↦ hstable mark ((List.takeWhile_prefix _).subset hmark)
    have hcount := congrArg (List.countP fun mark ↦ !mark.isGap) heq
    rw [sqlLexemes_collapse_of_stable hfirst, sqlLexemes, count_squeeze rfl,
      count_squeeze rfl] at hcount
    have hsplit := congrArg (List.countP fun mark ↦ !mark.isGap)
      (firstLine_append_laterLines (sqlMarks s))
    rw [List.countP_append] at hsplit
    have hnone : (laterLines (sqlMarks s)).countP (fun mark ↦ !mark.isGap) = 0 := by omega
    intro mark hmark
    simpa using List.countP_eq_zero.mp hnone mark hmark
  · intro h
    have hfirst : ∀ mark ∈ firstLine (sqlMarks s), mark.Stable :=
      fun mark hmark ↦ h.stable mark ((List.takeWhile_prefix _).subset hmark)
    rw [sqlLexemes_collapse_of_stable hfirst, sqlLexemes]
    conv_rhs => rw [← firstLine_append_laterLines (sqlMarks s)]
    rw [squeeze_append, squeeze_eq_nil h.lines, List.append_nil]

end N0te.Library
