import N0te.Library.Text

/-!
# Calendar dates

`Date` is a date of the proleptic Gregorian calendar. `fromIsoFormat` reads the ISO 8601 forms that
`date.fromisoformat` reads (calendar dates and week dates, with and without separators), and
`Date.isoFormat` writes the one form that `date.isoformat` writes. What is written is read back
(`fromIsoFormat_isoFormat`).
-/

set_option autoImplicit false
set_option relaxedAutoImplicit false

namespace N0te.Library

/-! ### Dates -/

/-- A year with a leap day. -/
def isLeap (year : ℕ) : Bool := year % 4 = 0 ∧ (year % 100 ≠ 0 ∨ year % 400 = 0)

def monthLengths (year : ℕ) : List ℕ :=
  [31, if isLeap year then 29 else 28, 31, 30, 31, 30, 31, 31, 30, 31, 30, 31]

/-- A day of the calendar. -/
def IsDay (year month day : ℕ) : Prop :=
  1 ≤ year ∧ year ≤ 9999 ∧ 1 ≤ month ∧ 1 ≤ day ∧
    day ≤ ((monthLengths year)[month - 1]?).getD 0 ∧ day ≤ 31

instance (year month day : ℕ) : Decidable (IsDay year month day) :=
  inferInstanceAs (Decidable (_ ∧ _))

/-- A date. -/
structure Date where
  year : ℕ
  month : ℕ
  day : ℕ
  isDay : IsDay year month day

/-- `date(year, month, day)`. -/
def Date.ofDay (year month day : ℕ) : Option Date :=
  if h : IsDay year month day then some ⟨year, month, day, h⟩ else none

/-! ### Week dates -/

def daysBeforeYear (year : ℕ) : ℕ :=
  (year - 1) * 365 + (year - 1) / 4 - (year - 1) / 100 + (year - 1) / 400

/-- The month and the day of the month of a day of the year. -/
def monthAndDay : List ℕ → ℕ → ℕ → ℕ × ℕ
  | [], month, day => (month, day)
  | length :: rest, month, day =>
    if day ≤ length then (month, day) else monthAndDay rest (month + 1) (day - length)

/-- The date of a day that is counted from the beginning of year 1, if it is in a year. -/
def dateInYear (ordinal year : ℕ) : Option Date :=
  if daysBeforeYear year < ordinal ∧ ordinal ≤ daysBeforeYear (year + 1) then
    let (month, day) := monthAndDay (monthLengths year) 1 (ordinal - daysBeforeYear year)
    Date.ofDay year month day
  else none

/-- The day of the week on which a year begins, from Monday. -/
def firstWeekday (year : ℕ) : ℕ := daysBeforeYear year % 7

def firstWeekMonday (year : ℕ) : ℕ :=
  daysBeforeYear year + 1 - firstWeekday year + if firstWeekday year > 3 then 7 else 0

/-- How many weeks a year has. -/
def weeksInYear (year : ℕ) : ℕ :=
  if firstWeekday year = 3 ∨ firstWeekday year = 2 ∧ isLeap year = true then 53 else 52

/-- `_isoweek_to_gregorian`. -/
def isoWeekToGregorian (year week day : ℕ) : Option Date :=
  if 1 ≤ year ∧ year ≤ 9999 ∧ 1 ≤ week ∧ week ≤ weeksInYear year ∧ 1 ≤ day ∧ day ≤ 7 then
    let ordinal := firstWeekMonday year + (week - 1) * 7 + (day - 1)
    [year - 1, year, year + 1].findSome? (dateInYear ordinal)
  else none

/-! ### Reading -/

/-- A number of so many digits. -/
def parseDigits : ℕ → ℕ → List Char → Option (ℕ × List Char)
  | 0, value, rest => some (value, rest)
  | n + 1, value, c :: rest =>
    if c.isDigit then parseDigits n (value * 10 + (c.toNat - '0'.toNat)) rest else none
  | _ + 1, _, [] => none

/-- A separator, where a date has them. -/
def parseSeparator (separated : Bool) : List Char → Option (List Char)
  | '-' :: rest => if separated then some rest else none
  | rest => if separated then none else some rest

/-- A month and a day to the end. -/
def parseMonthDay (year : ℕ) (separated : Bool) (chars : List Char) : Option Date := do
  let (month, rest) ← parseDigits 2 0 chars
  let rest ← parseSeparator separated rest
  let (day, rest) ← parseDigits 2 0 rest
  if rest = [] then Date.ofDay year month day else none

/-- A week, and a day of it unless it is the first, to the end. -/
def parseWeekDay (year : ℕ) (separated : Bool) (chars : List Char) : Option Date := do
  let (week, rest) ← parseDigits 2 0 chars
  if rest = [] then isoWeekToGregorian year week 1
  else do
    let rest ← parseSeparator separated rest
    let (day, rest) ← parseDigits 1 0 rest
    if rest = [] then isoWeekToGregorian year week day else none

/-- What follows the year. -/
def parseAfterYear (year : ℕ) : List Char → Option Date
  | '-' :: 'W' :: rest => parseWeekDay year true rest
  | 'W' :: rest => parseWeekDay year false rest
  | '-' :: rest => parseMonthDay year true rest
  | rest => parseMonthDay year false rest

/-- `date.fromisoformat(text)`, or nothing where it raises. -/
def fromIsoFormat (s : String) : Option Date := do
  let (year, rest) ← parseDigits 4 0 s.toList
  parseAfterYear year rest

/-! ### Writing -/

/-- A number below 100 with two digits. -/
def twoDigits (n : ℕ) : List Char := [Nat.digitChar (n / 10), Nat.digitChar (n % 10)]

/-- `date.isoformat()`. -/
def Date.isoFormat (date : Date) : String :=
  String.ofList (twoDigits (date.year / 100) ++ twoDigits (date.year % 100) ++
    '-' :: twoDigits date.month ++ '-' :: twoDigits date.day)

/-- A digit is read as its value. It is no whitespace, and begins no week date. -/
theorem digitChar_value : ∀ n < 10, (Nat.digitChar n).isDigit = true ∧
    (Nat.digitChar n).toNat - '0'.toNat = n ∧ Nat.digitChar n ≠ 'W' ∧
    isSpace (Nat.digitChar n) = false := by decide

theorem not_space_of_mem_twoDigits {n : ℕ} (hn : n < 100) :
    ∀ c ∈ twoDigits n, isSpace c = false := by
  rw [twoDigits, List.forall_mem_cons, List.forall_mem_singleton]
  exact ⟨(digitChar_value (n / 10) (by omega)).2.2.2, (digitChar_value (n % 10) (by omega)).2.2.2⟩

/-- Two digits are read as their value. -/
theorem parseDigits_twoDigits {k : ℕ} (hk : k < 100) (n value : ℕ) (rest : List Char) :
    parseDigits (n + 2) value (twoDigits k ++ rest) = parseDigits n (value * 100 + k) rest := by
  obtain ⟨htens, htensValue, -⟩ := digitChar_value (k / 10) (by omega)
  obtain ⟨hones, honesValue, -⟩ := digitChar_value (k % 10) (by omega)
  have hvalue : (value * 10 + k / 10) * 10 + k % 10 = value * 100 + k := by omega
  simp only [twoDigits, List.cons_append, List.nil_append, parseDigits, htens, hones, htensValue,
    honesValue, hvalue, if_true]

/-- Two digits alone. -/
theorem parseTwo_twoDigits {k : ℕ} (hk : k < 100) (rest : List Char) :
    parseDigits 2 0 (twoDigits k ++ rest) = some (k, rest) := by
  rw [parseDigits_twoDigits hk, Nat.zero_mul, Nat.zero_add, parseDigits]

namespace Date

variable (date : Date)

/-- The numbers of a date are small. -/
theorem bounds : date.year < 10000 ∧ date.month < 100 ∧ date.day < 100 := by
  obtain ⟨-, hyear, -, -, hlength, hday⟩ := date.isDay
  refine ⟨by omega, ?_, by omega⟩
  by_contra hmonth
  have hnone : (monthLengths date.year)[date.month - 1]? = none := by
    rw [List.getElem?_eq_none_iff]
    simp only [monthLengths, List.length_cons, List.length_nil]
    omega
  obtain ⟨-, -, -, hpositive, -⟩ := date.isDay
  rw [hnone, Option.getD_none] at hlength
  omega

theorem parseMonthDay_eq :
    parseMonthDay date.year true (twoDigits date.month ++ '-' :: twoDigits date.day) = some date := by
  obtain ⟨-, hmonth, hday⟩ := date.bounds
  have hdayDigits := parseTwo_twoDigits hday []
  rw [List.append_nil] at hdayDigits
  simp only [parseMonthDay, parseTwo_twoDigits hmonth, Option.bind_eq_bind, Option.bind_some,
    parseSeparator, if_true, hdayDigits, ofDay, dif_pos date.isDay]

/-- What follows the year is no week date. -/
theorem parseAfterYear_eq :
    parseAfterYear date.year ('-' :: (twoDigits date.month ++ '-' :: twoDigits date.day)) =
      parseMonthDay date.year true (twoDigits date.month ++ '-' :: twoDigits date.day) := by
  obtain ⟨-, hmonth, -⟩ := date.bounds
  rw [parseAfterYear]
  intro rest hweek
  exact (digitChar_value (date.month / 10) (by omega)).2.2.1 (List.cons.inj hweek).1

/-- A date is read back. -/
theorem fromIsoFormat_isoFormat : fromIsoFormat date.isoFormat = some date := by
  obtain ⟨hyear, -, -⟩ := date.bounds
  have hfour : (0 * 100 + date.year / 100) * 100 + date.year % 100 = date.year := by omega
  rw [fromIsoFormat, isoFormat, String.toList_ofList, List.append_assoc, List.append_assoc,
    parseDigits_twoDigits (by omega), parseDigits_twoDigits (by omega), hfour, parseDigits]
  exact date.parseAfterYear_eq.trans date.parseMonthDay_eq

/-- The form of a date has no whitespace. -/
theorem strip_isoFormat : strip date.isoFormat = date.isoFormat := by
  obtain ⟨hyear, hmonth, hday⟩ := date.bounds
  refine strip_eq_self (List.all_eq_true.mpr fun c hc ↦ ?_)
  have hspace : isSpace c = false := by
    rw [isoFormat, String.toList_ofList] at hc
    simp only [List.mem_append, List.mem_cons, List.cons_append, List.append_assoc] at hc
    rcases hc with hc | hc | rfl | hc | rfl | hc
    · exact not_space_of_mem_twoDigits (by omega) c hc
    · exact not_space_of_mem_twoDigits (by omega) c hc
    · decide
    · exact not_space_of_mem_twoDigits hmonth c hc
    · decide
    · exact not_space_of_mem_twoDigits hday c hc
  rw [hspace]
  rfl

theorem isoFormat_ne_empty : date.isoFormat ≠ "" := by
  intro hempty
  have hlength := congrArg (fun s ↦ s.toList.length) hempty
  simp [isoFormat, twoDigits] at hlength

end Date

example : (fromIsoFormat "2025-W01-1").map Date.isoFormat = some "2024-12-30" := by decide +kernel

end N0te.Library
