import ChatLog.Time.Stored

/-!
The calendar. Every day has one date, from which the day is told again, and every date of the
calendar is that of one day. Later days have later dates: first the year tells, then the month, then
the day of the month.
-/
namespace ChatLog.Date

def yearLength (year : Int) : Nat :=
  if isLeap year then 366 else 365

/-- Whether a date comes before another, by the year, then the month, then the day. -/
def Before (first second : Date) : Prop :=
  first.year < second.year ∨ first.year = second.year ∧
    (first.month < second.month ∨ first.month = second.month ∧ first.day < second.day)

theorem isLeap_iff (year : Int) :
    isLeap year = true ↔ year % 4 = 0 ∧ (year % 100 ≠ 0 ∨ year % 400 = 0) := by
  simp [isLeap]

theorem daysBeforeYear_mono {first second : Int} (before : first < second) :
    daysBeforeYear first + yearLength first ≤ daysBeforeYear second := by
  have leap := isLeap_iff first
  unfold daysBeforeYear yearLength
  split <;> simp_all <;> omega

/-- Years are counted in fours, the fours in centuries, and the centuries in spans of four. -/
theorem daysBeforeYear_parts (span : Int) {century four single : Int}
    (centuries : 0 ≤ century ∧ century ≤ 3) (fours : 0 ≤ four ∧ four ≤ 24)
    (singles : 0 ≤ single ∧ single ≤ 3) :
    let year := 400 * span + 100 * century + 4 * four + single + 1
    daysBeforeYear year = 146097 * span + 36524 * century + 1461 * four + 365 * single ∧
      (isLeap year = true ↔ single = 3 ∧ (four = 24 → century = 3)) := by
  intro year
  simp only [daysBeforeYear, isLeap_iff, year]
  omega

/-- The parts of the year of a day; only a leap year has a day after its 365th. -/
theorem yearAndDay_parts (days : Int) :
    ∃ span century four single : Int, ∃ inYear : Nat,
      yearAndDay days = (400 * span + 100 * century + 4 * four + single + 1, inYear) ∧
      (0 ≤ century ∧ century ≤ 3) ∧ (0 ≤ four ∧ four ≤ 24) ∧ (0 ≤ single ∧ single ≤ 3) ∧
      146097 * span + 36524 * century + 1461 * four + 365 * single + inYear = days ∧
      (inYear < 365 ∨ inYear = 365 ∧ single = 3 ∧ (four = 24 → century = 3)) := by
  refine ⟨_, _, _, _, _, rfl, ?_⟩
  omega

/-- A day is told by its year and the days of that year before it. -/
theorem yearAndDay_spec (days : Int) :
    daysBeforeYear (yearAndDay days).1 + (yearAndDay days).2 = days ∧
      (yearAndDay days).2 < yearLength (yearAndDay days).1 := by
  obtain ⟨span, century, four, single, inYear, parts, centuries, fours, singles, told, inside⟩ :=
    yearAndDay_parts days
  obtain ⟨before, leap⟩ := daysBeforeYear_parts span centuries fours singles
  rw [parts, yearLength, before]
  split
  · omega
  · rename_i short
    rw [leap] at short
    omega

/-- A day of a year is told only by that year. -/
theorem yearAndDay_eq {year : Int} {inYear : Nat} (inside : inYear < yearLength year) :
    yearAndDay (daysBeforeYear year + inYear) = (year, inYear) := by
  obtain ⟨told, within⟩ := yearAndDay_spec (daysBeforeYear year + inYear)
  rcases Int.lt_trichotomy (yearAndDay (daysBeforeYear year + inYear)).1 year with
    less | same | greater
  · have later := daysBeforeYear_mono less
    omega
  · rw [same] at told
    exact Prod.ext same (by omega)
  · have later := daysBeforeYear_mono greater
    omega

theorem yearAndDay_mono {first second : Int} (before : first < second) :
    (yearAndDay first).1 < (yearAndDay second).1 ∨
      (yearAndDay first).1 = (yearAndDay second).1 ∧
        (yearAndDay first).2 < (yearAndDay second).2 := by
  obtain ⟨_, inside⟩ := yearAndDay_spec first
  obtain ⟨_, within⟩ := yearAndDay_spec second
  rcases Int.lt_trichotomy (yearAndDay first).1 (yearAndDay second).1 with less | same | greater
  · exact Or.inl less
  · have years := congrArg daysBeforeYear same
    omega
  · have later := daysBeforeYear_mono greater
    omega

theorem foldl_add (start : Nat) (lengths : List Nat) :
    lengths.foldl Nat.add start = start + lengths.foldl Nat.add 0 := by
  induction lengths generalizing start with
  | nil => rfl
  | cons length lengths ih =>
    rw [List.foldl_cons, List.foldl_cons, ih, ih (Nat.add 0 length)]
    simp only [Nat.add_eq]
    omega

theorem foldl_add_cons (length : Nat) (lengths : List Nat) :
    (length :: lengths).foldl Nat.add 0 = length + lengths.foldl Nat.add 0 := by
  rw [List.foldl_cons, foldl_add, Nat.add_eq, Nat.zero_add]

theorem le_monthAndDay (month day : Nat) (lengths : List Nat) :
    month ≤ (monthAndDay month day lengths).1 := by
  induction lengths generalizing month day with
  | nil => exact Nat.le_refl month
  | cons length lengths ih =>
    rw [monthAndDay]
    split
    · exact Nat.le_refl month
    · exact Nat.le_of_succ_le (ih (month + 1) (day - length))

theorem monthAndDay_spec (month : Nat) {day : Nat} {lengths : List Nat}
    (inside : day < lengths.foldl Nat.add 0) :
    ∃ past length, lengths[past]? = some length ∧
      (monthAndDay month day lengths).1 = month + past ∧
      1 ≤ (monthAndDay month day lengths).2 ∧ (monthAndDay month day lengths).2 ≤ length ∧
      (lengths.take past).foldl Nat.add 0 + (monthAndDay month day lengths).2 = day + 1 := by
  induction lengths generalizing month day with
  | nil => cases inside
  | cons first lengths ih =>
    rw [monthAndDay]
    split
    · rename_i within
      exact ⟨0, first, rfl, rfl, by simp, within, by simp⟩
    · rename_i beyond
      rw [foldl_add_cons] at inside
      have later : day - first < lengths.foldl Nat.add 0 := by omega
      obtain ⟨past, length, found, counted, atLeast, atMost, told⟩ := ih (month + 1) later
      refine ⟨past + 1, length, found, by rw [counted]; omega, atLeast, atMost, ?_⟩
      rw [List.take_succ_cons, foldl_add_cons]
      omega

/-- A day of a month is told from the days up to it. -/
theorem monthAndDay_eq (month : Nat) {past length day : Nat} {lengths : List Nat}
    (found : lengths[past]? = some length) (first : 1 ≤ day) (last : day ≤ length) :
    (lengths.take past).foldl Nat.add 0 + day ≤ lengths.foldl Nat.add 0 ∧
      monthAndDay month ((lengths.take past).foldl Nat.add 0 + day - 1) lengths =
        (month + past, day) := by
  induction lengths generalizing month past with
  | nil => cases found
  | cons head lengths ih =>
    rw [foldl_add_cons, monthAndDay]
    cases past with
    | zero =>
      cases found
      rw [List.take_zero, List.foldl_nil, if_pos (by omega)]
      exact ⟨by omega, Prod.ext rfl (by simp only; omega)⟩
    | succ past =>
      obtain ⟨fits, told⟩ := ih (month + 1) found
      rw [List.take_succ_cons, foldl_add_cons, if_neg (by omega), Nat.add_assoc,
        Nat.add_sub_assoc (by omega), Nat.add_sub_cancel_left, told]
      exact ⟨by omega, Prod.ext (by simp only; omega) rfl⟩

theorem monthAndDay_mono (month : Nat) {day later : Nat} (before : day < later)
    (lengths : List Nat) :
    (monthAndDay month day lengths).1 < (monthAndDay month later lengths).1 ∨
      (monthAndDay month day lengths).1 = (monthAndDay month later lengths).1 ∧
        (monthAndDay month day lengths).2 < (monthAndDay month later lengths).2 := by
  induction lengths generalizing month day later with
  | nil => exact Or.inr ⟨rfl, Nat.succ_lt_succ before⟩
  | cons length lengths ih =>
    rw [monthAndDay, monthAndDay]
    by_cases within : day < length
    · rw [if_pos within]
      by_cases behind : later < length
      · rw [if_pos behind]
        exact Or.inr ⟨rfl, Nat.succ_lt_succ before⟩
      · rw [if_neg behind]
        exact Or.inl (le_monthAndDay (month + 1) (later - length) lengths)
    · rw [if_neg within, if_neg (by omega)]
      exact ih (month + 1) (by omega)

theorem foldl_monthLengths (year : Int) :
    (monthLengths (isLeap year)).foldl Nat.add 0 = yearLength year := by
  unfold yearLength
  cases isLeap year <;> rfl

theorem ofDays_eq (days : Int) :
    ofDays days = ⟨(yearAndDay days).1,
      (monthAndDay 1 (yearAndDay days).2 (monthLengths (isLeap (yearAndDay days).1))).1,
      (monthAndDay 1 (yearAndDay days).2 (monthLengths (isLeap (yearAndDay days).1))).2⟩ := rfl

theorem ofDays_before {first second : Int} (before : first < second) :
    (ofDays first).Before (ofDays second) := by
  rw [ofDays_eq, ofDays_eq]
  rcases yearAndDay_mono before with less | ⟨same, less⟩
  · exact Or.inl less
  · rw [same]
    exact Or.inr ⟨rfl, monthAndDay_mono 1 less _⟩

/-- The date of a day is one of the calendar, and the day is told from it. -/
theorem ofDays_spec (days : Int) :
    (ofDays days).toDays = days ∧ Instant.isDate (ofDays days) = true := by
  obtain ⟨told, inside⟩ := yearAndDay_spec days
  rw [← foldl_monthLengths] at inside
  obtain ⟨past, length, found, month, first, last, day⟩ := monthAndDay_spec 1 inside
  rw [ofDays_eq]
  constructor
  · simp only [toDays, month, Nat.add_sub_cancel_left]
    omega
  · simp only [Instant.isDate, month, Nat.add_sub_cancel_left, found]
    simp [first, last]

theorem isDate_iff {date : Date} :
    Instant.isDate date = true ↔ ∃ length, (monthLengths (isLeap date.year))[date.month - 1]? =
      some length ∧ 1 ≤ date.month ∧ 1 ≤ date.day ∧ date.day ≤ length := by
  unfold Instant.isDate
  cases (monthLengths (isLeap date.year))[date.month - 1]? <;> simp [and_assoc]

/-- A date of the calendar is the date of its day. -/
theorem ofDays_toDays {date : Date} (proper : Instant.isDate date = true) :
    ofDays date.toDays = date := by
  obtain ⟨length, found, month, first, last⟩ := isDate_iff.mp proper
  obtain ⟨fits, told⟩ := monthAndDay_eq 1 found first last
  rw [foldl_monthLengths] at fits
  have day : date.toDays = daysBeforeYear date.year +
      (((monthLengths (isLeap date.year)).take (date.month - 1)).foldl Nat.add 0 + date.day - 1 :
        Nat) := by
    simp only [toDays]
    omega
  rw [ofDays_eq, day, yearAndDay_eq (by omega), told,
    show 1 + (date.month - 1) = date.month by omega]

theorem bounds_of_isDate {date : Date} (proper : Instant.isDate date = true) :
    date.month ≤ 12 ∧ date.day ≤ 31 := by
  obtain ⟨length, found, _, _, last⟩ := isDate_iff.mp proper
  have most : ∀ length ∈ monthLengths (isLeap date.year), length ≤ 31 := by
    cases isLeap date.year <;> decide
  have months : (monthLengths (isLeap date.year)).length = 12 := rfl
  have inside := (List.getElem?_eq_some_iff.mp found).1
  have long := most length (List.mem_of_getElem? found)
  omega

end ChatLog.Date
