/-
# `AskLake.Schedule.NextRun` — the next run of a schedule label

`next_scheduled_run_utc_for_schedule` reads a label, takes the first whole minute after `now` in
local time as the earliest one, and computes a candidate by the shape of the label.  Local times
are minutes, instants are microseconds:

    매시간 15분           hourly, at the minute
    매일 09:00            daily
    매주 월요일 09:00     weekly
    매월 1일 09:00        monthly
    커스텀: 0 10 * * 1-5  a cron expression

Three things go wrong on the way to the candidate: a start date after the earliest day is
handed to `datetime.combine` under a keyword that it does not have, day 0 of a month is handed to
`replace`, and the search for a cron expression begins after the earliest minute.

The text of the answer (`isoformat`) is left out: the answer is the instant, and `none` is `""`.
-/
import AskLake.Python.Value
import AskLake.Schedule.Cron

namespace AskLake.Schedule

open AskLake.Lib AskLake.Python

/-! ## Labels -/

inductive ScheduleShape
  | hourly (minute : Nat)
  | daily (hour minute : Nat)
  | weekly (weekday : Int) (hour minute : Nat)
  | monthly (day hour minute : Nat)
  | custom (expression : Chars)

/-- A literal at the start of the text. -/
def literal (text : String) (cs : Chars) : Option Chars :=
  if text.toList.isPrefixOf cs then some (cs.drop text.toList.length) else none

/-- `\s+` -/
def someSpaces : Chars → Option Chars
  | c :: cs => if isSpace c then some (cs.dropWhile isSpace) else none
  | [] => none

/-- `\d{…}` before something that is no digit: the number, and how many digits it has. -/
def number (lengths : List Nat) (cs : Chars) : Option (Nat × Chars) :=
  let digits := cs.takeWhile Char.isDigit
  if digits.length ∈ lengths then
    some (digits.foldl (fun acc c => 10 * acc + digitValue c) 0, cs.dropWhile Char.isDigit)
  else none

/-- `(\d{1,2}):(\d{2})$` -/
def clockTime (cs : Chars) : Option (Nat × Nat) := do
  let (hour, cs) ← number [1, 2] cs
  let cs ← literal ":" cs
  let (minute, cs) ← number [2] cs
  if cs = [] then some (hour, minute) else none

/-- `SCHEDULE_WEEKDAY_VALUES` -/
def weekdayValue (c : Char) : Option Int :=
  [('월', 0), ('화', 1), ('수', 2), ('목', 3), ('금', 4), ('토', 5), ('일', 6)].lookup c

def hourlyMatch (label : Chars) : Option ScheduleShape := do
  let cs ← someSpaces (← literal "매시간" label)
  let (minute, cs) ← number [1, 2] cs
  if cs = "분".toList then some (.hourly minute) else none

def dailyMatch (label : Chars) : Option ScheduleShape := do
  let (hour, minute) ← clockTime (← someSpaces (← literal "매일" label))
  some (.daily hour minute)

def weeklyMatch (label : Chars) : Option ScheduleShape := do
  let cs ← someSpaces (← literal "매주" label)
  let weekday ← cs.head?.bind weekdayValue
  let (hour, minute) ← clockTime (← someSpaces (← literal "요일" cs.tail))
  some (.weekly weekday hour minute)

def monthlyMatch (label : Chars) : Option ScheduleShape := do
  let (day, cs) ← number [1, 2] (← someSpaces (← literal "매월" label))
  let (hour, minute) ← clockTime (← someSpaces (← literal "일" cs))
  some (.monthly day hour minute)

def customMatch (label : Chars) : Option ScheduleShape := do
  let cs := (← literal "커스텀:" label).dropWhile isSpace
  if cs = [] ∨ '\n' ∈ cs then none else some (.custom (stripChars cs))

def scheduleShape (label : Chars) : Option ScheduleShape :=
  hourlyMatch label <|> dailyMatch label <|> weeklyMatch label <|> monthlyMatch label <|>
    customMatch label

def hasScheduledLabel (host : Host) (scheduleLabel : String) : Bool :=
  let schedule := host.lower (strip scheduleLabel)
  schedule != "" && schedule != "-" &&
    !(["manual", "수동", "스케줄 없음", "건너뛰기"].any fun token => contains token schedule)

/-! ## `next_scheduled_run_utc_for_schedule` -/

structure ScheduleRequest where
  schedule : String
  /-- The offset of the time zone from UTC. -/
  utcOffset : Int
  startDate : Option String
  endDate : Option String
  /-- The instant of the call. -/
  now : Int

inductive ScheduleError
  /-- `datetime.combine() got an unexpected keyword argument 'timezone'` -/
  | unexpectedKeyword
  /-- `day is out of range for month` -/
  | dayOutOfRange
  deriving DecidableEq

section

variable (host : Host) (strptime : String → Option Int) (request : ScheduleRequest)

/-- `datetime.strptime(text, "%Y-%m-%d").date()` of a text that is there -/
def readDate : Option String → Option (Option Int)
  | none => some none
  | some text => if text = "" then some none else (strptime text).map some

/-- The boundaries of the dates; none, where one of the texts is no date. -/
def boundaries : Option Int × Option Int :=
  match readDate strptime request.startDate, readDate strptime request.endDate with
  | some startBoundary, some endBoundary => (startBoundary, endBoundary)
  | _, _ => (none, none)

/-- The first whole minute after `now`, in local time. -/
def earliest : Int := (request.now + request.utcOffset) / minuteLength + 1

/-- `while candidate < earliest: candidate += timedelta(hours=1)` -/
def hourlyLoop (first candidate : Int) : Int :=
  if candidate < first then hourlyLoop first (candidate + 60) else candidate
termination_by (first - candidate).toNat
decreasing_by omega

/-- The minutes of a clock time, clamped. -/
def timeOfDay (hour minute : Nat) : Int := 60 * (min 23 hour : Nat) + (min 59 minute : Nat)

/-- The loop over the months; `candidate` is the last one that was computed. -/
def monthlyLoop (first day time : Int) : Nat → Int → Nat → Option Int → Option Int
  | 0, _, _, candidate => candidate
  | left + 1, year, month, candidate =>
      if day ≤ Calendar.monthLength year month then
        let candidate := Calendar.ordinal year month day * 1440 + time
        if first ≤ candidate then some candidate
        else
          monthlyLoop first day time left (Calendar.nextMonth year month).1
            (Calendar.nextMonth year month).2 (some candidate)
      else
        monthlyLoop first day time left (Calendar.nextMonth year month).1
          (Calendar.nextMonth year month).2 candidate

/-- The candidate of a shape. -/
def candidateOf (first : Int) : Option ScheduleShape → Except ScheduleError (Option Int)
  | some (.hourly minute) =>
      .ok (some (hourlyLoop first (first - first % 60 + (min 59 minute : Nat))))
  | some (.daily hour minute) =>
      let candidate := dayNumber first * 1440 + timeOfDay hour minute
      .ok (some (if candidate < first then candidate + 1440 else candidate))
  | some (.weekly weekday hour minute) =>
      let daysAhead := (weekday - Calendar.weekday (dayNumber first)) % 7
      let candidate := (dayNumber first + daysAhead) * 1440 + timeOfDay hour minute
      .ok (some (if candidate < first then candidate + 7 * 1440 else candidate))
  | some (.monthly day hour minute) =>
      -- The first month has the day 0, and `replace` refuses it.
      if day = 0 then .error .dayOutOfRange
      else
        .ok (monthlyLoop first (min 31 day : Nat) (timeOfDay hour minute) 24
          (Calendar.yearOf (dayNumber first)) (Calendar.monthOf (dayNumber first)) none)
  | some (.custom expression) => .ok (nextCustomCronLocal expression (first * minuteLength))
  | none => .ok none

/-- `next_scheduled_run_utc_for_schedule` -/
def nextScheduledRunUtc : Except ScheduleError (Option Int) := do
  let label := strip request.schedule
  if !hasScheduledLabel host label then .ok none
  else
    let first := earliest request
    let (startBoundary, endBoundary) := boundaries strptime request
    if startBoundary.any fun day => dayNumber first < day then .error .unexpectedKeyword
    else
      let candidate ← candidateOf first (scheduleShape label.toList)
      .ok (candidate.bind fun time =>
        if endBoundary.any fun day => dayNumber time > day then none
        else some (time * minuteLength - request.utcOffset))

/-! ## What the label asks for -/

/-- A local time that a label names. -/
def ShapeMatches (time : Int) : Option ScheduleShape → Prop
  | some (.hourly minute) => minuteOf time = (min 59 minute : Nat)
  | some (.daily hour minute) =>
      hourOf time = (min 23 hour : Nat) ∧ minuteOf time = (min 59 minute : Nat)
  | some (.weekly weekday hour minute) =>
      Calendar.weekday (dayNumber time) = weekday ∧
        hourOf time = (min 23 hour : Nat) ∧ minuteOf time = (min 59 minute : Nat)
  | some (.monthly day hour minute) =>
      Calendar.dayOf (dayNumber time) = (min 31 day : Nat) ∧
        hourOf time = (min 23 hour : Nat) ∧ minuteOf time = (min 59 minute : Nat)
  | some (.custom expression) =>
      (words expression).length = 5 ∧ cronMatches time (words expression) = true
  | none => False

/-- A label names a time where it is no label that switches the schedule off. -/
def LabelMatches (time : Int) : Prop :=
  hasScheduledLabel host (strip request.schedule) = true ∧
    ShapeMatches time (scheduleShape (strip request.schedule).toList)

/-- A whole minute after `now` that the label names, within the dates. -/
structure Eligible (time : Int) : Prop where
  matched : LabelMatches host request time
  after : request.now < time * minuteLength - request.utcOffset
  notBefore : ∀ day, (boundaries strptime request).1 = some day → day ≤ dayNumber time
  notAfter : ∀ day, (boundaries strptime request).2 = some day → dayNumber time ≤ day

/-- Two years, one of them a leap year. -/
def twoYears : Int := 731 * 1440 * minuteLength

/-- The answer is the least eligible minute, or none where no minute is eligible for two years. -/
def AnswerRight : Option Int → Prop
  | some utc => ∃ time, utc = time * minuteLength - request.utcOffset ∧
      Eligible host strptime request time ∧ ∀ t, Eligible host strptime request t → time ≤ t
  | none => ∀ t, Eligible host strptime request t →
      request.now + twoYears < t * minuteLength - request.utcOffset

/-- The call does not raise, and its answer is right. -/
def NextRunRight : Prop :=
  ∃ answer, nextScheduledRunUtc host strptime request = .ok answer ∧
    AnswerRight host strptime request answer

/-- The start date is not after the day of the earliest minute, the day of a monthly label is not
0, and the earliest minute itself is no run of a cron expression. -/
def SearchStartsRight : Prop :=
  hasScheduledLabel host (strip request.schedule) = true →
    (∀ day, (boundaries strptime request).1 = some day → day ≤ dayNumber (earliest request)) ∧
      match scheduleShape (strip request.schedule).toList with
      | some (.monthly day _ _) => day ≠ 0
      | some (.custom expression) =>
          (words expression).length = 5 → cronMatches (earliest request) (words expression) = true →
            ∃ day, (boundaries strptime request).2 = some day ∧ day < dayNumber (earliest request)
      | _ => True

end

/-! ## One candidate for each shape -/

/-- The least time from `first` on that the shape names. -/
structure LeastFrom (first : Int) (shape : Option ScheduleShape) (time : Int) : Prop where
  le : first ≤ time
  named : ShapeMatches time shape
  least : ∀ t, first ≤ t → ShapeMatches t shape → time ≤ t

theorem timeOfDay_bounds (hour minute : Nat) :
    0 ≤ timeOfDay hour minute ∧ timeOfDay hour minute < 1440 := by
  unfold timeOfDay
  omega

/-- A clock time is what is left of a time beside its day. -/
theorem clock_iff {time : Int} {hour minute : Nat} :
    hourOf time = (min 23 hour : Nat) ∧ minuteOf time = (min 59 minute : Nat) ↔
      time = dayNumber time * 1440 + timeOfDay hour minute := by
  unfold hourOf minuteOf dayNumber timeOfDay
  omega

theorem dayNumber_add {day time : Int} (h₀ : 0 ≤ time) (h : time < 1440) :
    dayNumber (day * 1440 + time) = day := by
  unfold dayNumber
  omega

theorem dayNumber_mono {a b : Int} (h : a ≤ b) : dayNumber a ≤ dayNumber b := by
  unfold dayNumber
  omega

/-- The loop stops at the first time of its hour steps that is not before `first`. -/
theorem hourlyLoop_spec (first candidate : Int) (h : candidate < first + 60) :
    first ≤ hourlyLoop first candidate ∧ hourlyLoop first candidate < first + 60 ∧
      hourlyLoop first candidate % 60 = candidate % 60 := by
  induction candidate using hourlyLoop.induct first with
  | case1 candidate hlt ih =>
      rw [hourlyLoop, if_pos hlt]
      obtain ⟨h₁, h₂, h₃⟩ := ih (by omega)
      exact ⟨h₁, h₂, by omega⟩
  | case2 candidate hge =>
      rw [hourlyLoop, if_neg hge]
      exact ⟨Int.not_lt.mp hge, h, rfl⟩

theorem hourly_least (first : Int) (minute : Nat) :
    LeastFrom first (some (.hourly minute))
      (hourlyLoop first (first - first % 60 + (min 59 minute : Nat))) := by
  obtain ⟨hle, hlt, hmod⟩ :=
    hourlyLoop_spec first (first - first % 60 + (min 59 minute : Nat)) (by omega)
  generalize hourlyLoop first (first - first % 60 + (min 59 minute : Nat)) = time at *
  refine ⟨hle, ?_, fun t ht hnamed => ?_⟩
  · show time % 60 = _
    omega
  · have : t % 60 = (min 59 minute : Nat) := hnamed
    omega

theorem daily_least (first : Int) (hour minute : Nat) :
    LeastFrom first (some (.daily hour minute))
      (if dayNumber first * 1440 + timeOfDay hour minute < first then
        dayNumber first * 1440 + timeOfDay hour minute + 1440
      else dayNumber first * 1440 + timeOfDay hour minute) := by
  obtain ⟨hclock₀, hclock⟩ := timeOfDay_bounds hour minute
  have hnamed : ∀ day, ShapeMatches (day * 1440 + timeOfDay hour minute)
      (some (.daily hour minute)) := fun day =>
    clock_iff.mpr (by rw [dayNumber_add hclock₀ hclock])
  have hday : dayNumber first * 1440 ≤ first ∧ first < dayNumber first * 1440 + 1440 := by
    unfold dayNumber
    omega
  split
  · refine ⟨by omega, ?_, fun t ht hmatch => ?_⟩
    · rw [(by omega : dayNumber first * 1440 + timeOfDay hour minute + 1440 =
        (dayNumber first + 1) * 1440 + timeOfDay hour minute)]
      exact hnamed _
    · have ht' := clock_iff.mp hmatch
      omega
  · refine ⟨by omega, hnamed _, fun t ht hmatch => ?_⟩
    have ht' := clock_iff.mp hmatch
    have := dayNumber_mono ht
    omega

theorem weekly_least (first : Int) {weekday : Int} (hour minute : Nat) (h₀ : 0 ≤ weekday)
    (h₇ : weekday < 7) :
    LeastFrom first (some (.weekly weekday hour minute))
      (if (dayNumber first + (weekday - Calendar.weekday (dayNumber first)) % 7) * 1440 +
          timeOfDay hour minute < first then
        (dayNumber first + (weekday - Calendar.weekday (dayNumber first)) % 7) * 1440 +
          timeOfDay hour minute + 7 * 1440
      else
        (dayNumber first + (weekday - Calendar.weekday (dayNumber first)) % 7) * 1440 +
          timeOfDay hour minute) := by
  obtain ⟨hclock₀, hclock⟩ := timeOfDay_bounds hour minute
  have hday : dayNumber first * 1440 ≤ first ∧ first < dayNumber first * 1440 + 1440 := by
    unfold dayNumber
    omega
  -- `ahead` days later is the first day of that weekday.
  generalize hahead : (weekday - Calendar.weekday (dayNumber first)) % 7 = ahead
  have hweekday : (dayNumber first + ahead) % 7 = weekday ∧ 0 ≤ ahead ∧ ahead < 7 := by
    unfold Calendar.weekday at hahead
    omega
  have hnamed : ∀ day : Int, day % 7 = weekday →
      ShapeMatches (day * 1440 + timeOfDay hour minute) (some (.weekly weekday hour minute)) := by
    intro day h
    refine ⟨?_, clock_iff.mpr ?_⟩
    · rw [dayNumber_add hclock₀ hclock]
      exact h
    · rw [dayNumber_add hclock₀ hclock]
  have hleast : ∀ t, first ≤ t → ShapeMatches t (some (.weekly weekday hour minute)) →
      dayNumber t % 7 = weekday ∧ dayNumber first ≤ dayNumber t ∧
        t = dayNumber t * 1440 + timeOfDay hour minute := fun t ht hmatch =>
    ⟨hmatch.1, dayNumber_mono ht, clock_iff.mp hmatch.2⟩
  split
  · refine ⟨by omega, ?_, fun t ht hmatch => ?_⟩
    · rw [(by omega : (dayNumber first + ahead) * 1440 + timeOfDay hour minute + 7 * 1440 =
        (dayNumber first + ahead + 7) * 1440 + timeOfDay hour minute)]
      exact hnamed _ (by omega)
    · obtain ⟨h₁, h₂, h₃⟩ := hleast t ht hmatch
      omega
  · refine ⟨by omega, hnamed _ hweekday.1, fun t ht hmatch => ?_⟩
    obtain ⟨h₁, h₂, h₃⟩ := hleast t ht hmatch
    omega

/-! ## Months -/

section

variable {first : Int} {day hour minute : Nat} {year : Int} {month : Nat}

/-- No month before this one has a time from `first` on that the label names. -/
def MonthReached (first : Int) (day hour minute : Nat) (year : Int) (month : Nat) : Prop :=
  ∀ t, first ≤ t → ShapeMatches t (some (.monthly day hour minute)) →
    Calendar.start year month ≤ dayNumber t

/-- The day of the label in a month, where the month has it. -/
theorem ordinal_matches (h₁ : 1 ≤ month) (h₂ : month ≤ 12) (hday : 1 ≤ day)
    (hfits : ((min 31 day : Nat) : Int) ≤ Calendar.monthLength year month) :
    ShapeMatches (Calendar.ordinal year month (min 31 day : Nat) * 1440 + timeOfDay hour minute)
      (some (.monthly day hour minute)) := by
  obtain ⟨hclock₀, hclock⟩ := timeOfDay_bounds hour minute
  refine ⟨?_, clock_iff.mpr ?_⟩
  · rw [dayNumber_add hclock₀ hclock,
      @Calendar.dayOf_eq _ year month h₁ h₂ (by unfold Calendar.ordinal; omega)
        (by unfold Calendar.ordinal; omega)]
    unfold Calendar.ordinal
    omega
  · rw [dayNumber_add hclock₀ hclock]

/-- A time that the label names in a month is the label's day in it. -/
theorem eq_ordinal {t : Int} (h₁ : 1 ≤ month) (h₂ : month ≤ 12)
    (ht : ShapeMatches t (some (.monthly day hour minute)))
    (hle : Calendar.start year month ≤ dayNumber t)
    (hlt : dayNumber t < Calendar.start year month + Calendar.monthLength year month) :
    ((min 31 day : Nat) : Int) ≤ Calendar.monthLength year month ∧
      t = Calendar.ordinal year month (min 31 day : Nat) * 1440 + timeOfDay hour minute := by
  obtain ⟨hday, hclock⟩ := ht
  have hclock := clock_iff.mp hclock
  rw [Calendar.dayOf_eq h₁ h₂ hle hlt] at hday
  unfold Calendar.ordinal
  omega

theorem MonthReached.next (h : MonthReached first day hour minute year month) (h₁ : 1 ≤ month)
    (h₂ : month ≤ 12)
    (hpast : ((min 31 day : Nat) : Int) ≤ Calendar.monthLength year month →
      Calendar.ordinal year month (min 31 day : Nat) * 1440 + timeOfDay hour minute < first) :
    MonthReached first day hour minute (Calendar.nextMonth year month).1
      (Calendar.nextMonth year month).2 := by
  intro t ht hmatch
  rw [Calendar.start_nextMonth h₁ h₂]
  refine Int.not_lt.mp fun hlt => ?_
  obtain ⟨hfits, heq⟩ := eq_ordinal h₁ h₂ hmatch (h t ht hmatch) hlt
  have := hpast hfits
  omega

theorem MonthReached.found (h : MonthReached first day hour minute year month) (h₁ : 1 ≤ month)
    (h₂ : month ≤ 12) (hday : 1 ≤ day)
    (hfits : ((min 31 day : Nat) : Int) ≤ Calendar.monthLength year month)
    (hle : first ≤
      Calendar.ordinal year month (min 31 day : Nat) * 1440 + timeOfDay hour minute) :
    LeastFrom first (some (.monthly day hour minute))
      (Calendar.ordinal year month (min 31 day : Nat) * 1440 + timeOfDay hour minute) := by
  refine ⟨hle, ordinal_matches h₁ h₂ hday hfits, fun t ht hmatch => ?_⟩
  have hstart := h t ht hmatch
  rcases Int.lt_or_le (dayNumber t)
    (Calendar.start year month + Calendar.monthLength year month) with hlt | hge
  · exact Int.le_of_eq (eq_ordinal h₁ h₂ hmatch hstart hlt).2.symm
  · have hclock := clock_iff.mp hmatch.2
    unfold Calendar.ordinal
    omega

/-- A month that the search reaches has the label's day, not before `first`. -/
def MonthFits (first : Int) (day hour minute : Nat) (date : Int × Nat) : Prop :=
  ((min 31 day : Nat) : Int) ≤ Calendar.monthLength date.1 date.2 ∧
    first ≤ Calendar.ordinal date.1 date.2 (min 31 day : Nat) * 1440 + timeOfDay hour minute

/-- The loop finds the least time, where one of its months has the day. -/
theorem monthlyLoop_least (hday : 1 ≤ day) {left : Nat} {candidate : Option Int}
    (h : MonthReached first day hour minute year month) (h₁ : 1 ≤ month) (h₂ : month ≤ 12)
    (hfits : ∃ i < left, MonthFits first day hour minute
      ((fun date => Calendar.nextMonth date.1 date.2)^[i] (year, month))) :
    ∃ time, monthlyLoop first (min 31 day : Nat) (timeOfDay hour minute) left year month
        candidate = some time ∧ LeastFrom first (some (.monthly day hour minute)) time := by
  induction left generalizing year month candidate with
  | zero =>
      obtain ⟨i, hi, -⟩ := hfits
      exact absurd hi (Nat.not_lt_zero i)
  | succ left ih =>
      obtain ⟨hb₁, hb₂⟩ := @Calendar.nextMonth_bounds year month h₁ h₂
      -- Where this month does not have the day, a later one does.
      have hlater : ¬ MonthFits first day hour minute (year, month) →
          ∃ i < left, MonthFits first day hour minute
            ((fun date => Calendar.nextMonth date.1 date.2)^[i] (Calendar.nextMonth year month)) := by
        intro hnot
        obtain ⟨i, hi, hfit⟩ := hfits
        cases i with
        | zero => exact absurd hfit hnot
        | succ i => exact ⟨i, Nat.lt_of_succ_lt_succ hi, hfit⟩
      unfold monthlyLoop
      split
      · rename_i hlength
        dsimp only
        split
        · rename_i hle
          exact ⟨_, rfl, h.found h₁ h₂ hday hlength hle⟩
        · rename_i hlt
          exact ih (h.next h₁ h₂ fun _ => Int.not_le.mp hlt) hb₁ hb₂
            (hlater fun hfit => hlt hfit.2)
      · rename_i hshort
        exact ih (h.next h₁ h₂ fun hlength => absurd hlength hshort) hb₁ hb₂
          (hlater fun hfit => hshort hfit.1)

/-- Of the two months after the one of `first`, one has the day. -/
theorem monthFits_soon (hday : 1 ≤ day) (h₁ : 1 ≤ month) (h₂ : month ≤ 12)
    (hfirst : dayNumber first < Calendar.start year month + Calendar.monthLength year month) :
    ∃ i < 24, MonthFits first day hour minute
      ((fun date => Calendar.nextMonth date.1 date.2)^[i] (year, month)) := by
  obtain ⟨hclock₀, -⟩ := timeOfDay_bounds hour minute
  obtain ⟨hb₁, hb₂⟩ := @Calendar.nextMonth_bounds year month h₁ h₂
  have hstart := @Calendar.start_nextMonth year month h₁ h₂
  generalize hn : Calendar.nextMonth year month = next at *
  have hstart' := @Calendar.start_nextMonth next.1 next.2 hb₁ hb₂
  have hlength := (Calendar.monthLength_bounds next.1 next.2).1
  have hbefore : first < (dayNumber first + 1) * 1440 := by
    unfold dayNumber
    omega
  rcases @Calendar.long_month next.1 next.2 hb₁ hb₂ with hlong | hlong
  · refine ⟨1, by omega, ?_⟩
    show MonthFits first day hour minute (Calendar.nextMonth year month)
    rw [hn]
    refine ⟨by omega, ?_⟩
    unfold Calendar.ordinal
    omega
  · refine ⟨2, by omega, ?_⟩
    show MonthFits first day hour minute
      (Calendar.nextMonth (Calendar.nextMonth year month).1 (Calendar.nextMonth year month).2)
    rw [hn]
    refine ⟨by omega, ?_⟩
    unfold Calendar.ordinal
    omega

end

theorem monthly_least (first : Int) {day : Nat} (hour minute : Nat) (hday : day ≠ 0) :
    ∃ time, monthlyLoop first (min 31 day : Nat) (timeOfDay hour minute) 24
        (Calendar.yearOf (dayNumber first)) (Calendar.monthOf (dayNumber first)) none =
          some time ∧ LeastFrom first (some (.monthly day hour minute)) time := by
  obtain ⟨h₁, h₂, hle, hlt⟩ := Calendar.month_spec (dayNumber first)
  refine monthlyLoop_least (Nat.pos_of_ne_zero hday) (fun t ht _ => ?_) h₁ h₂
    (monthFits_soon (Nat.pos_of_ne_zero hday) h₁ h₂ hlt)
  exact Int.le_trans hle (dayNumber_mono ht)

/-! ## The shapes of a label -/

theorem weekdayValue_bounds {c : Char} {weekday : Int} (h : weekdayValue c = some weekday) :
    0 ≤ weekday ∧ weekday < 7 := by
  obtain ⟨_, _, heq, -⟩ := List.lookup_eq_some_iff.mp h
  have hmem : (c, weekday) ∈ [('월', (0 : Int)), ('화', 1), ('수', 2), ('목', 3), ('금', 4), ('토', 5), ('일', 6)] := by
    rw [heq]
    simp
  simp only [List.mem_cons, List.not_mem_nil, or_false, Prod.mk.injEq] at hmem
  omega

/-- Only `weekly_match` gives a weekday, and one of the week. -/
theorem scheduleShape_weekly {label : Chars} {weekday : Int} {hour minute : Nat}
    (h : scheduleShape label = some (.weekly weekday hour minute)) : 0 ≤ weekday ∧ weekday < 7 := by
  unfold scheduleShape at h
  simp only [Option.orElse_eq_some] at h
  rcases h with h | ⟨-, h | ⟨-, h | ⟨-, h | ⟨-, h⟩⟩⟩⟩
  · unfold hourlyMatch at h
    simp only [Option.bind_eq_bind, Option.bind_eq_some_iff] at h
    obtain ⟨_, _, _, _, _, _, h⟩ := h
    split at h
    · exact nomatch h
    · exact nomatch h
  · unfold dailyMatch at h
    simp [Option.bind_eq_some_iff] at h
  · unfold weeklyMatch at h
    simp only [Option.bind_eq_bind, Option.bind_eq_some_iff, Option.some.injEq,
      ScheduleShape.weekly.injEq] at h
    obtain ⟨_, _, _, _, value, ⟨c, -, hvalue⟩, _, _, _, _, _, _, rfl, -⟩ := h
    exact weekdayValue_bounds hvalue
  · unfold monthlyMatch at h
    simp [Option.bind_eq_some_iff] at h
  · unfold customMatch at h
    simp [Option.bind_eq_some_iff] at h

/-- The shape, in a label that is read, of a weekday is one of the week. -/
def ShapeRead : Option ScheduleShape → Prop
  | some (.weekly weekday _ _) => 0 ≤ weekday ∧ weekday < 7
  | _ => True

theorem shapeRead (label : Chars) : ShapeRead (scheduleShape label) := by
  cases h : scheduleShape label with
  | none => trivial
  | some shape =>
      cases shape with
      | weekly weekday hour minute => exact scheduleShape_weekly h
      | hourly minute => trivial
      | daily hour minute => trivial
      | monthly day hour minute => trivial
      | custom expression => trivial

/-! ## The candidate -/

/-- What `candidateOf` gives: the least time, or nothing for as long as the search for a cron
expression goes. -/
def CandidateRight (first : Int) (shape : Option ScheduleShape) : Prop :=
  ∃ candidate, candidateOf first shape = .ok candidate ∧
    match candidate with
    | some time => LeastFrom first shape time
    | none => ∀ t, first ≤ t → ShapeMatches t shape → first + cronHorizon < t

/-- The search for a cron expression begins after `first`. -/
theorem custom_candidate (first : Int) {expression : Chars}
    (h : (words expression).length = 5) :
    nextCustomCronLocal expression (first * minuteLength) =
      firstFrom (fun time => cronMatches time (words expression)) cronHorizon (first + 1) := by
  rw [nextCustomCronLocal_eq h, Int.mul_ediv_cancel _ (by decide)]

theorem custom_right (first : Int) {expression : Chars}
    (hfirst : (words expression).length = 5 → cronMatches first (words expression) = false) :
    CandidateRight first (some (.custom expression)) := by
  by_cases hlength : (words expression).length = 5
  · refine ⟨nextCustomCronLocal expression (first * minuteLength), rfl, ?_⟩
    -- A matching time from `first` on is after it.
    have hafter : ∀ t, first ≤ t → ShapeMatches t (some (.custom expression)) → first + 1 ≤ t := by
      intro t ht hmatch
      have hne : t ≠ first := fun heq => by
        rw [heq] at hmatch
        exact Bool.false_ne_true ((hfirst hlength).symm.trans hmatch.2)
      omega
    rw [custom_candidate first hlength]
    cases hfound : firstFrom (fun time => cronMatches time (words expression)) cronHorizon
        (first + 1) with
    | some time =>
        obtain ⟨hle, -, hmatch, hbefore⟩ := firstFrom_some hfound
        refine ⟨by omega, ⟨hlength, hmatch⟩, fun t ht hnamed => Int.not_lt.mp fun hlt => ?_⟩
        have hno := hbefore t (hafter t ht hnamed) hlt
        exact Bool.false_ne_true (hno.symm.trans hnamed.2)
    | none =>
        intro t ht hnamed
        refine Int.not_le.mp fun hle => ?_
        have hno := firstFrom_none hfound t (hafter t ht hnamed) (by omega)
        exact Bool.false_ne_true (hno.symm.trans hnamed.2)
  · refine ⟨none, ?_, fun t _ hnamed => absurd hnamed.1 hlength⟩
    exact congrArg Except.ok (if_pos hlength)

/-- Where the search starts right, every shape has its right candidate. -/
theorem candidate_right (first : Int) (label : Chars)
    (h : match scheduleShape label with
      | some (.monthly day _ _) => day ≠ 0
      | some (.custom expression) =>
          (words expression).length = 5 → cronMatches first (words expression) = false
      | _ => True) :
    CandidateRight first (scheduleShape label) := by
  have hread := shapeRead label
  generalize scheduleShape label = shape at h hread
  cases shape with
  | none => exact ⟨none, rfl, fun t _ hnamed => nomatch hnamed⟩
  | some shape =>
      cases shape with
      | hourly minute => exact ⟨_, rfl, hourly_least first minute⟩
      | daily hour minute => exact ⟨_, rfl, daily_least first hour minute⟩
      | weekly weekday hour minute =>
          exact ⟨_, rfl, weekly_least first hour minute hread.1 hread.2⟩
      | monthly day hour minute =>
          obtain ⟨time, htime, hleast⟩ := monthly_least first hour minute h
          exact ⟨some time, (if_neg h).trans (congrArg Except.ok htime), hleast⟩
      | custom expression => exact custom_right first h

/-! ## The next run -/

-- From here on a shape is what `candidate_right` says of it; the parser is not run again.
attribute [irreducible] scheduleShape

section

variable {host : Host} {strptime : String → Option Int} {request : ScheduleRequest}

/-- The minutes after `now` are those from the earliest one on. -/
theorem after_iff {time : Int} :
    request.now < time * minuteLength - request.utcOffset ↔ earliest request ≤ time := by
  unfold earliest minuteLength
  omega

theorem any_day {p : Int → Prop} [DecidablePred p] {boundary : Option Int} :
    (boundary.any fun day => decide (p day)) = true ↔ ∃ day, boundary = some day ∧ p day := by
  cases boundary with
  | none => exact ⟨fun h => (Bool.false_ne_true h).elim, fun ⟨_, h, _⟩ => nomatch h⟩
  | some day => exact decide_eq_true_iff.trans ⟨fun h => ⟨day, rfl, h⟩, by rintro ⟨_, ⟨⟩, h⟩; exact h⟩

theorem nextScheduledRunUtc_off (h : hasScheduledLabel host (strip request.schedule) = false) :
    nextScheduledRunUtc host strptime request = .ok none := by
  unfold nextScheduledRunUtc
  dsimp only
  rw [h]
  rfl

/-- A start date after the earliest day goes to `datetime.combine`. -/
theorem nextScheduledRunUtc_late (h : hasScheduledLabel host (strip request.schedule) = true)
    {day : Int} (hstart : (boundaries strptime request).1 = some day)
    (hday : dayNumber (earliest request) < day) :
    nextScheduledRunUtc host strptime request = .error .unexpectedKeyword := by
  unfold nextScheduledRunUtc
  dsimp only
  rw [h]
  exact if_pos (any_day.mpr ⟨day, hstart, hday⟩)

/-- What the end date leaves of a candidate. -/
def answerOf (strptime : String → Option Int) (request : ScheduleRequest) :
    Option Int → Option Int
  | none => none
  | some time =>
      if (boundaries strptime request).2.any fun day => dayNumber time > day then none
      else some (time * minuteLength - request.utcOffset)

theorem nextScheduledRunUtc_eq (h : hasScheduledLabel host (strip request.schedule) = true)
    (hstart : ∀ day, (boundaries strptime request).1 = some day →
      day ≤ dayNumber (earliest request)) :
    nextScheduledRunUtc host strptime request =
      (candidateOf (earliest request) (scheduleShape (strip request.schedule).toList)).map
        (answerOf strptime request) := by
  have hnot : ¬ ((boundaries strptime request).1.any fun day =>
      decide (dayNumber (earliest request) < day)) = true := by
    intro hlate
    obtain ⟨day, hday, hlt⟩ := any_day.mp hlate
    have := hstart day hday
    omega
  unfold nextScheduledRunUtc
  dsimp only
  rw [h]
  refine (if_neg hnot).trans ?_
  cases candidateOf (earliest request) (scheduleShape (strip request.schedule).toList) with
  | error e => rfl
  | ok candidate =>
      cases candidate with
      | none => rfl
      | some time => rfl

/-- An eligible time is one from the earliest minute on. -/
theorem Eligible.earliest_le {time : Int} (h : Eligible host strptime request time) :
    earliest request ≤ time := after_iff.mp h.after

theorem eligible_of_earliest_le {time : Int}
    (hlabel : hasScheduledLabel host (strip request.schedule) = true)
    (hstart : ∀ day, (boundaries strptime request).1 = some day →
      day ≤ dayNumber (earliest request))
    (hle : earliest request ≤ time)
    (hmatch : ShapeMatches time (scheduleShape (strip request.schedule).toList))
    (hend : ∀ day, (boundaries strptime request).2 = some day → dayNumber time ≤ day) :
    Eligible host strptime request time :=
  ⟨⟨hlabel, hmatch⟩, after_iff.mpr hle,
    fun day hday => Int.le_trans (hstart day hday) (dayNumber_mono hle), hend⟩

theorem answerOf_none {time : Int} :
    answerOf strptime request (some time) = none ↔
      ∃ day, (boundaries strptime request).2 = some day ∧ day < dayNumber time := by
  unfold answerOf
  dsimp only
  refine Iff.trans ?_ (@any_day (fun day => day < dayNumber time) _ _)
  constructor
  · intro h
    split at h
    · assumption
    · exact nomatch h
  · exact fun h => if_pos h

theorem answerOf_some {time utc : Int} (h : answerOf strptime request (some time) = some utc) :
    utc = time * minuteLength - request.utcOffset := by
  unfold answerOf at h
  dsimp only at h
  split at h
  · exact nomatch h
  · exact (Option.some.inj h).symm

/-- The search for a cron expression goes on for two years. -/
theorem horizon_long {t : Int} (h : earliest request + cronHorizon < t) :
    request.now + twoYears < t * minuteLength - request.utcOffset := by
  have hhorizon : cronHorizon = 1054080 := rfl
  unfold earliest minuteLength at h
  unfold twoYears minuteLength
  omega
/-- A right candidate gives the right answer. -/
theorem answerOf_right (hlabel : hasScheduledLabel host (strip request.schedule) = true)
    (hstart : ∀ day, (boundaries strptime request).1 = some day →
      day ≤ dayNumber (earliest request))
    (hcandidate : CandidateRight (earliest request)
      (scheduleShape (strip request.schedule).toList)) :
    NextRunRight host strptime request := by
  obtain ⟨candidate, hok, hright⟩ := hcandidate
  refine ⟨answerOf strptime request candidate,
    (nextScheduledRunUtc_eq hlabel hstart).trans (congrArg _ hok), ?_⟩
  cases candidate with
  | none =>
      dsimp only at hright
      intro t ht
      exact horizon_long (hright t ht.earliest_le ht.matched.2)
  | some time =>
      dsimp only at hright
      have hleast : ∀ t, Eligible host strptime request t → time ≤ t := fun t ht =>
        hright.least t ht.earliest_le ht.matched.2
      cases hanswer : answerOf strptime request (some time) with
      | some utc =>
          refine ⟨time, answerOf_some hanswer, ?_, hleast⟩
          refine eligible_of_earliest_le hlabel hstart hright.le hright.named fun day hday => ?_
          refine Int.not_lt.mp fun hlt => ?_
          rw [answerOf_none.mpr ⟨day, hday, hlt⟩] at hanswer
          exact nomatch hanswer
      | none =>
          obtain ⟨day, hday, hlt⟩ := answerOf_none.mp hanswer
          intro t ht
          -- No time from the candidate on is before the end date.
          have hle := dayNumber_mono (hleast t ht)
          have := ht.notAfter day hday
          omega

/-- Nothing is eligible, and nothing is answered, where the end date is before the earliest
day. -/
theorem nextRunRight_of_ended (hlabel : hasScheduledLabel host (strip request.schedule) = true)
    (hstart : ∀ day, (boundaries strptime request).1 = some day →
      day ≤ dayNumber (earliest request))
    {day : Int} (hend : (boundaries strptime request).2 = some day)
    (hlt : day < dayNumber (earliest request)) {candidate : Option Int}
    (hok : candidateOf (earliest request) (scheduleShape (strip request.schedule).toList) =
      .ok candidate)
    (hle : ∀ time, candidate = some time → earliest request ≤ time) :
    NextRunRight host strptime request := by
  have hnone : answerOf strptime request candidate = none := by
    cases candidate with
    | none => rfl
    | some time =>
        have hday := dayNumber_mono (hle time rfl)
        exact answerOf_none.mpr ⟨day, hend, by omega⟩
  refine ⟨none, ?_, fun t ht => ?_⟩
  · rw [nextScheduledRunUtc_eq hlabel hstart, hok, Except.map, hnone]
  · have h₁ := ht.notAfter day hend
    have h₂ := dayNumber_mono ht.earliest_le
    omega

/-- Where the search begins after the earliest minute, that minute is not eligible. -/
theorem earliest_not_eligible (hlabel : hasScheduledLabel host (strip request.schedule) = true)
    (hstart : ∀ day, (boundaries strptime request).1 = some day →
      day ≤ dayNumber (earliest request))
    {candidate : Option Int}
    (hok : candidateOf (earliest request) (scheduleShape (strip request.schedule).toList) =
      .ok candidate)
    (hlt : ∀ time, candidate = some time → earliest request < time)
    (hright : NextRunRight host strptime request) :
    ¬ Eligible host strptime request (earliest request) := by
  intro heligible
  obtain ⟨answer, hanswer, hright⟩ := hright
  rw [nextScheduledRunUtc_eq hlabel hstart, hok] at hanswer
  have hanswer : answerOf strptime request candidate = answer := Except.ok.inj hanswer
  cases answer with
  | none =>
      have := hright _ heligible
      unfold twoYears earliest minuteLength at this
      omega
  | some utc =>
      obtain ⟨time, hutc, -, hleast⟩ := hright
      cases candidate with
      | none => exact nomatch hanswer
      | some found =>
          have h₁ := hlt found rfl
          have h₂ := answerOf_some hanswer
          have h₃ := hleast _ heligible
          unfold minuteLength at hutc h₂
          omega

/-- No candidate is before the earliest minute. -/
theorem candidate_le (first : Int) (label : Chars)
    (h : match scheduleShape label with
      | some (.monthly day _ _) => day ≠ 0
      | _ => True) :
    ∃ candidate, candidateOf first (scheduleShape label) = .ok candidate ∧
      ∀ time, candidate = some time → first ≤ time := by
  by_cases hcustom : ∃ expression, scheduleShape label = some (.custom expression)
  · obtain ⟨expression, hshape⟩ := hcustom
    refine ⟨nextCustomCronLocal expression (first * minuteLength), congrArg _ hshape, ?_⟩
    intro time htime
    by_cases hlength : (words expression).length = 5
    · rw [custom_candidate _ hlength] at htime
      have := (firstFrom_some htime).1
      omega
    · rw [nextCustomCronLocal, if_pos hlength] at htime
      exact nomatch htime
  · obtain ⟨candidate, hok, hright⟩ := candidate_right first label (by
      split
      · rename_i hshape
        rw [hshape] at h
        exact h
      · rename_i hshape
        exact absurd ⟨_, hshape⟩ hcustom
      · trivial)
    refine ⟨candidate, hok, ?_⟩
    rintro time rfl
    exact LeastFrom.le hright

/-- The next run is right exactly where the search starts right. -/
theorem next_run_right_iff (host : Host) (strptime : String → Option Int)
    (request : ScheduleRequest) :
    NextRunRight host strptime request ↔ SearchStartsRight host strptime request := by
  constructor
  · intro hright hlabel
    have hstart : ∀ day, (boundaries strptime request).1 = some day →
        day ≤ dayNumber (earliest request) := by
      intro day hday
      refine Int.not_lt.mp fun hlt => ?_
      obtain ⟨answer, hanswer, -⟩ := hright
      rw [nextScheduledRunUtc_late hlabel hday hlt] at hanswer
      exact nomatch hanswer
    refine ⟨hstart, ?_⟩
    split
    · rename_i day hour minute hshape
      rintro rfl
      obtain ⟨answer, hanswer, -⟩ := hright
      rw [nextScheduledRunUtc_eq hlabel hstart, hshape] at hanswer
      exact nomatch hanswer
    · rename_i expression hshape
      intro hlength hmatch
      have hlater : ∀ time, nextCustomCronLocal expression (earliest request * minuteLength) =
          some time → earliest request < time := by
        intro time htime
        rw [custom_candidate _ hlength] at htime
        have := (firstFrom_some htime).1
        omega
      have hnot := earliest_not_eligible hlabel hstart (congrArg _ hshape) hlater hright
      by_cases hend : ∃ day, (boundaries strptime request).2 = some day ∧
          day < dayNumber (earliest request)
      · exact hend
      · refine absurd ?_ hnot
        refine eligible_of_earliest_le hlabel hstart (Int.le_refl _) (hshape ▸ ⟨hlength, hmatch⟩)
          fun day hday => Int.not_lt.mp fun hlt => hend ⟨day, hday, hlt⟩
    · trivial
  · intro hsearch
    cases hlabel : hasScheduledLabel host (strip request.schedule) with
    | false =>
        refine ⟨none, nextScheduledRunUtc_off hlabel, fun t ht => ?_⟩
        exact absurd (ht.matched.1.symm.trans hlabel) (by decide)
    | true =>
        obtain ⟨hstart, hshape⟩ := hsearch hlabel
        by_cases hend : ∃ day, (boundaries strptime request).2 = some day ∧
            day < dayNumber (earliest request)
        · obtain ⟨day, hday, hlt⟩ := hend
          obtain ⟨candidate, hok, hle⟩ := candidate_le (earliest request)
            (strip request.schedule).toList (by
              split
              · rename_i hmonthly
                rw [hmonthly] at hshape
                exact hshape
              · trivial)
          exact nextRunRight_of_ended hlabel hstart hday hlt hok hle
        · refine answerOf_right hlabel hstart (candidate_right _ _ ?_)
          split at hshape
          · assumption
          · intro hlength
            refine Bool.eq_false_iff.mpr fun hmatch => hend (hshape hlength hmatch)
          · trivial

end

/-! ## A start date in the future -/

/-- An interpreter that has the case of ASCII letters only. -/
def asciiHost : Host where
  str := fun _ => ""
  float := fun _ => .refused
  compilePattern := fun _ => .done ()
  lower := asciiLower
  upper := asciiUpper
  lower_ascii := asciiLower_agrees
  upper_ascii := asciiUpper_agrees

/-- `datetime.strptime("2026-08-01", "%Y-%m-%d")` -/
def firstOfAugust (text : String) : Option Int :=
  if text = "2026-08-01" then some (Calendar.ordinal 2026 8 1) else none

/-- Every day at nine in Seoul from August on, asked on the twenty-second of July at midnight
UTC. -/
def fromAugust : ScheduleRequest where
  schedule := "매일 09:00"
  utcOffset := 540 * minuteLength
  startDate := some "2026-08-01"
  endDate := none
  now := Calendar.ordinal 2026 7 22 * 1440 * minuteLength

theorem start_date_raises : ¬ NextRunRight asciiHost firstOfAugust fromAugust := by
  rintro ⟨answer, hanswer, -⟩
  have hstart : (boundaries firstOfAugust fromAugust).1 = some (Calendar.ordinal 2026 8 1) := by
    decide +kernel
  have hlabel : hasScheduledLabel asciiHost (strip fromAugust.schedule) = true := by
    decide +kernel
  rw [nextScheduledRunUtc_late hlabel hstart (by decide +kernel)] at hanswer
  exact nomatch hanswer

end AskLake.Schedule
