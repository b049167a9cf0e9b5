/-
# `AskLake.Schedule.Cron` — `cron_matches` and the day rule of cron

A cron expression is five fields, each a comma list of `*`, numbers and ranges with optional
steps.  The text is parsed as the code parses it, and beside that stands what cron means by it
(`CronExpression.Matches`): a time matches when its minute, hour and month are in their fields,
and its day is where

    a day field starts with `*`      both day fields have the day
    none does                        one of them has it

The code asks for both fields where neither is all `*`, and for one of them where the other is
all `*`, so that `cron_matches` follows cron exactly on the times in `DayRuleKept`.
-/
import AskLake.Lib.Calendar
import AskLake.Lib.Search
import AskLake.Python.Url

namespace AskLake.Schedule

open AskLake.Lib AskLake.Python

/-! ## Text -/

/-- `text.partition(sep)`: what stands before the first `sep`, and after it. -/
def cut (sep : Char) : Chars → Chars × Option Chars
  | [] => ([], none)
  | c :: cs => if c = sep then ([], some cs) else (c :: (cut sep cs).1, (cut sep cs).2)

def digitValue (c : Char) : Nat := c.toNat - '0'.toNat

/-- The rest of a numeral; an underscore may stand between two digits. -/
def digitsValue (acc : Nat) : Chars → Option Nat
  | [] => some acc
  | '_' :: c :: cs => if c.isDigit then digitsValue (10 * acc + digitValue c) cs else none
  | c :: cs => if c.isDigit then digitsValue (10 * acc + digitValue c) cs else none

def parseDigits : Chars → Option Nat
  | [] => none
  | c :: cs => if c.isDigit then digitsValue (digitValue c) cs else none

/-- `int(text)`, of ASCII digits -/
def parseInt (text : Chars) : Option Int :=
  match stripChars text with
  | '+' :: cs => (parseDigits cs).map Int.ofNat
  | '-' :: cs => (parseDigits cs).map fun n => -Int.ofNat n
  | cs => (parseDigits cs).map Int.ofNat

/-- `text.split()` -/
def words (text : Chars) : List Chars := (text.splitOnP isSpace).filter (· ≠ [])

/-! ## `parse_cron_field` -/

/-- `range(start, end + 1, step)` -/
def stepRange (first last step : Int) : List Int :=
  (List.range ((last - first) / step + 1).toNat).map fun i : Nat => first + step * i

/-- The bounds that the base of a part stands for. -/
def baseBounds (base : Chars) (minimum maximum : Int) : Option (Int × Int) :=
  if base = ['*'] then some (minimum, maximum)
  else
    match cut '-' base with
    | (startText, some endText) => do
        let first ← parseInt startText
        let last ← parseInt endText
        some (first, last)
    | (_, none) => (parseInt base).map fun n => (n, n)

/-- `int(step_text) if separator else 1` -/
def stepOf : Option Chars → Option Int
  | some text => parseInt text
  | none => some 1

/-- One part of the comma list. -/
def parsePart (minimum maximum : Int) (part : Chars) : Option (List Int) := do
  let token := stripChars part
  if token = [] then none
  else
    let (base, stepText) := cut '/' token
    let step ← stepOf stepText
    if step < 1 then none
    else
      let (first, last) ← baseBounds base minimum maximum
      if first < minimum ∨ last > maximum ∨ first > last then none
      else some (stepRange first last step)

structure CronField where
  values : List Int
  isWildcard : Bool

def parseCronField (expression : Chars) (minimum maximum : Int) : Option CronField := do
  let parts := expression.splitOn ','
  let values ← parts.mapM (parsePart minimum maximum)
  some
    { values := values.flatten
      isWildcard := parts.all fun part => (cut '/' (stripChars part)).1 = ['*'] }

/-! ## Local times -/

/-- A local time by its minutes since the start of the calendar. -/
def dayNumber (time : Int) : Int := time / 1440

def hourOf (time : Int) : Int := time % 1440 / 60

def minuteOf (time : Int) : Int := time % 60

/-- `(local_time.weekday() + 1) % 7`: Sunday is 0. -/
def cronWeekday (time : Int) : Int := (Calendar.weekday (dayNumber time) + 1) % 7

/-- `cron_matches(local_time, fields)` -/
def cronMatches (time : Int) (fields : List Chars) : Bool :=
  match fields with
  | f₀ :: f₁ :: f₂ :: f₃ :: f₄ :: _ =>
      match parseCronField f₀ 0 59, parseCronField f₁ 0 23, parseCronField f₂ 1 31,
          parseCronField f₃ 1 12, parseCronField f₄ 0 7 with
      | some minute, some hour, some dayOfMonth, some month, some dayOfWeek =>
          let weekdayValue := cronWeekday time
          let monthMatches := month.values.contains (Calendar.monthOf (dayNumber time) : Int)
          let dayMatches := dayOfMonth.values.contains (Calendar.dayOf (dayNumber time))
          let weekdayMatches := dayOfWeek.values.contains weekdayValue ||
            (weekdayValue == 0 && dayOfWeek.values.contains 7)
          let dayMatches :=
            if !dayOfMonth.isWildcard && !dayOfWeek.isWildcard then dayMatches && weekdayMatches
            else if dayOfWeek.isWildcard then dayMatches
            else if dayOfMonth.isWildcard then weekdayMatches
            else dayMatches || weekdayMatches
          minute.values.contains (minuteOf time) && hour.values.contains (hourOf time) &&
            monthMatches && dayMatches
      | _, _, _, _, _ => false
  | _ => false

/-- Microseconds of a minute. -/
def minuteLength : Int := 60000000

/-- `366 * 24 * 60 * 2` minutes -/
def cronHorizon : Nat := 366 * 24 * 60 * 2

/-- `next_custom_cron_local(expression, start)`: `start` in microseconds, the answer in minutes. -/
def nextCustomCronLocal (expression : Chars) (start : Int) : Option Int :=
  let fields := words expression
  if fields.length ≠ 5 then none
  else
    let candidate := start / minuteLength
    let candidate := if candidate * minuteLength ≤ start then candidate + 1 else candidate
    firstFrom (fun time => cronMatches time fields) cronHorizon candidate

/-! ## What cron means -/

/-- A number as it is written. -/
structure Numeral where
  digits : Chars
  nonempty : digits ≠ []
  isDigits : ∀ c ∈ digits, c.isDigit = true

def Numeral.value (n : Numeral) : Int :=
  (n.digits.foldl (fun acc c => 10 * acc + digitValue c) 0 : Nat)

inductive CronBase
  | star
  | number (n : Numeral)
  | range (first last : Numeral)

structure CronItem where
  base : CronBase
  step : Option Numeral

namespace CronBase

def text : CronBase → Chars
  | star => ['*']
  | number n => n.digits
  | range first last => first.digits ++ '-' :: last.digits

def bounds (minimum maximum : Int) : CronBase → Int × Int
  | star => (minimum, maximum)
  | number n => (n.value, n.value)
  | range first last => (first.value, last.value)

def isStar : CronBase → Bool
  | star => true
  | _ => false

end CronBase

namespace CronItem

variable (item : CronItem)

def text : Chars :=
  match item.step with
  | some step => item.base.text ++ '/' :: step.digits
  | none => item.base.text

def stepValue : Int :=
  match item.step with
  | some step => step.value
  | none => 1

/-- The numbers of the item are those of its field, and its step goes on. -/
def InRange (minimum maximum : Int) : Prop :=
  1 ≤ item.stepValue ∧ minimum ≤ (item.base.bounds minimum maximum).1 ∧
    (item.base.bounds minimum maximum).2 ≤ maximum ∧
    (item.base.bounds minimum maximum).1 ≤ (item.base.bounds minimum maximum).2

def Holds (minimum maximum value : Int) : Prop :=
  (item.base.bounds minimum maximum).1 ≤ value ∧ value ≤ (item.base.bounds minimum maximum).2 ∧
    (value - (item.base.bounds minimum maximum).1) % item.stepValue = 0

instance (minimum maximum : Int) : Decidable (item.InRange minimum maximum) :=
  inferInstanceAs (Decidable (_ ∧ _))

instance (minimum maximum value : Int) : Decidable (item.Holds minimum maximum value) :=
  inferInstanceAs (Decidable (_ ∧ _))

end CronItem

/-- A comma list. -/
structure CronList where
  head : CronItem
  tail : List CronItem

namespace CronList

variable (field : CronList)

def items : List CronItem := field.head :: field.tail

def text : Chars := [','].intercalate (field.items.map CronItem.text)

def InRange (minimum maximum : Int) : Prop := ∀ item ∈ field.items, item.InRange minimum maximum

def Holds (minimum maximum value : Int) : Prop :=
  ∃ item ∈ field.items, item.Holds minimum maximum value

/-- The text of the field starts with `*`. -/
def startsWithStar : Bool := field.head.base.isStar

/-- Every part of the field is a `*`, with a step or without one. -/
def allStars : Bool := field.items.all fun item => item.base.isStar

instance (minimum maximum : Int) : Decidable (field.InRange minimum maximum) :=
  inferInstanceAs (Decidable (∀ item ∈ field.items, _))

instance (minimum maximum value : Int) : Decidable (field.Holds minimum maximum value) :=
  inferInstanceAs (Decidable (∃ item ∈ field.items, _))

end CronList

structure CronExpression where
  minute : CronList
  hour : CronList
  dayOfMonth : CronList
  month : CronList
  dayOfWeek : CronList

namespace CronExpression

variable (e : CronExpression)

def fields : List Chars :=
  [e.minute.text, e.hour.text, e.dayOfMonth.text, e.month.text, e.dayOfWeek.text]

/-- The fields with a space between them. -/
def text : Chars := [' '].intercalate e.fields

def InRange : Prop :=
  e.minute.InRange 0 59 ∧ e.hour.InRange 0 23 ∧ e.dayOfMonth.InRange 1 31 ∧ e.month.InRange 1 12 ∧
    e.dayOfWeek.InRange 0 7

/-- Minute, hour and month are in their fields. -/
def TimeHolds (time : Int) : Prop :=
  e.minute.Holds 0 59 (minuteOf time) ∧ e.hour.Holds 0 23 (hourOf time) ∧
    e.month.Holds 1 12 (Calendar.monthOf (dayNumber time))

def DayOfMonthHolds (time : Int) : Prop := e.dayOfMonth.Holds 1 31 (Calendar.dayOf (dayNumber time))

/-- 7 and 0 are both Sunday. -/
def DayOfWeekHolds (time : Int) : Prop :=
  e.dayOfWeek.Holds 0 7 (cronWeekday time) ∨ cronWeekday time = 0 ∧ e.dayOfWeek.Holds 0 7 7

/-- What cron means by the expression; a number out of its range is no cron expression, and
matches no time. -/
def Matches (time : Int) : Prop :=
  e.InRange ∧ e.TimeHolds time ∧
    if e.dayOfMonth.startsWithStar || e.dayOfWeek.startsWithStar then
      e.DayOfMonthHolds time ∧ e.DayOfWeekHolds time
    else e.DayOfMonthHolds time ∨ e.DayOfWeekHolds time

/-- The day of a time is one on which the code's rule says what cron's says. -/
def DayRuleKept (time : Int) : Prop :=
  if !e.dayOfMonth.startsWithStar && !e.dayOfWeek.startsWithStar then
    (e.DayOfMonthHolds time ↔ e.DayOfWeekHolds time)
  else if e.dayOfWeek.allStars then e.DayOfMonthHolds time → e.DayOfWeekHolds time
  else if e.dayOfMonth.allStars then e.DayOfWeekHolds time → e.DayOfMonthHolds time
  else True

end CronExpression

/-! ## Parsing a numeral -/

theorem cut_append {sep : Char} {a b : Chars} (h : sep ∉ a) :
    cut sep (a ++ sep :: b) = (a, some b) := by
  induction a with
  | nil => simp [cut]
  | cons c a ih =>
      have hc : c ≠ sep := fun hc => h (hc ▸ List.mem_cons_self)
      rw [List.cons_append, cut, if_neg hc, ih fun hmem => h (List.mem_cons_of_mem _ hmem)]

theorem cut_of_not_mem {sep : Char} {a : Chars} (h : sep ∉ a) : cut sep a = (a, none) := by
  induction a with
  | nil => rfl
  | cons c a ih =>
      have hc : c ≠ sep := fun hc => h (hc ▸ List.mem_cons_self)
      rw [cut, if_neg hc, ih fun hmem => h (List.mem_cons_of_mem _ hmem)]

theorem digitsValue_digits {cs : Chars} (h : ∀ c ∈ cs, c.isDigit = true) (acc : Nat) :
    digitsValue acc cs = some (cs.foldl (fun acc c => 10 * acc + digitValue c) acc) := by
  induction cs generalizing acc with
  | nil => rfl
  | cons c cs ih =>
      have hc := h c List.mem_cons_self
      unfold digitsValue
      split
      · rename_i heq
        exact nomatch heq
      · rename_i heq
        rw [(List.cons_eq_cons.mp heq).1] at hc
        exact nomatch hc
      · rename_i heq
        obtain ⟨rfl, rfl⟩ := List.cons_eq_cons.mp heq
        rw [if_pos hc, ih fun d hd => h d (List.mem_cons_of_mem _ hd)]
        rfl

theorem parseDigits_digits (n : Numeral) : (parseDigits n.digits).map Int.ofNat = some n.value := by
  obtain ⟨digits, hne, hdigits⟩ := n
  cases digits with
  | nil => exact absurd rfl hne
  | cons c cs =>
      unfold parseDigits Numeral.value
      dsimp only
      rw [if_pos (hdigits c List.mem_cons_self),
        digitsValue_digits fun d hd => hdigits d (List.mem_cons_of_mem _ hd)]
      simp

theorem isSpace_of_isDigit {c : Char} (h : c.isDigit = true) : isSpace c = false := by
  have hge : (48 : Nat) ≤ c.toNat ∧ c.toNat ≤ 57 := by
    simp only [Char.isDigit, Bool.and_eq_true, decide_eq_true_eq] at h
    exact ⟨h.1, h.2⟩
  unfold isSpace
  simp only [Bool.or_eq_false_iff, Bool.and_eq_false_iff, decide_eq_false_iff_not, beq_eq_false_iff_ne]
  omega

theorem stripChars_of_no_space {cs : Chars} (h : ∀ c ∈ cs, isSpace c = false) :
    stripChars cs = cs := by
  have hstrip := strip_eq_self (s := String.ofList cs) (by rwa [String.toList_ofList])
  have := congrArg String.toList hstrip
  rwa [strip, String.toList_ofList, String.toList_ofList] at this

theorem Numeral.no_space (n : Numeral) : ∀ c ∈ n.digits, isSpace c = false :=
  fun c hc => isSpace_of_isDigit (n.isDigits c hc)

theorem Numeral.not_mem (n : Numeral) {c : Char} (h : c.isDigit = false) : c ∉ n.digits := by
  intro hc
  rw [n.isDigits c hc] at h
  exact nomatch h

theorem parseInt_digits (n : Numeral) : parseInt n.digits = some n.value := by
  unfold parseInt
  rw [stripChars_of_no_space n.no_space]
  split
  · rename_i hplus
    exact absurd (hplus ▸ List.mem_cons_self) (n.not_mem (c := '+') rfl)
  · rename_i hminus
    exact absurd (hminus ▸ List.mem_cons_self) (n.not_mem (c := '-') rfl)
  · exact parseDigits_digits n

/-! ## Parsing a field -/

theorem mem_stepRange {first last step value : Int} (hstep : 1 ≤ step) (hle : first ≤ last) :
    value ∈ stepRange first last step ↔
      first ≤ value ∧ value ≤ last ∧ (value - first) % step = 0 := by
  have hquotient : 0 ≤ (last - first) / step := Int.ediv_nonneg (by omega) (by omega)
  unfold stepRange
  simp only [List.mem_map, List.mem_range]
  constructor
  · rintro ⟨i, hi, rfl⟩
    have hi' : (i : Int) ≤ (last - first) / step := by omega
    have hmul : (i : Int) * step ≤ last - first := (Int.le_ediv_iff_mul_le (by omega)).mp hi'
    have hnonneg : 0 ≤ step * (i : Int) := Int.mul_nonneg (by omega) (by omega)
    rw [Int.mul_comm] at hmul
    refine ⟨by omega, by omega, ?_⟩
    rw [(by omega : first + step * (i : Int) - first = step * i)]
    exact Int.mul_emod_right step i
  · rintro ⟨hfirst, hlast, hmod⟩
    have hcancel : step * ((value - first) / step) = value - first :=
      Int.mul_ediv_cancel' (Int.dvd_of_emod_eq_zero hmod)
    have hpos : 0 ≤ (value - first) / step := Int.ediv_nonneg (by omega) (by omega)
    have hle' : (value - first) / step ≤ (last - first) / step :=
      Int.ediv_le_ediv (by omega) (by omega)
    refine ⟨((value - first) / step).toNat, by omega, ?_⟩
    rw [Int.toNat_of_nonneg hpos, hcancel]
    omega

theorem star_ne_digits (n : Numeral) : n.digits ≠ ['*'] := by
  intro h
  exact n.not_mem (c := '*') rfl (h ▸ List.mem_cons_self)

theorem baseBounds_text (base : CronBase) (minimum maximum : Int) :
    baseBounds base.text minimum maximum = some (base.bounds minimum maximum) := by
  unfold baseBounds
  cases base with
  | star => rfl
  | number n =>
      refine (if_neg (star_ne_digits n)).trans ?_
      dsimp only [CronBase.text]
      rw [cut_of_not_mem (n.not_mem rfl)]
      dsimp only
      rw [parseInt_digits]
      rfl
  | range first last =>
      have hstar : first.digits ++ '-' :: last.digits ≠ ['*'] := by
        intro h
        have hmem : '-' ∈ ['*'] := h ▸ List.mem_append_right _ List.mem_cons_self
        exact absurd hmem (by decide)
      refine (if_neg hstar).trans ?_
      dsimp only [CronBase.text]
      rw [cut_append (first.not_mem rfl)]
      dsimp only [Bind.bind, Option.bind]
      rw [parseInt_digits, parseInt_digits]
      rfl

theorem CronBase.chars (base : CronBase) :
    ∀ c ∈ base.text, c.isDigit = true ∨ c = '*' ∨ c = '-' := by
  intro c hc
  cases base with
  | star => exact Or.inr (Or.inl (List.mem_singleton.mp hc))
  | number n => exact Or.inl (n.isDigits c hc)
  | range first last =>
      rcases List.mem_append.mp hc with h | h
      · exact Or.inl (first.isDigits c h)
      · rcases List.mem_cons.mp h with rfl | h
        · exact Or.inr (Or.inr rfl)
        · exact Or.inl (last.isDigits c h)

theorem CronBase.not_mem_slash (base : CronBase) : '/' ∉ base.text := by
  intro h
  rcases base.chars '/' h with h | h | h
  · exact absurd h (by decide)
  · exact absurd h (by decide)
  · exact absurd h (by decide)

theorem CronItem.chars (item : CronItem) :
    ∀ c ∈ item.text, c.isDigit = true ∨ c = '*' ∨ c = '-' ∨ c = '/' := by
  intro c hc
  have hbase : ∀ c ∈ item.base.text, c.isDigit = true ∨ c = '*' ∨ c = '-' ∨ c = '/' := by
    intro c hc
    rcases item.base.chars c hc with h | h | h
    · exact Or.inl h
    · exact Or.inr (Or.inl h)
    · exact Or.inr (Or.inr (Or.inl h))
  unfold CronItem.text at hc
  cases hstep : item.step with
  | none =>
      rw [hstep] at hc
      exact hbase c hc
  | some step =>
      rw [hstep] at hc
      rcases List.mem_append.mp hc with h | h
      · exact hbase c h
      · rcases List.mem_cons.mp h with rfl | h
        · exact Or.inr (Or.inr (Or.inr rfl))
        · exact Or.inl (step.isDigits c h)

theorem CronItem.no_space (item : CronItem) : ∀ c ∈ item.text, isSpace c = false := by
  intro c hc
  rcases item.chars c hc with h | rfl | rfl | rfl
  · exact isSpace_of_isDigit h
  · rfl
  · rfl
  · rfl

theorem CronItem.not_mem_comma (item : CronItem) : ',' ∉ item.text := by
  intro h
  rcases item.chars ',' h with h | h | h | h <;> exact absurd h (by decide)

theorem CronBase.text_ne_nil (base : CronBase) : base.text ≠ [] := by
  cases base with
  | star => exact List.cons_ne_nil _ _
  | number n => exact n.nonempty
  | range first last => simp [CronBase.text]

theorem CronItem.text_ne_nil (item : CronItem) : item.text ≠ [] := by
  unfold CronItem.text
  split
  · simp
  · exact item.base.text_ne_nil

theorem CronItem.cut_text (item : CronItem) :
    cut '/' item.text = (item.base.text, item.step.map Numeral.digits) := by
  unfold CronItem.text
  cases item.step with
  | none => exact cut_of_not_mem item.base.not_mem_slash
  | some step => exact cut_append item.base.not_mem_slash

/-- The numbers of an item. -/
def CronItem.values (item : CronItem) (minimum maximum : Int) : List Int :=
  stepRange (item.base.bounds minimum maximum).1 (item.base.bounds minimum maximum).2 item.stepValue

theorem parsePart_text (item : CronItem) (minimum maximum : Int) :
    parsePart minimum maximum item.text =
      if item.InRange minimum maximum then some (item.values minimum maximum) else none := by
  have hstep : stepOf (item.step.map Numeral.digits) = some item.stepValue := by
    unfold CronItem.stepValue
    cases item.step with
    | none => rfl
    | some step => exact parseInt_digits step
  unfold parsePart
  dsimp only
  rw [stripChars_of_no_space item.no_space, if_neg item.text_ne_nil, item.cut_text]
  dsimp only
  rw [hstep, baseBounds_text]
  dsimp only [Bind.bind, Option.bind]
  unfold CronItem.values
  by_cases hrange : item.InRange minimum maximum
  · rw [if_pos hrange]
    obtain ⟨hstep₁, hfirst, hlast, hle⟩ := hrange
    rw [if_neg (by omega), if_neg (by omega)]
  · rw [if_neg hrange]
    split_ifs with hstep₁ hbounds
    · rfl
    · rfl
    · exact absurd ⟨by omega, by omega, by omega, by omega⟩ hrange

theorem CronItem.mem_values {item : CronItem} {minimum maximum value : Int}
    (h : item.InRange minimum maximum) :
    value ∈ item.values minimum maximum ↔ item.Holds minimum maximum value := by
  obtain ⟨hstep, -, -, hle⟩ := h
  exact mem_stepRange hstep hle

theorem mapM_parts (items : List CronItem) (minimum maximum : Int) :
    (items.map CronItem.text).mapM (parsePart minimum maximum) =
      if ∀ item ∈ items, item.InRange minimum maximum then
        some (items.map fun item => item.values minimum maximum)
      else none := by
  induction items with
  | nil => simp
  | cons item items ih =>
      rw [List.map_cons, List.mapM_cons, parsePart_text, ih]
      by_cases hitem : item.InRange minimum maximum
      · rw [if_pos hitem]
        by_cases hrest : ∀ item ∈ items, item.InRange minimum maximum
        · have hall : ∀ i ∈ item :: items, i.InRange minimum maximum := by
            intro i hi
            rcases List.mem_cons.mp hi with rfl | hi
            · exact hitem
            · exact hrest i hi
          rw [if_pos hrest, if_pos hall]
          rfl
        · have hnot : ¬ ∀ i ∈ item :: items, i.InRange minimum maximum :=
            fun h => hrest fun i hi => h i (List.mem_cons_of_mem _ hi)
          rw [if_neg hrest, if_neg hnot]
          rfl
      · have hnot : ¬ ∀ i ∈ item :: items, i.InRange minimum maximum :=
          fun h => hitem (h item List.mem_cons_self)
        rw [if_neg hitem, if_neg hnot]
        rfl

/-- A field is parsed to what it holds, and is refused where a number is out of its range. -/
theorem parseCronField_text (field : CronList) (minimum maximum : Int) :
    parseCronField field.text minimum maximum =
      if field.InRange minimum maximum then
        some
          { values := (field.items.map fun item => item.values minimum maximum).flatten
            isWildcard := field.allStars }
      else none := by
  have hsplit : field.text.splitOn ',' = field.items.map CronItem.text := by
    refine List.splitOn_intercalate ',' (fun part hpart => ?_) (List.cons_ne_nil _ _)
    obtain ⟨item, -, rfl⟩ := List.mem_map.mp hpart
    exact item.not_mem_comma
  have hstars : ((field.items.map CronItem.text).all fun part =>
      (cut '/' (stripChars part)).1 = ['*']) = field.allStars := by
    rw [List.all_map]
    refine List.all_congr rfl fun item => ?_
    rw [Function.comp_apply, stripChars_of_no_space item.no_space, item.cut_text]
    cases item.base with
    | star => rfl
    | number n => exact decide_eq_false (star_ne_digits n)
    | range first last =>
        refine decide_eq_false fun h => ?_
        have hmem : '-' ∈ ['*'] := h ▸ List.mem_append_right _ List.mem_cons_self
        exact absurd hmem (by decide)
  unfold parseCronField
  dsimp only
  rw [hsplit, mapM_parts, hstars]
  by_cases hrange : field.InRange minimum maximum
  · have hall : ∀ item ∈ field.items, item.InRange minimum maximum := hrange
    rw [if_pos hrange, if_pos hall]
    rfl
  · have hnot : ¬ ∀ item ∈ field.items, item.InRange minimum maximum := hrange
    rw [if_neg hrange, if_neg hnot]
    rfl

theorem CronList.contains_values {field : CronList} {minimum maximum value : Int}
    (h : field.InRange minimum maximum) :
    ((field.items.map fun item => item.values minimum maximum).flatten.contains value) =
      decide (field.Holds minimum maximum value) := by
  rw [Bool.eq_iff_iff, List.contains_iff_mem, decide_eq_true_eq, List.mem_flatten]
  unfold CronList.Holds
  constructor
  · rintro ⟨values, hvalues, hvalue⟩
    obtain ⟨item, hitem, rfl⟩ := List.mem_map.mp hvalues
    exact ⟨item, hitem, (CronItem.mem_values (h item hitem)).mp hvalue⟩
  · rintro ⟨item, hitem, hholds⟩
    exact ⟨_, List.mem_map_of_mem hitem, (CronItem.mem_values (h item hitem)).mpr hholds⟩

/-! ## `cron_matches` -/

namespace CronExpression

variable (e : CronExpression) (time : Int)

instance : Decidable e.InRange := inferInstanceAs (Decidable (_ ∧ _))

instance : Decidable (e.TimeHolds time) := inferInstanceAs (Decidable (_ ∧ _))

instance : Decidable (e.DayOfMonthHolds time) :=
  inferInstanceAs (Decidable (e.dayOfMonth.Holds _ _ _))

instance : Decidable (e.DayOfWeekHolds time) := inferInstanceAs (Decidable (_ ∨ _))

/-- The code's rule for days. -/
def CodeDayHolds : Prop :=
  if !e.dayOfMonth.allStars && !e.dayOfWeek.allStars then
    e.DayOfMonthHolds time ∧ e.DayOfWeekHolds time
  else if e.dayOfWeek.allStars then e.DayOfMonthHolds time
  else if e.dayOfMonth.allStars then e.DayOfWeekHolds time
  else e.DayOfMonthHolds time ∨ e.DayOfWeekHolds time

/-- `cron_matches` of an expression. -/
theorem cronMatches_fields :
    cronMatches time e.fields = true ↔ e.InRange ∧ e.TimeHolds time ∧ e.CodeDayHolds time := by
  unfold cronMatches CronExpression.fields
  dsimp only
  rw [parseCronField_text, parseCronField_text, parseCronField_text, parseCronField_text,
    parseCronField_text]
  by_cases hrange : e.InRange
  · obtain ⟨hminute, hhour, hdom, hmonth, hdow⟩ := hrange
    rw [if_pos hminute, if_pos hhour, if_pos hdom, if_pos hmonth, if_pos hdow]
    dsimp only
    rw [CronList.contains_values hminute, CronList.contains_values hhour,
      CronList.contains_values hdom, CronList.contains_values hmonth,
      CronList.contains_values hdow, CronList.contains_values hdow]
    have hweek : (decide (e.dayOfWeek.Holds 0 7 (cronWeekday time)) ||
        (cronWeekday time == 0 && decide (e.dayOfWeek.Holds 0 7 7))) =
          decide (e.DayOfWeekHolds time) := by
      rw [Bool.eq_iff_iff, decide_eq_true_eq, Bool.or_eq_true, Bool.and_eq_true,
        decide_eq_true_eq, decide_eq_true_eq, beq_iff_eq]
      exact Iff.rfl
    rw [hweek]
    have hday : (if (!e.dayOfMonth.allStars && !e.dayOfWeek.allStars) = true then
        decide (e.dayOfMonth.Holds 1 31 (Calendar.dayOf (dayNumber time))) &&
          decide (e.DayOfWeekHolds time)
        else if e.dayOfWeek.allStars = true then
          decide (e.dayOfMonth.Holds 1 31 (Calendar.dayOf (dayNumber time)))
        else if e.dayOfMonth.allStars = true then decide (e.DayOfWeekHolds time)
        else decide (e.dayOfMonth.Holds 1 31 (Calendar.dayOf (dayNumber time))) ||
          decide (e.DayOfWeekHolds time)) = true ↔ e.CodeDayHolds time := by
      unfold CodeDayHolds DayOfMonthHolds
      split_ifs <;> simp only [Bool.and_eq_true, Bool.or_eq_true, decide_eq_true_eq]
    rw [Bool.and_eq_true, Bool.and_eq_true, Bool.and_eq_true, hday]
    unfold TimeHolds
    simp only [decide_eq_true_eq]
    constructor
    · rintro ⟨⟨⟨h₁, h₂⟩, h₃⟩, h₄⟩
      exact ⟨⟨hminute, hhour, hdom, hmonth, hdow⟩, ⟨h₁, h₂, h₃⟩, h₄⟩
    · rintro ⟨-, ⟨h₁, h₂, h₃⟩, h₄⟩
      exact ⟨⟨⟨h₁, h₂⟩, h₃⟩, h₄⟩
  · constructor
    · intro h
      split at h
      · rename_i h₁ h₂ h₃ h₄ h₅
        split at h₁
        · split at h₂
          · split at h₃
            · split at h₄
              · split at h₅
                · exact absurd ⟨by assumption, by assumption, by assumption, by assumption,
                    by assumption⟩ hrange
                · exact nomatch h₅
              · exact nomatch h₄
            · exact nomatch h₃
          · exact nomatch h₂
        · exact nomatch h₁
      · exact nomatch h
    · rintro ⟨h, -⟩
      exact absurd h hrange

theorem startsWithStar_of_allStars {field : CronList} (h : field.allStars = true) :
    field.startsWithStar = true := by
  unfold CronList.allStars CronList.items at h
  rw [List.all_cons, Bool.and_eq_true] at h
  exact h.1

/-- The code's rule for days says what cron's says where `DayRuleKept`. -/
theorem codeDayHolds_iff :
    (e.CodeDayHolds time ↔
      if e.dayOfMonth.startsWithStar || e.dayOfWeek.startsWithStar then
        e.DayOfMonthHolds time ∧ e.DayOfWeekHolds time
      else e.DayOfMonthHolds time ∨ e.DayOfWeekHolds time) ↔ e.DayRuleKept time := by
  have hdom := @startsWithStar_of_allStars e.dayOfMonth
  have hdow := @startsWithStar_of_allStars e.dayOfWeek
  unfold CodeDayHolds DayRuleKept
  generalize e.dayOfMonth.allStars = domAll at *
  generalize e.dayOfWeek.allStars = dowAll at *
  generalize e.dayOfMonth.startsWithStar = dom at *
  generalize e.dayOfWeek.startsWithStar = dow at *
  generalize e.DayOfMonthHolds time = d
  generalize e.DayOfWeekHolds time = w
  cases dom <;> cases dow <;> cases domAll <;> cases dowAll
  all_goals simp at hdom hdow ⊢
  all_goals tauto

end CronExpression

/-! ## The text of an expression -/

theorem mem_intercalate {sep c : Char} {parts : List Chars} (h : c ∈ [sep].intercalate parts) :
    c = sep ∨ ∃ part ∈ parts, c ∈ part := by
  induction parts with
  | nil => exact nomatch h
  | cons part rest ih =>
      cases rest with
      | nil =>
          rw [List.intercalate_singleton] at h
          exact Or.inr ⟨part, List.mem_cons_self, h⟩
      | cons next rest =>
          rw [List.intercalate_cons_cons, List.append_assoc] at h
          rcases List.mem_append.mp h with h | h
          · exact Or.inr ⟨part, List.mem_cons_self, h⟩
          · rcases List.mem_append.mp h with h | h
            · exact Or.inl (List.mem_singleton.mp h)
            · rcases ih h with h | ⟨p, hp, h⟩
              · exact Or.inl h
              · exact Or.inr ⟨p, List.mem_cons_of_mem _ hp, h⟩

theorem words_intercalate {items : List Chars}
    (h : ∀ item ∈ items, item ≠ [] ∧ ∀ c ∈ item, isSpace c = false) :
    words ([' '].intercalate items) = items := by
  induction items with
  | nil => rfl
  | cons item rest ih =>
      obtain ⟨hne, hspace⟩ := h item List.mem_cons_self
      cases rest with
      | nil =>
          rw [List.intercalate_singleton, words, List.splitOnP_eq_singleton hspace]
          simp [hne]
      | cons next rest =>
          have hrest := ih fun i hi => h i (List.mem_cons_of_mem _ hi)
          rw [List.intercalate_cons_cons, List.append_assoc, List.singleton_append, words,
            List.splitOnP_append_cons_of_forall_mem hspace ' ' rfl,
            List.filter_cons_of_pos (by simpa using hne)]
          exact congrArg (List.cons item) hrest

theorem CronList.no_space (field : CronList) : ∀ c ∈ field.text, isSpace c = false := by
  intro c hc
  rcases mem_intercalate hc with rfl | ⟨part, hpart, hc⟩
  · rfl
  · obtain ⟨item, -, rfl⟩ := List.mem_map.mp hpart
    exact item.no_space c hc

theorem CronList.text_ne_nil (field : CronList) : field.text ≠ [] := by
  unfold CronList.text CronList.items
  rw [List.map_cons]
  cases field.tail with
  | nil =>
      rw [List.map_nil, List.intercalate_singleton]
      exact field.head.text_ne_nil
  | cons next rest => simp

theorem CronExpression.words_text (e : CronExpression) : words e.text = e.fields := by
  refine words_intercalate fun item hitem => ?_
  simp only [CronExpression.fields, List.mem_cons, List.not_mem_nil, or_false] at hitem
  rcases hitem with rfl | rfl | rfl | rfl | rfl <;>
    exact ⟨CronList.text_ne_nil _, CronList.no_space _⟩

/-! ## The next time -/

/-- The first minute that starts after `start`. -/
theorem nextCustomCronLocal_eq {expression : Chars} (h : (words expression).length = 5)
    (start : Int) :
    nextCustomCronLocal expression start =
      firstFrom (fun time => cronMatches time (words expression)) cronHorizon
        (start / minuteLength + 1) := by
  have hle : start / minuteLength * minuteLength ≤ start := by
    unfold minuteLength
    omega
  unfold nextCustomCronLocal
  dsimp only
  rw [if_neg (not_not.mpr h), if_pos hle]

/-- A minute of the search starts after `start`, and is at most `cronHorizon` minutes later. -/
def InHorizon (start time : Int) : Prop :=
  start < time * minuteLength ∧ time ≤ start / minuteLength + cronHorizon

theorem inHorizon_iff {start time : Int} :
    InHorizon start time ↔ start / minuteLength + 1 ≤ time ∧
      time < start / minuteLength + 1 + cronHorizon := by
  unfold InHorizon minuteLength
  omega

/-- `cron_matches` follows cron at a time. -/
def CronExpression.Followed (e : CronExpression) (time : Int) : Prop :=
  cronMatches time e.fields = true ↔ e.Matches time

/-- `next_custom_cron_local` gives the first matching minute after `start`. -/
def CronExpression.NextIsFirst (e : CronExpression) (start : Int) : Prop :=
  match nextCustomCronLocal e.text start with
  | some time => InHorizon start time ∧ cronMatches time e.fields = true ∧
      ∀ t, InHorizon start t → t < time → cronMatches t e.fields = false
  | none => ∀ t, InHorizon start t → cronMatches t e.fields = false

theorem CronExpression.nextIsFirst (e : CronExpression) (start : Int) : e.NextIsFirst start := by
  unfold NextIsFirst
  rw [nextCustomCronLocal_eq (by rw [e.words_text]; rfl), e.words_text]
  cases hfirst : firstFrom (fun time => cronMatches time e.fields) cronHorizon
      (start / minuteLength + 1) with
  | some time =>
      obtain ⟨hle, hlt, hmatch, hbefore⟩ := firstFrom_some hfirst
      refine ⟨inHorizon_iff.mpr ⟨hle, hlt⟩, hmatch, fun t ht hlt' => ?_⟩
      exact hbefore t (inHorizon_iff.mp ht).1 hlt'
  | none =>
      intro t ht
      obtain ⟨hle, hlt⟩ := inHorizon_iff.mp ht
      exact firstFrom_none hfirst t hle hlt

/-- `cron_matches` follows cron where minute, hour or month do not match anyway, and on the days
on which its rule for days says what cron's says. -/
theorem cron_followed_iff (e : CronExpression) (time start : Int) :
    (e.Followed time ∧ e.NextIsFirst start) ↔
      (e.InRange ∧ e.TimeHolds time → e.DayRuleKept time) := by
  rw [and_iff_left (e.nextIsFirst start), CronExpression.Followed, e.cronMatches_fields,
    CronExpression.Matches, ← e.codeDayHolds_iff]
  constructor
  · rintro h ⟨hrange, htime⟩
    exact ⟨fun hday => (h.mp ⟨hrange, htime, hday⟩).2.2,
      fun hday => (h.mpr ⟨hrange, htime, hday⟩).2.2⟩
  · intro h
    constructor
    · rintro ⟨hrange, htime, hday⟩
      exact ⟨hrange, htime, (h ⟨hrange, htime⟩).mp hday⟩
    · rintro ⟨hrange, htime, hday⟩
      exact ⟨hrange, htime, (h ⟨hrange, htime⟩).mpr hday⟩

/-! ## Friday the thirteenth -/

def CronItem.star : CronItem := ⟨.star, none⟩

def CronItem.number (n : Numeral) : CronItem := ⟨.number n, none⟩

/-- `0 9 13 * 5`: at nine on the thirteenth and on Fridays. -/
def thirteenthOrFriday : CronExpression where
  minute := ⟨.number ⟨['0'], by decide, forall_of_all (by decide)⟩, []⟩
  hour := ⟨.number ⟨['9'], by decide, forall_of_all (by decide)⟩, []⟩
  dayOfMonth := ⟨.number ⟨['1', '3'], by decide, forall_of_all (by decide)⟩, []⟩
  month := ⟨.star, []⟩
  dayOfWeek := ⟨.number ⟨['5'], by decide, forall_of_all (by decide)⟩, []⟩

/-- 2026-07-13 is a Monday; its number of the day is 739809. -/
def mondayThe13th : Int := 739809 * 1440 + 540

theorem monday_the_13th_missed : ¬ thirteenthOrFriday.Followed mondayThe13th := by
  intro h
  have hcode : cronMatches mondayThe13th thirteenthOrFriday.fields = false := by decide +kernel
  rw [CronExpression.Followed, hcode] at h
  refine Bool.false_ne_true (h.mpr ⟨?_, ?_, ?_⟩)
  · decide +kernel
  · decide +kernel
  · rw [if_neg (by decide +kernel)]
    exact Or.inl (by decide +kernel)

example : thirteenthOrFriday.text = "0 9 13 * 5".toList := by decide

end AskLake.Schedule
