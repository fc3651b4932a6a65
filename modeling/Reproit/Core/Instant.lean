/-
# Timestamps and instants

A timestamp is compared as a text by some components and as an instant by others.  The order
of the texts is the order of the instants, except within one leap second: the parser maps
all of it to the last nanosecond before it.
-/

import Reproit.Core.Identity
import Reproit.Data.Pattern
import Reproit.Data.Units

namespace Reproit

namespace Calendar

/-! ## Instants -/

def yearLength (year : Nat) : Nat := if leapYear year then 366 else 365

/-- The days of the years before a year. -/
def daysBeforeYear : Nat → Nat
  | 0 => 0
  | year + 1 => daysBeforeYear year + yearLength year

/-- The days of a year before a month, which is counted from zero. -/
def daysBeforeMonth (year : Nat) : Nat → Nat
  | 0 => 0
  | month + 1 => daysBeforeMonth year month + daysInMonth year (month + 1)

/-- A date and a time of day. -/
structure Fields where
  year : Nat
  month : Nat
  day : Nat
  hour : Nat
  minute : Nat
  second : Nat
  millisecond : Nat

/-- The numbers at their places in a text. -/
def fieldsOf (text : List Char) : Fields where
  year := digitsBetween text 0 4
  month := digitsBetween text 5 7
  day := digitsBetween text 8 10
  hour := digitsBetween text 11 13
  minute := digitsBetween text 14 16
  second := digitsBetween text 17 19
  millisecond := digitsBetween text 20 23

namespace Fields

/-- The days of the year before the day. -/
def dayOfYear (fields : Fields) : Nat :=
  daysBeforeMonth fields.year (fields.month - 1) + (fields.day - 1)

/-- The nanoseconds of the minute. A leap second is the last nanosecond before it. -/
def nanoseconds (fields : Fields) : Nat :=
  if fields.second = 60 then 59999999999
  else fields.second * 1000000000 + fields.millisecond * 1000000

/-- The nanoseconds since the beginning of the year zero. -/
def instant (fields : Fields) : Nat :=
  (((daysBeforeYear fields.year + fields.dayOfYear) * 24 + fields.hour) * 60 + fields.minute) *
    60000000000 + fields.nanoseconds

/-- The date and the time of day exist. -/
structure Valid (fields : Fields) : Prop where
  month : 1 ≤ fields.month ∧ fields.month ≤ 12
  day : 1 ≤ fields.day ∧ fields.day ≤ daysInMonth fields.year fields.month
  hour : fields.hour ≤ 23
  minute : fields.minute ≤ 59
  second : fields.second ≤ 60
  millisecond : fields.millisecond < 1000

/-- The same minute. -/
structure SameMinute (first second : Fields) : Prop where
  year : first.year = second.year
  month : first.month = second.month
  day : first.day = second.day
  hour : first.hour = second.hour
  minute : first.minute = second.minute

/-- Field by field, from the year to the minute. -/
def MinuteBefore (first second : Fields) : Prop :=
  first.year < second.year ∨ first.year = second.year ∧
    (first.month < second.month ∨ first.month = second.month ∧
      (first.day < second.day ∨ first.day = second.day ∧
        (first.hour < second.hour ∨ first.hour = second.hour ∧ first.minute < second.minute)))

theorem daysBeforeMonth_twelve (year : Nat) : daysBeforeMonth year 12 = yearLength year := by
  by_cases leap : leapYear year = true
  · simp [daysBeforeMonth, daysInMonth, yearLength, leap]
  · simp [daysBeforeMonth, daysInMonth, yearLength, leap]

theorem Valid.dayOfYear_lt {fields : Fields} (valid : fields.Valid) :
    fields.dayOfYear < yearLength fields.year := by
  obtain ⟨low, high⟩ := valid.month
  obtain ⟨one, last⟩ := valid.day
  obtain ⟨month, same⟩ := Nat.exists_eq_add_of_le' low
  have inMonth : fields.day - 1 < daysInMonth fields.year (month + 1) := by
    rw [← same]
    omega
  have fits : daysBeforeMonth fields.year month + daysInMonth fields.year (month + 1) ≤
      daysBeforeMonth fields.year 12 :=
    @before_add_size_le (daysBeforeMonth fields.year)
      (fun month => daysInMonth fields.year (month + 1)) (fun _ => rfl) month 12 (by omega)
  rw [daysBeforeMonth_twelve] at fits
  rw [dayOfYear, same, Nat.add_sub_cancel]
  omega

/-- Days of a year compare by the month and then by the day. -/
theorem Valid.dayOfYear_lt_iff {first second : Fields} (hfirst : first.Valid)
    (hsecond : second.Valid) (year : first.year = second.year) :
    first.dayOfYear < second.dayOfYear ↔
      first.month < second.month ∨ first.month = second.month ∧ first.day < second.day := by
  have size : ∀ {fields : Fields}, fields.Valid →
      fields.day - 1 < daysInMonth fields.year (fields.month - 1 + 1) := by
    intro fields valid
    rw [Nat.sub_add_cancel valid.month.1]
    have one := valid.day.1
    have last := valid.day.2
    omega
  have one := hfirst.month.1
  have other := hsecond.month.1
  have firstDay := hfirst.day.1
  have secondDay := hsecond.day.1
  have fits := size hfirst
  rw [year] at fits
  have less := @count_lt_iff (daysBeforeMonth second.year)
    (fun month => daysInMonth second.year (month + 1)) (fun _ => rfl) _ _ _ _ fits (size hsecond)
  rw [dayOfYear, dayOfYear, year, less]
  omega

theorem Valid.dayOfYear_eq_iff {first second : Fields} (hfirst : first.Valid)
    (hsecond : second.Valid) (year : first.year = second.year) :
    first.dayOfYear = second.dayOfYear ↔ first.month = second.month ∧ first.day = second.day := by
  have less := hfirst.dayOfYear_lt_iff hsecond year
  have greater := hsecond.dayOfYear_lt_iff hfirst year.symm
  omega

theorem Valid.nanoseconds_lt {fields : Fields} (valid : fields.Valid) :
    fields.nanoseconds < 60000000000 := by
  have second := valid.second
  have millisecond := valid.millisecond
  unfold nanoseconds
  split_ifs
  · omega
  · omega

/-- A minute and its rest compare like the instants. -/
theorem minute_lt_iff {day hour minute rest other otherHour otherMinute otherRest : Nat}
    (hhour : hour ≤ 23) (hminute : minute ≤ 59) (hrest : rest < 60000000000)
    (hotherHour : otherHour ≤ 23) (hotherMinute : otherMinute ≤ 59)
    (hotherRest : otherRest < 60000000000) :
    ((day * 24 + hour) * 60 + minute) * 60000000000 + rest <
        ((other * 24 + otherHour) * 60 + otherMinute) * 60000000000 + otherRest ↔
      (day < other ∨ day = other ∧ (hour < otherHour ∨ hour = otherHour ∧ minute < otherMinute)) ∨
        (day = other ∧ hour = otherHour ∧ minute = otherMinute) ∧ rest < otherRest := by
  omega

/-- Instants compare by the minute and then by the nanosecond. -/
theorem Valid.instant_lt_iff {first second : Fields} (hfirst : first.Valid)
    (hsecond : second.Valid) :
    first.instant < second.instant ↔ first.MinuteBefore second ∨
      first.SameMinute second ∧ first.nanoseconds < second.nanoseconds := by
  have firstYear := hfirst.dayOfYear_lt
  have secondYear := hsecond.dayOfYear_lt
  have dayLess := @count_lt_iff daysBeforeYear yearLength (fun _ => rfl) _ _ _ _
    firstYear secondYear
  have dayEqual := @count_eq_iff daysBeforeYear yearLength (fun _ => rfl) _ _ _ _
    firstYear secondYear
  rw [instant, instant, minute_lt_iff hfirst.hour hfirst.minute hfirst.nanoseconds_lt hsecond.hour
    hsecond.minute hsecond.nanoseconds_lt, dayLess, dayEqual]
  by_cases year : first.year = second.year
  · rw [hfirst.dayOfYear_lt_iff hsecond year, hfirst.dayOfYear_eq_iff hsecond year]
    constructor
    · rintro (before | ⟨⟨⟨_, month, day⟩, hour, minute⟩, less⟩)
      · left
        unfold MinuteBefore
        omega
      · exact .inr ⟨⟨year, month, day, hour, minute⟩, less⟩
    · rintro (before | ⟨⟨_, month, day, hour, minute⟩, less⟩)
      · left
        unfold MinuteBefore at before
        omega
      · exact .inr ⟨⟨⟨year, month, day⟩, hour, minute⟩, less⟩
  · constructor
    · rintro (before | ⟨⟨⟨same, _⟩, _⟩, _⟩)
      · left
        unfold MinuteBefore
        omega
      · exact absurd same year
    · rintro (before | ⟨same, _⟩)
      · left
        unfold MinuteBefore at before
        omega
      · exact absurd same.year year

end Fields

/-! ## The text of a timestamp -/

/-- The class of characters at a place of the example. -/
def classOf (expected : Char) : Char → Bool :=
  if expected = '0' then Char.isDigit else fun held => held = expected

theorem timestampShapeIsValid_eq (text : List Char) :
    timestampShapeIsValid text =
      Pattern.accepts ("0000-00-00T00:00:00.000Z".toList.map classOf) text := by
  have each : (fun (held, expected) => classOf expected held) = fun ((held, expected) : Char × Char)
      => if expected = '0' then held.isDigit else decide (held = expected) := by
    ext ⟨held, expected⟩
    by_cases zero : expected = '0'
    · simp [classOf, zero]
    · simp [classOf, zero]
  rw [Pattern.accepts_map, each]
  rfl

/-- The numerals of a timestamp and the characters between them. -/
def timestampPattern : Pattern :=
  .times 4 Char.isDigit ++ (.word ['-'] ++ (.times 2 Char.isDigit ++ (.word ['-'] ++
    (.times 2 Char.isDigit ++ (.word ['T'] ++ (.times 2 Char.isDigit ++ (.word [':'] ++
      (.times 2 Char.isDigit ++ (.word [':'] ++ (.times 2 Char.isDigit ++ (.word ['.'] ++
        (.times 3 Char.isDigit ++ .word ['Z']))))))))))))

theorem map_classOf :
    "0000-00-00T00:00:00.000Z".toList.map classOf = timestampPattern := rfl

/-- The numerals of a text. -/
structure Spelled (text : List Char) (fields : Fields) where
  year : List Char
  month : List Char
  day : List Char
  hour : List Char
  minute : List Char
  second : List Char
  millisecond : List Char
  text : text = year ++ '-' :: (month ++ '-' :: (day ++ 'T' :: (hour ++ ':' :: (minute ++ ':' ::
    (second ++ '.' :: (millisecond ++ 'Z' :: []))))))
  yearRead : Numeral 4 year fields.year
  monthRead : Numeral 2 month fields.month
  dayRead : Numeral 2 day fields.day
  hourRead : Numeral 2 hour fields.hour
  minuteRead : Numeral 2 minute fields.minute
  secondRead : Numeral 2 second fields.second
  millisecondRead : Numeral 3 millisecond fields.millisecond

theorem exists_spelled {text : List Char} (shape : timestampShapeIsValid text = true) :
    Nonempty (Spelled text (fieldsOf text)) := by
  rw [timestampShapeIsValid_eq, map_classOf, timestampPattern] at shape
  simp only [Pattern.accepts_append, Pattern.accepts_times, Pattern.accepts_word] at shape
  obtain ⟨year, _, rfl, yearDigits, _, _, rfl, rfl, month, _, rfl, monthDigits, _, _, rfl, rfl,
    day, _, rfl, dayDigits, _, _, rfl, rfl, hour, _, rfl, hourDigits, _, _, rfl, rfl,
    minute, _, rfl, minuteDigits, _, _, rfl, rfl, second, _, rfl, secondDigits, _, _, rfl, rfl,
    millisecond, _, rfl, millisecondDigits, rfl⟩ := shape
  simp only [List.singleton_append] at *
  refine ⟨⟨year, month, day, hour, minute, second, millisecond, rfl, ⟨yearDigits.1, yearDigits.2, ?_⟩,
    ⟨monthDigits.1, monthDigits.2, ?_⟩, ⟨dayDigits.1, dayDigits.2, ?_⟩,
    ⟨hourDigits.1, hourDigits.2, ?_⟩, ⟨minuteDigits.1, minuteDigits.2, ?_⟩,
    ⟨secondDigits.1, secondDigits.2, ?_⟩, ⟨millisecondDigits.1, millisecondDigits.2, ?_⟩⟩⟩
  all_goals
    simp [fieldsOf, digitsBetween, List.take_append, List.drop_append, List.take_of_length_le,
      List.drop_eq_nil_of_le, yearDigits.1, monthDigits.1, dayDigits.1, hourDigits.1,
      minuteDigits.1, secondDigits.1, millisecondDigits.1]

namespace Fields

theorem sameMinute_iff {first second : Fields} :
    first.SameMinute second ↔ first.year = second.year ∧ first.month = second.month ∧
      first.day = second.day ∧ first.hour = second.hour ∧ first.minute = second.minute := by
  constructor
  · intro ⟨year, month, day, hour, minute⟩
    exact ⟨year, month, day, hour, minute⟩
  · intro ⟨year, month, day, hour, minute⟩
    exact ⟨year, month, day, hour, minute⟩

theorem SameMinute.symm {first second : Fields} (same : first.SameMinute second) :
    second.SameMinute first :=
  ⟨same.year.symm, same.month.symm, same.day.symm, same.hour.symm, same.minute.symm⟩

theorem MinuteBefore.not_sameMinute {first second : Fields} (before : first.MinuteBefore second) :
    ¬ first.SameMinute second := by
  rw [sameMinute_iff]
  unfold MinuteBefore at before
  omega

/-- Field by field, from the year to the millisecond. -/
def Before (first second : Fields) : Prop :=
  first.MinuteBefore second ∨ first.SameMinute second ∧
    (first.second < second.second ∨
      first.second = second.second ∧ first.millisecond < second.millisecond)

end Fields

namespace Spelled

variable {text other : List Char} {fields others : Fields}

/-- Texts of timestamps compare field by field. -/
theorem lt_iff (first : Spelled text fields) (second : Spelled other others) :
    text < other ↔ fields.Before others := by
  have last : ∀ digits behind : List Char, Numeral 3 digits fields.millisecond →
      Numeral 3 behind others.millisecond →
        (digits ++ 'Z' :: [] < behind ++ 'Z' :: [] ↔ fields.millisecond < others.millisecond) := by
    intro digits behind hdigits hbehind
    rw [hdigits.append_cons_lt_iff hbehind]
    simp
  rw [first.text, second.text, first.yearRead.append_cons_lt_iff second.yearRead,
    first.monthRead.append_cons_lt_iff second.monthRead,
    first.dayRead.append_cons_lt_iff second.dayRead,
    first.hourRead.append_cons_lt_iff second.hourRead,
    first.minuteRead.append_cons_lt_iff second.minuteRead,
    first.secondRead.append_cons_lt_iff second.secondRead,
    last _ _ first.millisecondRead second.millisecondRead]
  rw [Fields.Before, Fields.MinuteBefore, Fields.sameMinute_iff]
  omega

end Spelled

end Calendar

namespace Timestamp

def fields (time : Timestamp) : Calendar.Fields := Calendar.fieldsOf time.text.toList

/-- The instant that the parser reads, in nanoseconds since the beginning of the year zero. -/
def instant (time : Timestamp) : Nat := time.fields.instant

/-- Two times in one leap second. -/
structure SameLeapSecond (first second : Timestamp) : Prop where
  minute : first.fields.SameMinute second.fields
  first : first.fields.second = 60
  second : second.fields.second = 60

theorem exists_spelled (time : Timestamp) :
    Nonempty (Calendar.Spelled time.text.toList time.fields) :=
  Calendar.exists_spelled time.valid.1

theorem fields_valid (time : Timestamp) : time.fields.Valid := by
  obtain ⟨spelled⟩ := time.exists_spelled
  have exists? := time.valid.2
  simp only [Calendar.exists?, Bool.and_eq_true, Bool.or_eq_true, decide_eq_true_eq] at exists?
  obtain ⟨⟨⟨⟨⟨⟨low, high⟩, one⟩, last⟩, hour⟩, minute⟩, second⟩ := exists?
  have small := spelled.millisecondRead.lt
  exact ⟨⟨low, high⟩, ⟨one, last⟩, hour, minute, by
    rcases second with below | ⟨⟨⟨leap, _⟩, _⟩, _⟩
    · exact Nat.le_succ_of_le below
    · exact leap.le, small⟩

theorem text_lt_iff (first second : Timestamp) :
    first.text < second.text ↔ first.fields.Before second.fields := by
  obtain ⟨firstSpelled⟩ := first.exists_spelled
  obtain ⟨secondSpelled⟩ := second.exists_spelled
  rw [String.lt_iff_toList_lt]
  exact firstSpelled.lt_iff secondSpelled

end Timestamp

namespace Calendar.Fields.Valid

variable {first second : Fields}

/-- Nanoseconds of a minute compare by the second and the millisecond, outside the leap second. -/
theorem nanoseconds_lt_iff (hfirst : first.Valid) (hsecond : second.Valid) :
    first.nanoseconds < second.nanoseconds ↔
      (first.second < second.second ∨
        first.second = second.second ∧ first.millisecond < second.millisecond) ∧
      ¬ (first.second = 60 ∧ second.second = 60) := by
  have firstSecond := hfirst.second
  have secondSecond := hsecond.second
  have firstMillisecond := hfirst.millisecond
  have secondMillisecond := hsecond.millisecond
  unfold nanoseconds
  split_ifs with leap other other
  · omega
  · omega
  · omega
  · omega

end Calendar.Fields.Valid

namespace Timestamp

/-- The order of texts is the order of instants, except within one leap second. -/
theorem instant_lt_iff (first second : Timestamp) :
    first.instant < second.instant ↔
      first.text < second.text ∧ ¬ first.SameLeapSecond second := by
  have hfirst := first.fields_valid
  have hsecond := second.fields_valid
  rw [instant, instant, hfirst.instant_lt_iff hsecond, hfirst.nanoseconds_lt_iff hsecond,
    text_lt_iff, Calendar.Fields.Before]
  constructor
  · rintro (before | ⟨minute, less, apart⟩)
    · exact ⟨.inl before, fun leap => before.not_sameMinute leap.minute⟩
    · exact ⟨.inr ⟨minute, less⟩, fun leap => apart ⟨leap.first, leap.second⟩⟩
  · rintro ⟨before | ⟨minute, less⟩, apart⟩
    · exact .inl before
    · exact .inr ⟨minute, less, fun leap => apart ⟨minute, leap.1, leap.2⟩⟩

theorem SameLeapSecond.symm {first second : Timestamp} (leap : first.SameLeapSecond second) :
    second.SameLeapSecond first :=
  ⟨leap.minute.symm, leap.second, leap.first⟩

theorem SameLeapSecond.instant_eq {first second : Timestamp}
    (leap : first.SameLeapSecond second) : first.instant = second.instant := by
  rcases lt_trichotomy first.instant second.instant with below | same | above
  · exact absurd leap ((instant_lt_iff _ _).mp below).2
  · exact same
  · exact absurd leap.symm ((instant_lt_iff _ _).mp above).2

theorem instant_eq_iff (first second : Timestamp) :
    first.instant = second.instant ↔ first.text = second.text ∨ first.SameLeapSecond second := by
  constructor
  · intro same
    by_cases leap : first.SameLeapSecond second
    · exact .inr leap
    · left
      rcases lt_trichotomy first.text second.text with below | equal | above
      · exact absurd ((instant_lt_iff _ _).mpr ⟨below, leap⟩) same.not_lt
      · exact equal
      · exact absurd ((instant_lt_iff _ _).mpr ⟨above, fun other => leap other.symm⟩)
          same.symm.not_lt
  · rintro (same | leap)
    · rw [text_injective same]
    · exact leap.instant_eq

/-- Texts and instants order any two times alike, except that the times of one leap second
have one instant. -/
theorem textOrder_iff_instantOrder (first second : Timestamp) :
    (first.instant < second.instant ↔
      first.text < second.text ∧ ¬ first.SameLeapSecond second) ∧
    (first.instant = second.instant ↔
      first.text = second.text ∨ first.SameLeapSecond second) :=
  ⟨instant_lt_iff first second, instant_eq_iff first second⟩

/-- Two times in the leap second at the end of 2016. -/
def leapSecond : Timestamp := ⟨"2016-12-31T23:59:60.000Z", by decide⟩

def laterInLeapSecond : Timestamp := ⟨"2016-12-31T23:59:60.500Z", by decide⟩

theorem sameLeapSecond_laterInLeapSecond : leapSecond.SameLeapSecond laterInLeapSecond :=
  ⟨Calendar.Fields.sameMinute_iff.mpr (by decide), by decide, by decide⟩

/-- Two texts in one leap second are ordered and their instants are equal. -/
theorem textOrder_leapSecond : ¬ ∀ first second : Timestamp,
    first.text < second.text ↔ first.instant < second.instant := by
  intro always
  have below : leapSecond.text < laterInLeapSecond.text := by decide
  have less := (always _ _).mp below
  rw [sameLeapSecond_laterInLeapSecond.instant_eq] at less
  exact lt_irrefl _ less

end Timestamp

end Reproit
