import TrafficMeter.Calendar.Text
import TrafficMeter.Proofs.Calendar.Succession
import TrafficMeter.Proofs.Period.Canonical

set_option autoImplicit false

namespace TrafficMeter

namespace Decimal

/-- The digits of a number on at least so many places. Zeros in front fill these, and a longer
number takes no place more than it needs. -/
structure Places (least : Nat) (chars : List Char) (number : Nat) : Prop where
  digits : ∀ char ∈ chars, char.isDigit
  value_eq : value chars = number
  enough : least ≤ chars.length
  needed : least < chars.length → 10 ^ (chars.length - 1) ≤ number

theorem places_padded {least : Nat} (positive : 0 < least) (number : Nat) :
    Places least (padded least number) number where
  digits := isDigit_of_mem_padded least number
  value_eq := value_zeros_append _ number
  enough := by
    rw [padded, List.length_append, List.length_replicate]
    omega
  needed := by
    intro longer
    rw [padded, List.length_append, List.length_replicate] at longer ⊢
    by_contra small
    have places : (Decimal.digits number).length ≤ (Decimal.digits number).length - 1 := by
      apply (Nat.length_toDigits_le_iff (by decide) (by omega)).mpr
      have unfilled : least - (Decimal.digits number).length = 0 := by omega
      rwa [unfilled, Nat.zero_add, Nat.not_le] at small
    omega

theorem Places.length_eq {least number : Nat} {chars : List Char}
    (places : Places least chars number) (small : number < 10 ^ least) :
    chars.length = least := by
  have enough := places.enough
  by_contra other
  have needed := places.needed (by omega)
  have power : 10 ^ least ≤ 10 ^ (chars.length - 1) := Nat.pow_le_pow_right (by decide) (by omega)
  omega

/-- No sign among the digits. -/
theorem Places.ne_cons {least number : Nat} {chars rest : List Char} {sign : Char}
    (places : Places least chars number) (unlike : ¬ sign.isDigit) : chars ≠ sign :: rest := by
  rintro rfl
  exact unlike (places.digits sign List.mem_cons_self)

/-- A mark and two digits at the end of a text can be read in one way. -/
theorem Places.eq_of_append_eq {front other chars otherChars : List Char} {mark : Char}
    {number otherNumber : Nat} (places : Places 2 chars number)
    (otherPlaces : Places 2 otherChars otherNumber) (small : number < 100)
    (otherSmall : otherNumber < 100)
    (same : front ++ mark :: chars = other ++ mark :: otherChars) :
    front = other ∧ number = otherNumber := by
  have length_eq : (mark :: chars).length = (mark :: otherChars).length := by
    rw [List.length_cons, List.length_cons, places.length_eq small,
      otherPlaces.length_eq otherSmall]
  obtain ⟨front_eq, chars_eq⟩ := List.append_inj' same length_eq
  refine ⟨front_eq, ?_⟩
  rw [← places.value_eq, ← otherPlaces.value_eq, (List.cons.inj chars_eq).2]

theorem signedText_eq_toString (number : Int) : signedText number = toString number := by
  cases number with
  | ofNat size =>
    rw [signedText, Int.ofNat_eq_natCast, signed_zero_of_nonneg]
    rfl
  | negSucc size =>
    have minus : toString (Int.negSucc size) = "-" ++ String.ofList (digits (size + 1)) := rfl
    apply String.toList_inj.mp
    rw [signedText, signed_zero_of_neg _ (Int.negSucc_lt_zero size), minus, String.toList_append]
    simp only [String.toList_ofList, Int.natAbs_negSucc]
    rfl

end Decimal

/-- A year as texts name it: on four places from 0 to 9999, and behind a sign in the years before
and after. -/
inductive YearReads : List Char → Int → Prop
  | unsigned {chars : List Char} {number : Nat} (places : Decimal.Places 4 chars number)
      (small : number ≤ 9999) : YearReads chars number
  | after {chars : List Char} {number : Nat} (places : Decimal.Places 4 chars number)
      (large : 9999 < number) : YearReads ('+' :: chars) number
  | before {chars : List Char} {number : Nat} (places : Decimal.Places 4 chars number)
      (positive : 0 < number) : YearReads ('-' :: chars) (-number)

namespace YearReads

theorem of_yearText (year : Int) : YearReads (yearText year) year := by
  have places := Decimal.places_padded (by decide : 0 < 4)
  rw [yearText]
  by_cases unsigned : 0 ≤ year ∧ year ≤ 9999
  · rw [if_pos unsigned]
    obtain ⟨number, rfl⟩ := Int.eq_ofNat_of_zero_le unsigned.1
    exact .unsigned (places number) (by omega)
  · rw [if_neg unsigned]
    by_cases negative : year < 0
    · obtain ⟨number, rfl⟩ := Int.exists_eq_neg_ofNat (Int.le_of_lt negative)
      rw [if_pos negative, Int.natAbs_neg, Int.natAbs_natCast]
      exact .before (places number) (by omega)
    · obtain ⟨number, rfl⟩ := Int.eq_ofNat_of_zero_le (Int.not_lt.mp negative)
      rw [if_neg negative, Int.natAbs_natCast]
      exact .after (places number) (by omega)

theorem eq {chars : List Char} {year other : Int} (reads : YearReads chars year)
    (otherReads : YearReads chars other) : year = other := by
  have plus : ¬ '+'.isDigit := by decide
  have minus : ¬ '-'.isDigit := by decide
  cases reads with
  | unsigned places =>
    cases otherReads with
    | unsigned otherPlaces => rw [← places.value_eq, ← otherPlaces.value_eq]
    | after => exact absurd rfl (places.ne_cons plus)
    | before => exact absurd rfl (places.ne_cons minus)
  | after places =>
    cases otherReads with
    | unsigned otherPlaces => exact absurd rfl (otherPlaces.ne_cons plus)
    | after otherPlaces => rw [← places.value_eq, ← otherPlaces.value_eq]
  | before places =>
    cases otherReads with
    | unsigned otherPlaces => exact absurd rfl (otherPlaces.ne_cons minus)
    | before otherPlaces => rw [← places.value_eq, ← otherPlaces.value_eq]

end YearReads

theorem Date.eq_of_parts {date other : Date} (year_eq : date.year = other.year)
    (number_eq : date.month.number = other.month.number) (day_eq : date.day = other.day) :
    date = other := by
  cases date
  cases other
  simp only [Date.mk.injEq]
  exact ⟨Month.eq_of_year_of_number year_eq number_eq, day_eq⟩

/-- A date and a time of day. -/
@[ext] structure CivilTime where
  date : Date
  hour : Nat
  minute : Nat
  second : Nat
  hour_lt : hour < 24
  minute_lt : minute < 60
  second_lt : second < 60

namespace CivilTime

/-- Seconds since the midnight that 1970 began with, on the same clock. -/
def seconds (time : CivilTime) : Int :=
  86400 * time.date.epochDay + 3600 * time.hour + 60 * time.minute + time.second

/-- The text names the time: year, month, day, hour, minute and second, and nothing else. -/
inductive Reads (text : List Char) (time : CivilTime) : Prop
  | named {year month day hour minute second : List Char}
      (text_eq : text = year ++ '-' :: month ++ '-' :: day ++ ' ' :: hour ++ ':' :: minute ++
        ':' :: second)
      (year_reads : YearReads year time.date.year)
      (month_places : Decimal.Places 2 month time.date.month.number)
      (day_places : Decimal.Places 2 day time.date.day)
      (hour_places : Decimal.Places 2 hour time.hour)
      (minute_places : Decimal.Places 2 minute time.minute)
      (second_places : Decimal.Places 2 second time.second)

def ofSeconds (seconds : Int) : CivilTime where
  date := Date.ofEpochDay (seconds / 86400)
  hour := (seconds % 86400).toNat / 3600
  minute := (seconds % 86400).toNat / 60 % 60
  second := (seconds % 86400).toNat % 60
  hour_lt := by omega
  minute_lt := by omega
  second_lt := by omega

@[simp] theorem seconds_ofSeconds (count : Int) : (ofSeconds count).seconds = count := by
  simp only [seconds, ofSeconds, Date.epochDay_ofEpochDay]
  omega

theorem reads_civilText (count : Int) : Reads (Zone.civilText count) (ofSeconds count) := by
  have places := Decimal.places_padded (by decide : 0 < 2)
  exact .named rfl (.of_yearText _) (places _) (places _) (places _) (places _) (places _)

section Reads

variable {text : List Char} {time other : CivilTime}

/-- From the second back to the year, each part has its own place at the end of the text. -/
theorem Reads.eq (reads : Reads text time) (otherReads : Reads text other) : time = other := by
  obtain ⟨text_eq, year_reads, month_places, day_places, hour_places, minute_places,
    second_places⟩ := reads
  obtain ⟨same, otherYear, otherMonth, otherDay, otherHour, otherMinute, otherSecond⟩ := otherReads
  have small (date : Date) : date.month.number < 100 ∧ date.day < 100 := by
    have number_le := date.month.number_le
    have day_le := date.day_le_length
    have length_le := date.month.length_le
    omega
  have hour_lt := time.hour_lt
  have minute_lt := time.minute_lt
  have second_lt := time.second_lt
  have otherHour_lt := other.hour_lt
  have otherMinute_lt := other.minute_lt
  have otherSecond_lt := other.second_lt
  rw [text_eq] at same
  obtain ⟨same, second_eq⟩ :=
    second_places.eq_of_append_eq otherSecond (by omega) (by omega) same
  obtain ⟨same, minute_eq⟩ :=
    minute_places.eq_of_append_eq otherMinute (by omega) (by omega) same
  obtain ⟨same, hour_eq⟩ := hour_places.eq_of_append_eq otherHour (by omega) (by omega) same
  obtain ⟨same, day_eq⟩ := day_places.eq_of_append_eq otherDay (small _).2 (small _).2 same
  obtain ⟨rfl, number_eq⟩ :=
    month_places.eq_of_append_eq otherMonth (small _).1 (small _).1 same
  have date_eq := Date.eq_of_parts (year_reads.eq otherYear) number_eq day_eq
  exact CivilTime.ext date_eq hour_eq minute_eq second_eq

theorem Reads.space_mem (reads : Reads text time) : ' ' ∈ text := by
  obtain ⟨text_eq⟩ := reads
  simp [text_eq]

end Reads

end CivilTime

namespace Zone

theorem inCalendar_iff (unixSeconds : Int) :
    (Date.ofEpochDay (unixSeconds / 86400)).InCalendar ↔
      earliestSecond ≤ unixSeconds ∧ unixSeconds ≤ latestSecond := by
  simp only [Date.InCalendar, Date.epochDay_ofEpochDay, Date.earliestDay, Date.latestDay,
    earliestSecond, latestSecond]
  omega

section Texts

variable (zone : Zone) (unixSeconds : Int)

theorem reads_timeText (nonzero : unixSeconds ≠ 0)
    (inside : (Date.ofEpochDay (unixSeconds / 86400)).InCalendar) :
    CivilTime.Reads (zone.timeText unixSeconds).toList
      (CivilTime.ofSeconds (unixSeconds + zone.eastSeconds)) := by
  rw [timeText, if_neg nonzero, if_pos ((inCalendar_iff unixSeconds).mp inside),
    String.toList_ofList]
  exact CivilTime.reads_civilText _

theorem timeText_of_not_inCalendar
    (outside : ¬ (Date.ofEpochDay (unixSeconds / 86400)).InCalendar) :
    zone.timeText unixSeconds = Decimal.signedText unixSeconds := by
  have nonzero : unixSeconds ≠ 0 := by
    rintro rfl
    exact outside (by decide)
  rw [timeText, if_neg nonzero, if_neg (outside ∘ (inCalendar_iff unixSeconds).mpr)]

/-- Only texts of dates have a space, so that none is the plain number of another time. -/
theorem space_mem_timeText (nonzero : unixSeconds ≠ 0) :
    ' ' ∈ (zone.timeText unixSeconds).toList ↔
      (Date.ofEpochDay (unixSeconds / 86400)).InCalendar := by
  by_cases inside : (Date.ofEpochDay (unixSeconds / 86400)).InCalendar
  · exact iff_of_true (zone.reads_timeText unixSeconds nonzero inside).space_mem inside
  · rw [zone.timeText_of_not_inCalendar unixSeconds inside, Decimal.signedText,
      String.toList_ofList]
    exact iff_of_false (Decimal.not_space_mem_signed 0 unixSeconds) inside

theorem timeText_injective {earlier later : Int} (earlier_ne : earlier ≠ 0) (later_ne : later ≠ 0)
    (same : zone.timeText earlier = zone.timeText later) : earlier = later := by
  have alike := zone.space_mem_timeText earlier earlier_ne
  rw [same, zone.space_mem_timeText later later_ne] at alike
  by_cases inside : (Date.ofEpochDay (earlier / 86400)).InCalendar
  · have reads := zone.reads_timeText earlier earlier_ne inside
    rw [same] at reads
    have seconds_eq := congrArg CivilTime.seconds
      (reads.eq (zone.reads_timeText later later_ne (alike.mpr inside)))
    rw [CivilTime.seconds_ofSeconds, CivilTime.seconds_ofSeconds] at seconds_eq
    omega
  · rw [zone.timeText_of_not_inCalendar earlier inside,
      zone.timeText_of_not_inCalendar later (inside ∘ alike.mp)] at same
    exact Decimal.signed_injective 0 (String.ofList_injective same)

end Texts

/-- Texts of times tell the time. While the calendar lasts in UTC, the text names one local time,
which is as many seconds after the beginning of 1970 as the Unix time and the clock's distance
from UTC together, even where it is before or after the calendar itself. Other times are written
as numbers, and no two times have one text. -/
theorem time_texts_are_faithful (zone : Zone) :
    (∀ unixSeconds : Int, unixSeconds ≠ 0 → (Date.ofEpochDay (unixSeconds / 86400)).InCalendar →
        ∃ time : CivilTime, CivilTime.Reads (zone.timeText unixSeconds).toList time ∧
          (∀ other, CivilTime.Reads (zone.timeText unixSeconds).toList other → other = time) ∧
          time.seconds = unixSeconds + zone.eastSeconds) ∧
      (∀ earlier later : Int, earlier ≠ 0 → later ≠ 0 → earlier ≠ later →
        zone.timeText earlier ≠ zone.timeText later) ∧
      (∀ unixSeconds : Int, ¬ (Date.ofEpochDay (unixSeconds / 86400)).InCalendar →
        zone.timeText unixSeconds = toString unixSeconds) ∧
      zone.timeText 0 = "never" := by
  refine ⟨?_, ?_, ?_, rfl⟩
  · intro unixSeconds nonzero inside
    have reads := zone.reads_timeText unixSeconds nonzero inside
    exact ⟨_, reads, fun other otherReads => otherReads.eq reads,
      CivilTime.seconds_ofSeconds _⟩
  · intro earlier later earlier_ne later_ne unlike same
    exact unlike (zone.timeText_injective earlier_ne later_ne same)
  · intro unixSeconds outside
    rw [zone.timeText_of_not_inCalendar unixSeconds outside, Decimal.signedText_eq_toString]

/-- The last second of the calendar falls into the year after it on a clock one hour ahead. -/
theorem time_texts_are_faithful_in_last_second :
    (⟨3600⟩ : Zone).timeText latestSecond = "+262143-01-01 00:59:59" ∧
      (∃ time : CivilTime, CivilTime.Reads "+262143-01-01 00:59:59".toList time ∧
        time.seconds = 8210266880399) ∧
      (⟨3600⟩ : Zone).timeText (-1) ≠ (⟨3600⟩ : Zone).timeText 1 ∧
      (⟨3600⟩ : Zone).timeText (latestSecond + 1) = "8210266876800" := by
  obtain ⟨read, apart, plain, _⟩ := time_texts_are_faithful ⟨3600⟩
  have text_eq : (⟨3600⟩ : Zone).timeText latestSecond = "+262143-01-01 00:59:59" := by decide
  obtain ⟨time, reads, _, seconds_eq⟩ := read latestSecond (by decide) (by decide)
  rw [text_eq] at reads
  refine ⟨text_eq, ⟨time, reads, seconds_eq⟩, apart (-1) 1 (by decide) (by decide) (by decide), ?_⟩
  exact plain (latestSecond + 1) (by decide)

end Zone

end TrafficMeter
