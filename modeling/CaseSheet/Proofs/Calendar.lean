import CaseSheet.Calendar
import CaseSheet.Proofs.Digits
/-!
# Dates and their texts

A date tells its day, so different seconds have different dates or times of day, and these have
different stamps: what is named by the stamp of a clock has another name a second later.

* `DateTime.ofInstant_inj`: dates and times of day tell the second.
* `DateTime.stamp_inj`: stamps tell the date and the time of day.
-/
namespace CaseSheet

namespace DateTime

/-! ## Days -/

/-- The year of an era, counted from the first of March, starts on or before its days, and ends with
its 365th or 366th day. -/
theorem startOfYear_le {day year : Nat} (h : day < 146097)
    (hyear : (day - day / 1460 + day / 36524 - day / 146096) / 365 = year) :
    365 * year + year / 4 - year / 100 ≤ day ∧
      day ≤ 365 * year + year / 4 - year / 100 + 365 := by
  have hcentury : year / 100 = day / 36524 - day / 146096 := by
    have hc : day / 36524 = 0 ∨ day / 36524 = 1 ∨ day / 36524 = 2 ∨ day / 36524 = 3 ∨
        day / 36524 = 4 := by omega
    rcases hc with hc | hc | hc | hc | hc <;> rw [hc] at hyear ⊢ <;> omega
  obtain ⟨k, m, rfl, hm⟩ : ∃ k m, year = 4 * k + m ∧ m < 4 :=
    ⟨year / 4, year % 4, by omega, by omega⟩
  have hk : (4 * k + m) / 4 = k := by omega
  rw [hcentury, hk]
  -- A day outside would be out by a leap day or more in the days that are taken off before dividing.
  constructor
  · refine Nat.le_of_not_lt fun hlt => ?_
    have hleaps : day / 1460 + 1 ≤ k := by omega
    omega
  · refine Nat.le_of_not_lt fun hlt => ?_
    have hleaps : k + 2 ≤ day / 1460 := by omega
    omega

/-- The number of a month that is counted from March. -/
def calendarMonth (m : Nat) : Nat := if m < 10 then m + 3 else m - 9

theorem calendarMonth_inj {m n : Nat} (hm : m ≤ 11) (hn : n ≤ 11)
    (h : calendarMonth m = calendarMonth n) : m = n := by
  rw [calendarMonth, calendarMonth] at h
  split at h <;> split at h <;> omega

/-- A date by its era, the year in that and the day in this. -/
theorem exists_dateOf_eq (days : Int) : ∃ (era : Int) (year day : Nat), year < 400 ∧ day ≤ 365 ∧
    days = era * 146097 + ((365 * year + year / 4 - year / 100) + day : Nat) - 719468 ∧
    dateOf days =
      (era * 400 + year + (if calendarMonth ((5 * day + 2) / 153) ≤ 2 then 1 else 0),
        calendarMonth ((5 * day + 2) / 153), day - (153 * ((5 * day + 2) / 153) + 2) / 5 + 1) := by
  have hday : ((days + 719468) % 146097).toNat < 146097 := by omega
  obtain ⟨hstart, hend⟩ := startOfYear_le hday rfl
  refine ⟨(days + 719468) / 146097, _, _, ?_, ?_, ?_, rfl⟩
  · omega
  · omega
  · omega

theorem dateOf_injective {days days' : Int} (h : dateOf days = dateOf days') : days = days' := by
  obtain ⟨era, year, day, hyear, hday, hdays, heq⟩ := exists_dateOf_eq days
  obtain ⟨era', year', day', hyear', hday', hdays', heq'⟩ := exists_dateOf_eq days'
  rw [heq, heq', Prod.mk.injEq, Prod.mk.injEq] at h
  obtain ⟨hyears, hmonths, hdaysOfMonth⟩ := h
  have hmonth : (5 * day + 2) / 153 = (5 * day' + 2) / 153 :=
    calendarMonth_inj (by omega) (by omega) hmonths
  rw [hmonth] at hyears hdaysOfMonth
  have hera : era = era' := by omega
  have hyear : year = year' := by omega
  have hday : day = day' := by omega
  rw [hdays, hdays', hera, hyear, hday]

/-! ## Stamps -/

/-- The numbers of a date and a time of day stand in two digits each. -/
structure IsReading (d : DateTime) : Prop where
  month_le : d.month ≤ 12
  day_le : d.day ≤ 31
  hour_le : d.hour ≤ 23
  minute_le : d.minute ≤ 59
  second_le : d.second ≤ 59

theorem isReading_ofInstant (t : Instant) : (ofInstant t).IsReading := by
  obtain ⟨era, year, day, hyear, hday, hdays, heq⟩ := exists_dateOf_eq (t.secs / 86400)
  constructor <;> simp only [ofInstant, heq]
  · rw [calendarMonth]
    split <;> omega
  · omega
  · omega
  · omega
  · omega

/-- **Different seconds have different dates or times.** -/
theorem ofInstant_inj {t t' : Instant} : ofInstant t = ofInstant t' ↔ t.secs = t'.secs := by
  constructor
  · intro h
    simp only [ofInstant, DateTime.mk.injEq] at h
    obtain ⟨hyear, hmonth, hday, hhour, hminute, hsecond⟩ := h
    have hdays : t.secs / 86400 = t'.secs / 86400 :=
      dateOf_injective (Prod.ext hyear (Prod.ext hmonth hday))
    omega
  · intro h
    rw [ofInstant, ofInstant, h]

theorem slash_not_mem_yearText (year : Int) : '/' ∉ yearText year := by
  rw [yearText]
  split
  · exact Digits.slash_not_mem_padded _ _
  · rw [List.mem_cons, not_or]
    refine ⟨?_, Digits.slash_not_mem_padded _ _⟩
    split <;> decide

theorem slash_not_mem_stamp (d : DateTime) : '/' ∉ d.stamp.toList := by
  simp only [stamp, String.toList_ofList, List.mem_append, List.mem_cons, not_or]
  simp only [slash_not_mem_yearText, Digits.slash_not_mem_padded, not_false_eq_true, and_self,
    true_and, and_true]
  decide

theorem yearText_inj {year year' : Int} : yearText year = yearText year' ↔ year = year' := by
  refine ⟨fun h => ?_, congrArg yearText⟩
  -- A sign is no digit.
  have hsigned {p : Prop} [Decidable p] {cs : List Char} {n : Nat}
      (heq : Digits.padded 4 n = (if p then '-' else '+') :: cs) : False := by
    have hdigit := Digits.isDigit_of_mem_padded (heq ▸ List.mem_cons_self)
    revert hdigit
    split <;> decide
  unfold yearText at h
  by_cases hy : 0 ≤ year ∧ year ≤ 9999 <;> by_cases hy' : 0 ≤ year' ∧ year' ≤ 9999
  · rw [if_pos hy, if_pos hy', Digits.padded_inj] at h
    omega
  · rw [if_pos hy, if_neg hy'] at h
    exact (hsigned h).elim
  · rw [if_neg hy, if_pos hy'] at h
    exact (hsigned h.symm).elim
  · rw [if_neg hy, if_neg hy', List.cons.injEq, Digits.padded_inj] at h
    obtain ⟨hsign, habs⟩ := h
    have hneg : year < 0 ↔ year' < 0 := by
      by_cases hlt : year < 0 <;> by_cases hlt' : year' < 0 <;> simp [hlt, hlt'] at hsign ⊢
    omega

/-- **Different dates and times of day have different stamps.** -/
theorem stamp_inj {d d' : DateTime} (hd : d.IsReading) (hd' : d'.IsReading) :
    d.stamp = d'.stamp ↔ d = d' := by
  refine ⟨fun h => ?_, congrArg stamp⟩
  obtain ⟨hmo, hda, hho, hmi, hse⟩ := hd
  obtain ⟨hmo', hda', hho', hmi', hse'⟩ := hd'
  have htwo {n m : Nat} (hn : n ≤ 99) (hm : m ≤ 99) :
      (Digits.padded 2 n).length = (Digits.padded 2 m).length := by
    rw [Digits.length_padded (by omega), Digits.length_padded (by omega)]
  have hmonths := htwo (n := d.month) (m := d'.month) (by omega) (by omega)
  have hdays := htwo (n := d.day) (m := d'.day) (by omega) (by omega)
  have hhours := htwo (n := d.hour) (m := d'.hour) (by omega) (by omega)
  have hminutes := htwo (n := d.minute) (m := d'.minute) (by omega) (by omega)
  have hseconds := htwo (n := d.second) (m := d'.second) (by omega) (by omega)
  -- All that follows the year is as long in the one stamp as in the other.
  obtain ⟨hdate, htime⟩ := List.append_inj' (String.ofList_injective h) (by
    simp only [List.length_cons, List.length_append, hhours, hminutes, hseconds])
  obtain ⟨hyearMonth, hday⟩ := List.append_inj' hdate hdays
  obtain ⟨hyear, hmonth⟩ := List.append_inj' hyearMonth hmonths
  obtain ⟨hhourMinute, hsecond⟩ := List.append_inj' (List.cons.inj htime).2 hseconds
  obtain ⟨hhour, hminute⟩ := List.append_inj' hhourMinute hminutes
  rw [yearText_inj] at hyear
  rw [Digits.padded_inj] at hmonth hday hhour hminute hsecond
  cases d
  cases d'
  exact DateTime.mk.injEq .. ▸ ⟨hyear, hmonth, hday, hhour, hminute, hsecond⟩

end DateTime
end CaseSheet
