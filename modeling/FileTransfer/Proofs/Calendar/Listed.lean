import FileTransfer.Calendar.Timestamp
import FileTransfer.Proofs.Text.Decimal

/-!
# Listed instants

The texts that are read as an instant are the fourteen digits of a real date and time, alone or with
a point and up to six decimals of a second after them.

* `Timestamp.digits`: the fourteen digits of an instant.
* `IsFraction`: what may stand after them.
* `Timestamp.IsWritten`: the ways in which an instant is written.
* `read?_eq_some_iff`: reading finds the instant that was written, and nothing else.
-/

namespace FileTransfer.Calendar
open FileTransfer.Text
set_option autoImplicit false

/-! ## Dates and times -/

theorem Date.of?_eq_some_iff (year month day : Nat) (d : Date) :
    Date.of? year month day = some d ↔ d.year = year ∧ d.month = month ∧ d.day = day := by
  unfold Date.of?
  constructor
  · intro h
    split at h
    · cases h
      exact ⟨rfl, rfl, rfl⟩
    · cases h
  · rintro ⟨rfl, rfl, rfl⟩
    exact dif_pos d.isDate

theorem TimeOfDay.of?_eq_some_iff (hour minute second micro : Nat) (t : TimeOfDay) :
    TimeOfDay.of? hour minute second micro = some t ↔
      t.hour = hour ∧ t.minute = minute ∧ t.second = second ∧ t.micro = micro := by
  unfold TimeOfDay.of?
  constructor
  · intro h
    split at h
    · cases h
      exact ⟨rfl, rfl, rfl, rfl⟩
    · cases h
  · rintro ⟨rfl, rfl, rfl, rfl⟩
    exact dif_pos t.isTime

theorem daysInMonth_le (year month : Nat) : daysInMonth year month ≤ 31 := by
  unfold daysInMonth
  split
  · split <;> omega
  · split <;> omega

namespace Timestamp

/-! ## Fourteen digits -/

/-- The digits of the date and of the time to the second. -/
def digits (t : Timestamp) : List Char :=
  decimal 4 t.date.year ++ (decimal 2 t.date.month ++ (decimal 2 t.date.day ++
    (decimal 2 t.time.hour ++ (decimal 2 t.time.minute ++ decimal 2 t.time.second))))

/-- Every field of an instant fits in the digits it is given. -/
theorem fields_lt (t : Timestamp) :
    t.date.year < 10000 ∧ t.date.month < 100 ∧ t.date.day < 100 ∧ t.time.hour < 100 ∧
      t.time.minute < 100 ∧ t.time.second < 100 := by
  obtain ⟨⟨-, hyear⟩, ⟨-, hmonth⟩, -, hday⟩ := t.date.isDate
  obtain ⟨hhour, hminute, hsecond, -⟩ := t.time.isTime
  have hlast := daysInMonth_le t.date.year t.date.month
  omega

theorem length_decimal_two {n : Nat} (h : n < 100) : (decimal 2 n).length = 2 :=
  length_decimal (by decide) h

theorem length_decimal_four {n : Nat} (h : n < 10000) : (decimal 4 n).length = 4 :=
  length_decimal (by decide) h

theorem length_digits (t : Timestamp) : t.digits.length = 14 := by
  obtain ⟨hyear, hmonth, hday, hhour, hminute, hsecond⟩ := t.fields_lt
  simp only [digits, List.length_append, length_decimal_four hyear, length_decimal_two hmonth,
    length_decimal_two hday, length_decimal_two hhour, length_decimal_two hminute,
    length_decimal_two hsecond]

theorem isNumeral_digits (t : Timestamp) : isNumeral 10 t.digits = true := by
  have hall : ∀ width n : Nat, ∀ c ∈ decimal width n, isDigitOf 10 c = true := fun width n =>
    ((isNumeral_iff 10 _).mp (isNumeral_decimal width n)).2
  refine (isNumeral_iff 10 _).mpr ⟨?_, ?_⟩
  · intro hnil
    have hlen := t.length_digits
    rw [hnil] at hlen
    cases hlen
  · intro c hc
    simp only [digits, List.mem_append] at hc
    rcases hc with hc | hc | hc | hc | hc | hc
    all_goals exact hall _ _ c hc

theorem eq_field {s : List Char} {start width n : Nat} (front back : List Char)
    (hs : s = front ++ (decimal width n ++ back)) (hfront : front.length = start)
    (hlen : (decimal width n).length = width) : n = field s start width := by
  rw [field, hs, List.drop_left' hfront, List.take_left' hlen, numeralValue_decimal]

/-- The fields at the six places of the digits of an instant. -/
theorem field_digits (t : Timestamp) :
    t.date.year = field t.digits 0 4 ∧ t.date.month = field t.digits 4 2 ∧
      t.date.day = field t.digits 6 2 ∧ t.time.hour = field t.digits 8 2 ∧
      t.time.minute = field t.digits 10 2 ∧ t.time.second = field t.digits 12 2 := by
  obtain ⟨hyear, hmonth, hday, hhour, hminute, hsecond⟩ := t.fields_lt
  have hy := length_decimal_four hyear
  have hm := length_decimal_two hmonth
  have hd := length_decimal_two hday
  have hh := length_decimal_two hhour
  have hi := length_decimal_two hminute
  have hs := length_decimal_two hsecond
  let y := decimal 4 t.date.year
  let m := decimal 2 t.date.month
  let d := decimal 2 t.date.day
  let h := decimal 2 t.time.hour
  let i := decimal 2 t.time.minute
  let s := decimal 2 t.time.second
  refine ⟨eq_field [] (m ++ (d ++ (h ++ (i ++ s)))) rfl rfl hy,
    eq_field y (d ++ (h ++ (i ++ s))) rfl hy hm,
    eq_field (y ++ m) (h ++ (i ++ s)) ?_ ?_ hd, eq_field (y ++ m ++ d) (i ++ s) ?_ ?_ hh,
    eq_field (y ++ m ++ d ++ h) s ?_ ?_ hi, eq_field (y ++ m ++ d ++ h ++ i) [] ?_ ?_ hs⟩
  all_goals simp [digits, y, m, d, h, i, s, hy, hm, hd, hh, hi]

/-- Digits in a row are the numeral of their value. -/
theorem decimal_field {s : List Char} (hs : ∀ c ∈ s, isDigitOf 10 c = true) {start width : Nat}
    (hwidth : 0 < width) (hlen : start + width ≤ s.length) :
    decimal width (field s start width) = (s.drop start).take width := by
  have hcount : ((s.drop start).take width).length = width := by
    rw [List.length_take, List.length_drop]
    omega
  have hnum : isNumeral 10 ((s.drop start).take width) = true := by
    refine (isNumeral_iff 10 _).mpr ⟨?_, ?_⟩
    · intro hnil
      rw [hnil] at hcount
      exact absurd hcount (Nat.ne_of_lt hwidth)
    · intro c hc
      exact hs c (List.mem_of_mem_drop (List.mem_of_mem_take hc))
  have hvalue := decimal_numeralValue _ hnum
  rw [hcount] at hvalue
  exact hvalue

theorem take_drop_append (s : List Char) (a m n : Nat) :
    (s.drop a).take m ++ (s.drop (a + m)).take n = (s.drop a).take (m + n) := by
  rw [List.take_add, List.drop_drop]

/-- Fourteen digits are those of an instant exactly when its fields are read off their places. -/
theorem ofDigits?_eq_some_iff {s : List Char} (hlen : s.length = 14) (hnum : isNumeral 10 s = true)
    (micro : Nat) (t : Timestamp) :
    ofDigits? s micro = some t ↔ s = t.digits ∧ t.time.micro = micro := by
  have hall := ((isNumeral_iff 10 s).mp hnum).2
  simp only [ofDigits?, Option.bind_eq_bind, Option.bind_eq_some_iff, Date.of?_eq_some_iff,
    TimeOfDay.of?_eq_some_iff]
  constructor
  · rintro ⟨date, ⟨hyear, hmonth, hday⟩, time, ⟨hhour, hminute, hsecond, hmicro⟩, hpair⟩
    cases hpair
    refine ⟨?_, hmicro⟩
    rw [digits, hyear, hmonth, hday, hhour, hminute, hsecond]
    iterate 6 rw [decimal_field hall (by decide) (by omega)]
    rw [take_drop_append s 10 2 2, take_drop_append s 8 2 4, take_drop_append s 6 2 6,
      take_drop_append s 4 2 8, take_drop_append s 0 4 10]
    exact (List.take_of_length_le (Nat.le_of_eq hlen)).symm
  · rintro ⟨rfl, hmicro⟩
    obtain ⟨hyear, hmonth, hday, hhour, hminute, hsecond⟩ := t.field_digits
    exact ⟨t.date, ⟨hyear, hmonth, hday⟩, t.time, ⟨hhour, hminute, hsecond, hmicro⟩, rfl⟩

/-! ## The fraction of a second -/

/-- What may stand after the seconds: nothing, or a point and one to six decimals. -/
def IsFraction (tail : List Char) (micro : Nat) : Prop :=
  (tail = [] ∧ micro = 0) ∨
    ∃ ds, tail = '.' :: ds ∧ isNumeral 10 ds = true ∧ ds.length ≤ 6 ∧
      micro = numeralValue 10 ds * Nat.pow 10 (6 - ds.length)

theorem fraction?_eq_some_iff (tail : List Char) (micro : Nat) :
    fraction? tail = some micro ↔ IsFraction tail micro := by
  cases tail with
  | nil =>
    constructor
    · intro h
      exact .inl ⟨rfl, (Option.some.inj h).symm⟩
    · rintro (⟨-, rfl⟩ | ⟨ds, hds, -⟩)
      · rfl
      · cases hds
  | cons c ds =>
    rw [fraction?]
    constructor
    · intro h
      split at h
      case isTrue hdecimals =>
        obtain ⟨rfl, hnum, hlen⟩ := hdecimals
        refine .inr ⟨ds, rfl, hnum, hlen, ?_⟩
        rw [← numeralValue_append_zeros]
        exact (Option.some.inj h).symm
      case isFalse => cases h
    · rintro (⟨hnil, -⟩ | ⟨ds', htail, hnum, hlen, rfl⟩)
      · cases hnil
      · cases htail
        rw [if_pos ⟨rfl, hnum, hlen⟩, numeralValue_append_zeros]

/-! ## Whole texts -/

/-- The ways in which an instant is written. -/
def IsWritten (t : Timestamp) (s : List Char) : Prop :=
  ∃ tail, s = t.digits ++ tail ∧ IsFraction tail t.time.micro

theorem read?_eq_some_iff (s : List Char) (t : Timestamp) : read? s = some t ↔ t.IsWritten s := by
  simp only [read?, Option.bind_eq_bind, Option.bind_eq_some_iff, fraction?_eq_some_iff]
  constructor
  · rintro ⟨micro, htail, h⟩
    split at h
    case isTrue hdigits =>
      obtain ⟨hs, rfl⟩ := (ofDigits?_eq_some_iff hdigits.1 hdigits.2 micro t).mp h
      exact ⟨s.drop 14, by rw [← hs, List.take_append_drop], htail⟩
    case isFalse => cases h
  · rintro ⟨tail, rfl, htail⟩
    have hlen := t.length_digits
    rw [List.take_left' hlen, List.drop_left' hlen]
    refine ⟨t.time.micro, htail, ?_⟩
    rw [if_pos ⟨hlen, t.isNumeral_digits⟩]
    exact (ofDigits?_eq_some_iff hlen t.isNumeral_digits _ t).mpr ⟨rfl, rfl⟩

theorem IsWritten.unique {s : List Char} {t t' : Timestamp} (h : t.IsWritten s)
    (h' : t'.IsWritten s) : t = t' := by
  have hread := (read?_eq_some_iff s t).mpr h
  rw [(read?_eq_some_iff s t').mpr h'] at hread
  exact (Option.some.inj hread).symm

/-- The listed form is one of the ways. -/
theorem isWritten_listed (t : Timestamp) : t.IsWritten t.listed := by
  obtain ⟨-, -, -, hmicro⟩ := t.time.isTime
  have hlen : (decimal 6 t.time.micro).length = 6 :=
    length_decimal (by decide) (Nat.lt_succ_of_le hmicro)
  refine ⟨'.' :: decimal 6 t.time.micro, by simp [listed, digits], .inr ⟨_, rfl, ?_, ?_, ?_⟩⟩
  · exact isNumeral_decimal 6 t.time.micro
  · exact Nat.le_of_eq hlen
  · rw [hlen, numeralValue_decimal]
    exact (Nat.mul_one _).symm

end Timestamp
end FileTransfer.Calendar
