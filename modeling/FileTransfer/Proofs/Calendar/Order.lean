import FileTransfer.Proofs.Calendar.Listed

/-!
# Instants in order

Which texts are read as an instant, what is read of them, and that instants follow each other as the
texts do that tell them to the microsecond.

* `IsDay`: the days of the Gregorian calendar, month by month.
* `Timestamp.IsStamp`: the texts that name an instant.
* `Timestamp.filled`: such a text with all six decimals of a second.
* `compare_append`, `compare_decimal`: texts of fields of fixed widths compare as the fields do.
* `read?_in_order`: reading is exact, and keeps the order.
-/

namespace FileTransfer.Calendar
open FileTransfer.Text
set_option autoImplicit false

/-! ## The Gregorian calendar -/

/-- The days of a year: February has a twenty-ninth in the years that four divides, but not in those
that a hundred divides and four hundred does not. -/
inductive IsDay (year : Nat) : Nat → Nat → Prop
  | long {month day : Nat} (hmonth : month ∈ [1, 3, 5, 7, 8, 10, 12]) (hday : 1 ≤ day ∧ day ≤ 31) :
      IsDay year month day
  | short {month day : Nat} (hmonth : month ∈ [4, 6, 9, 11]) (hday : 1 ≤ day ∧ day ≤ 30) :
      IsDay year month day
  | february {day : Nat} (hday : 1 ≤ day ∧ day ≤ 28) : IsDay year 2 day
  | leap (hfour : 4 ∣ year) (hcentury : 100 ∣ year → 400 ∣ year) : IsDay year 2 29

theorem isLeapYear_iff (year : Nat) :
    isLeapYear year = true ↔ 4 ∣ year ∧ (100 ∣ year → 400 ∣ year) := by
  simp only [isLeapYear, Bool.and_eq_true, Bool.or_eq_true, decide_eq_true_iff, bne_iff_ne]
  omega

theorem isDate_iff (year month day : Nat) :
    IsDate year month day ↔ (1 ≤ year ∧ year ≤ 9999) ∧ IsDay year month day := by
  refine and_congr_right fun _ => ?_
  constructor
  · rintro ⟨hmonth, hfirst, hlast⟩
    unfold daysInMonth at hlast
    split at hlast
    case isTrue hfebruary =>
      subst hfebruary
      split at hlast
      case isTrue hleap =>
        obtain ⟨hfour, hcentury⟩ := (isLeapYear_iff year).mp hleap
        rcases Nat.lt_or_ge 28 day with hmore | hfew
        · obtain rfl : day = 29 := by omega
          exact .leap hfour hcentury
        · exact .february ⟨hfirst, hfew⟩
      case isFalse => exact .february ⟨hfirst, hlast⟩
    case isFalse hother =>
      split at hlast
      case isTrue hshort => exact .short (by simpa using hshort) ⟨hfirst, hlast⟩
      case isFalse hlong =>
        refine .long ?_ ⟨hfirst, hlast⟩
        simp only [List.mem_cons, List.not_mem_nil, or_false]
        omega
  · intro h
    cases h with
    | long hmonth hday =>
      simp only [List.mem_cons, List.not_mem_nil, or_false] at hmonth
      have hlength : daysInMonth year month = 31 := by
        rw [daysInMonth, if_neg (by omega), if_neg (by omega)]
      rw [hlength]
      omega
    | short hmonth hday =>
      simp only [List.mem_cons, List.not_mem_nil, or_false] at hmonth
      have hlength : daysInMonth year month = 30 := by
        rw [daysInMonth, if_neg (by omega), if_pos hmonth]
      rw [hlength]
      omega
    | february hday =>
      have hlength : 28 ≤ daysInMonth year 2 := by
        rw [daysInMonth, if_pos rfl]
        split <;> omega
      omega
    | leap hfour hcentury =>
      have hlength : daysInMonth year 2 = 29 := by
        rw [daysInMonth, if_pos rfl, if_pos ((isLeapYear_iff year).mpr ⟨hfour, hcentury⟩)]
      rw [hlength]
      omega

/-! ## Texts in order -/

/-- Of two texts with fronts of one length, the fronts decide, and then the rest. -/
theorem compare_append {a b : List Char} (hlen : a.length = b.length) (c d : List Char) :
    compare (a ++ c) (b ++ d) = (compare a b).then (compare c d) := by
  induction a generalizing b with
  | nil =>
    obtain rfl := List.length_eq_zero_iff.mp hlen.symm
    rfl
  | cons x a ih =>
    cases b with
    | nil => cases hlen
    | cons y b =>
      have hrest := ih (Nat.succ.inj hlen)
      rw [List.cons_append, List.cons_append, List.compare_cons_cons, List.compare_cons_cons, hrest,
        Ordering.then_assoc]

theorem compare_digit {d e : Nat} (hd : d < 10) (he : e < 10) :
    compare [Nat.digitChar d] [Nat.digitChar e] = compare d e := by
  have hall : ∀ d < 10, ∀ e < 10, compare (Nat.digitChar d) (Nat.digitChar e) = compare d e := by
    decide
  rw [List.compare_cons_cons, hall d hd e he, List.compare_nil_nil, Ordering.then_eq]

/-- Numbers compare by their tens and then by their last digits. -/
theorem compare_tens (n m : Nat) :
    (compare (n / 10) (m / 10)).then (compare (n % 10) (m % 10)) = compare n m := by
  rcases Nat.lt_trichotomy (n / 10) (m / 10) with hlt | heq | hgt
  · have hless : n < m := by omega
    rw [Nat.compare_eq_lt.mpr hlt, Nat.compare_eq_lt.mpr hless, Ordering.lt_then]
  · rw [heq, Nat.compare_eq_eq.mpr rfl, Ordering.eq_then]
    rcases Nat.lt_trichotomy n m with hless | rfl | hmore
    · rw [Nat.compare_eq_lt.mpr hless, Nat.compare_eq_lt.mpr (by omega)]
    · rw [Nat.compare_eq_eq.mpr rfl, Nat.compare_eq_eq.mpr rfl]
    · rw [Nat.compare_eq_gt.mpr hmore, Nat.compare_eq_gt.mpr (by omega)]
  · have hmore : m < n := by omega
    rw [Nat.compare_eq_gt.mpr hgt, Nat.compare_eq_gt.mpr hmore, Ordering.gt_then]

/-- Numerals of one width compare as the numbers that fit in it. -/
theorem compare_decimal {width n m : Nat} (hn : n < Nat.pow 10 (width + 1))
    (hm : m < Nat.pow 10 (width + 1)) :
    compare (decimal (width + 1) n) (decimal (width + 1) m) = compare n m := by
  induction width generalizing n m with
  | zero =>
    have hn' : n < 10 := hn
    have hm' : m < 10 := hm
    rw [decimal_one hn', decimal_one hm', compare_digit hn' hm']
  | succ width ih =>
    have hpow : Nat.pow 10 (width + 1 + 1) = Nat.pow 10 (width + 1) * 10 := rfl
    have hn' : n / 10 < Nat.pow 10 (width + 1) := by omega
    have hm' : m / 10 < Nat.pow 10 (width + 1) := by omega
    have hlen : (decimal (width + 1) (n / 10)).length = (decimal (width + 1) (m / 10)).length := by
      rw [length_decimal (Nat.succ_pos width) hn', length_decimal (Nat.succ_pos width) hm']
    rw [decimal_succ, decimal_succ, compare_append hlen, ih hn' hm',
      compare_digit (Nat.mod_lt n (by decide)) (Nat.mod_lt m (by decide)), compare_tens]

namespace Timestamp

/-! ## Instants in order -/

/-- The fields of an instant, from the year to the microsecond. -/
def fields (t : Timestamp) : List Nat :=
  [t.date.year, t.date.month, t.date.day, t.time.hour, t.time.minute, t.time.second, t.time.micro]

/-- Instants follow each other by the first field in which they differ. -/
instance : Ord Timestamp where
  compare t t' := compare t.fields t'.fields

theorem compare_listed (t t' : Timestamp) : compare t.listed t'.listed = compare t t' := by
  obtain ⟨hyear, hmonth, hday, hhour, hminute, hsecond⟩ := t.fields_lt
  obtain ⟨hyear', hmonth', hday', hhour', hminute', hsecond'⟩ := t'.fields_lt
  have hmicro : t.time.micro < Nat.pow 10 6 := Nat.lt_succ_of_le t.time.isTime.2.2.2
  have hmicro' : t'.time.micro < Nat.pow 10 6 := Nat.lt_succ_of_le t'.time.isTime.2.2.2
  -- each field takes its digits off the front of both texts
  have htwo {n m : Nat} (hn : n < 100) (hm : m < 100) (c d : List Char) :
      compare (decimal 2 n ++ c) (decimal 2 m ++ d) = (compare n m).then (compare c d) := by
    rw [compare_append ((length_decimal_two hn).trans (length_decimal_two hm).symm),
      compare_decimal hn hm]
  have hfour (c d : List Char) : compare (decimal 4 t.date.year ++ c) (decimal 4 t'.date.year ++ d) =
      (compare t.date.year t'.date.year).then (compare c d) := by
    rw [compare_append ((length_decimal_four hyear).trans (length_decimal_four hyear').symm),
      compare_decimal hyear hyear']
  have hpoint (c d : List Char) : compare ('.' :: c) ('.' :: d) = compare c d := by
    rw [List.compare_cons_cons]
    rfl
  have hfields : compare t t' = compare t.fields t'.fields := rfl
  rw [hfields]
  simp only [listed, List.append_assoc, fields, List.compare_cons_cons, List.compare_nil_nil,
    Ordering.then_eq]
  rw [hfour, htwo hmonth hmonth', htwo hday hday', htwo hhour hhour', htwo hminute hminute',
    htwo hsecond hsecond', hpoint, compare_decimal hmicro hmicro']

/-! ## Texts that name an instant -/

/-- Fourteen digits that name a day and a time of day, and after them nothing, or a point and one to
six digits. -/
structure IsStamp (s : List Char) : Prop where
  digits : ∀ c ∈ s.take 14, '0' ≤ c ∧ c ≤ '9'
  length : (s.take 14).length = 14
  year : 1 ≤ field s 0 4 ∧ field s 0 4 ≤ 9999
  day : IsDay (field s 0 4) (field s 4 2) (field s 6 2)
  hour : field s 8 2 ≤ 23
  minute : field s 10 2 ≤ 59
  second : field s 12 2 ≤ 59
  fraction : s.drop 14 = [] ∨ ∃ ds, s.drop 14 = '.' :: ds ∧ 1 ≤ ds.length ∧ ds.length ≤ 6 ∧
    ∀ c ∈ ds, '0' ≤ c ∧ c ≤ '9'

/-- The fourteen digits of a text, and the fraction of a second filled up to six digits. -/
def filled (s : List Char) : List Char :=
  s.take 14 ++ '.' :: (s.drop 15 ++ List.replicate (6 - (s.drop 15).length) '0')

theorem field_take {s : List Char} {start count : Nat} (h : start + count ≤ 14) :
    field (s.take 14) start count = field s start count := by
  rw [field, field, List.drop_take, List.take_take, Nat.min_eq_left (by omega)]

/-- The fraction of a second that some digits tell is one of less than a second. -/
theorem exists_fraction {ds : List Char} (hne : 1 ≤ ds.length) (hlen : ds.length ≤ 6)
    (hall : ∀ c ∈ ds, '0' ≤ c ∧ c ≤ '9') :
    ∃ micro ≤ 999999, IsFraction ('.' :: ds) micro := by
  have hdigits : ∀ c ∈ ds, isDigitOf 10 c = true := fun c hc => (isDigitOf_ten_iff c).mpr (hall c hc)
  have hnum : isNumeral 10 ds = true :=
    (isNumeral_iff 10 ds).mpr ⟨List.ne_nil_of_length_pos hne, hdigits⟩
  refine ⟨_, ?_, .inr ⟨ds, rfl, hnum, hlen, rfl⟩⟩
  have hfilled := isNumeral_append_zeros (6 - ds.length) (by decide) hnum
  have hvalue := numeralValue_lt ((isNumeral_iff 10 _).mp hfilled).2
  rw [List.length_append, List.length_replicate, Nat.add_sub_cancel' hlen] at hvalue
  rw [← numeralValue_append_zeros]
  exact Nat.lt_succ_iff.mp hvalue

theorem isStamp_of_isWritten {t : Timestamp} {s : List Char} (h : t.IsWritten s) : IsStamp s := by
  obtain ⟨tail, rfl, htail⟩ := h
  have hlen := t.length_digits
  have htake : (t.digits ++ tail).take 14 = t.digits := List.take_left' hlen
  have hdrop : (t.digits ++ tail).drop 14 = tail := List.drop_left' hlen
  have hfield {start count : Nat} (h : start + count ≤ 14) :
      field (t.digits ++ tail) start count = field t.digits start count := by
    rw [← field_take h, htake]
  obtain ⟨hyear, hmonth, hday, hhour, hminute, hsecond⟩ := t.field_digits
  obtain ⟨hyears, hdays⟩ := (isDate_iff _ _ _).mp t.date.isDate
  obtain ⟨hhours, hminutes, hseconds, -⟩ := t.time.isTime
  have hdigits := ((isNumeral_iff 10 _).mp t.isNumeral_digits).2
  refine ⟨?_, ?_, ?_, ?_, ?_, ?_, ?_, ?_⟩
  · rw [htake]
    exact fun c hc => (isDigitOf_ten_iff c).mp (hdigits c hc)
  · rw [htake]
    exact hlen
  · rw [hfield (by decide), ← hyear]
    exact hyears
  · rw [hfield (by decide), hfield (by decide), hfield (by decide), ← hyear, ← hmonth, ← hday]
    exact hdays
  · rw [hfield (by decide), ← hhour]
    exact hhours
  · rw [hfield (by decide), ← hminute]
    exact hminutes
  · rw [hfield (by decide), ← hsecond]
    exact hseconds
  · rw [hdrop]
    obtain ⟨rfl, -⟩ | ⟨ds, rfl, hnum, hle, -⟩ := htail
    · exact .inl rfl
    · obtain ⟨hne, hall⟩ := (isNumeral_iff 10 ds).mp hnum
      exact .inr ⟨ds, rfl, List.length_pos_iff.mpr hne, hle,
        fun c hc => (isDigitOf_ten_iff c).mp (hall c hc)⟩

theorem IsStamp.exists_isWritten {s : List Char} (h : IsStamp s) : ∃ t : Timestamp, t.IsWritten s := by
  obtain ⟨micro, hmicro, htail⟩ : ∃ micro ≤ 999999, IsFraction (s.drop 14) micro := by
    obtain hnone | ⟨ds, hds, hne, hle, hall⟩ := h.fraction
    · exact ⟨0, by decide, .inl ⟨hnone, rfl⟩⟩
    · rw [hds]
      exact exists_fraction hne hle hall
  let t : Timestamp := ⟨⟨field s 0 4, field s 4 2, field s 6 2, (isDate_iff _ _ _).mpr ⟨h.year, h.day⟩⟩,
    ⟨field s 8 2, field s 10 2, field s 12 2, micro, h.hour, h.minute, h.second, hmicro⟩⟩
  have hnum : isNumeral 10 (s.take 14) = true := by
    refine (isNumeral_iff 10 _).mpr ⟨?_, fun c hc => (isDigitOf_ten_iff c).mpr (h.digits c hc)⟩
    exact List.ne_nil_of_length_pos (by rw [h.length]; decide)
  -- the fields of the text are those of the instant, so its digits are the ones of the text
  have hread : ofDigits? (s.take 14) micro = some t := by
    simp only [ofDigits?, Option.bind_eq_bind, Option.bind_eq_some_iff, Date.of?_eq_some_iff,
      TimeOfDay.of?_eq_some_iff]
    refine ⟨t.date, ⟨?_, ?_, ?_⟩, t.time, ⟨?_, ?_, ?_, rfl⟩, rfl⟩
    all_goals exact (field_take (by decide)).symm
  obtain ⟨hdigits, -⟩ := (ofDigits?_eq_some_iff h.length hnum micro t).mp hread
  exact ⟨t, s.drop 14, by rw [← hdigits, List.take_append_drop], htail⟩

theorem listed_eq_filled {t : Timestamp} {s : List Char} (h : t.IsWritten s) : t.listed = filled s := by
  obtain ⟨tail, rfl, htail⟩ := h
  have hlen := t.length_digits
  have hdrop : (t.digits ++ tail).drop 15 = tail.drop 1 := by
    rw [← List.drop_drop (i := 1) (j := 14), List.drop_left' hlen]
  have hlisted : t.listed = t.digits ++ '.' :: decimal 6 t.time.micro := by simp [listed, digits]
  rw [filled, List.take_left' hlen, hdrop, hlisted]
  obtain ⟨rfl, hmicro⟩ | ⟨ds, rfl, hnum, hle, hmicro⟩ := htail
  · rw [hmicro]
    rfl
  · have hvalue := decimal_numeralValue _ (isNumeral_append_zeros (6 - ds.length) (by decide) hnum)
    rw [List.length_append, List.length_replicate, Nat.add_sub_cancel' hle,
      numeralValue_append_zeros, ← hmicro] at hvalue
    rw [hvalue, List.drop_one, List.tail_cons]

/-- A text is read as an instant exactly when it names one. The instant, listed to the microsecond, is
the text with its fraction filled up, and of two instants that were read one comes before the other
just as those texts do. -/
theorem read?_in_order (s : List Char) :
    ((∃ t, read? s = some t) ↔ IsStamp s) ∧
    ∀ t, read? s = some t → t.listed = filled s ∧
      ∀ s' t', read? s' = some t' → compare t t' = compare (filled s) (filled s') := by
  simp only [read?_eq_some_iff]
  refine ⟨⟨fun ⟨t, h⟩ => isStamp_of_isWritten h, IsStamp.exists_isWritten⟩, fun t h => ?_⟩
  refine ⟨listed_eq_filled h, fun s' t' h' => ?_⟩
  rw [← compare_listed, listed_eq_filled h, listed_eq_filled h']

/-- The twenty-ninth of February of a year that four hundred divides. -/
theorem read?_in_order_leap_day :
    ∃ t, read? "20000229235959.25".toList = some t ∧ t.listed = "20000229235959.250000".toList ∧
      ∀ t', read? "20000301000000".toList = some t' → compare t t' = .lt := by
  have hread : ∃ t, read? "20000229235959.25".toList = some t :=
    ⟨⟨⟨2000, 2, 29, by decide⟩, ⟨23, 59, 59, 250000, by decide⟩⟩, by decide⟩
  obtain ⟨t, hread⟩ := hread
  obtain ⟨hlisted, horder⟩ := (read?_in_order _).2 t hread
  refine ⟨t, hread, hlisted.trans (by decide), fun t' hread' => ?_⟩
  rw [horder _ t' hread']
  decide

end Timestamp
end FileTransfer.Calendar
