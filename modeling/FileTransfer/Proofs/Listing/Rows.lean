import FileTransfer.Proofs.Listing.RoundTrip

/-!
# Rows of a listing

What the row of an entry shows, and that a row shows two different entries only where it leaves out
what they differ in.

* `places`, `Shown`: the nine letters for the permissions.
* `permissionLetters_eq_iff`: these letters tell the permissions.
* `toList_row`: the columns of a row.
* `row_shown`: the mode of an entry as its row shows it.
* `row_eq_iff`: entries with the same row.
-/

namespace FileTransfer.Listing
open FileTransfer.Calendar FileTransfer.Text
set_option autoImplicit false

/-! ## Letters -/

/-- What stands at each place for the permissions: for the owner, the group and the others a letter for
reading, one for writing, and one for execution, which shows the special bit as well. Of several
letters the first counts whose bits are all set. -/
def places : List (List (Nat × Char)) := [
  [(0o400, 'r')], [(0o200, 'w')], [(0o4100, 's'), (0o4000, 'S'), (0o100, 'x')],
  [(0o040, 'r')], [(0o020, 'w')], [(0o2010, 's'), (0o2000, 'S'), (0o010, 'x')],
  [(0o004, 'r')], [(0o002, 'w')], [(0o1001, 't'), (0o1000, 'T'), (0o001, 'x')]]

/-- The letter that stands at a place; a dash where the bits of none are set. -/
inductive Shown (bits : Nat) : List (Nat × Char) → Char → Prop
  | set {mask : Nat} {letter : Char} {later : List (Nat × Char)} (h : bits &&& mask = mask) :
      Shown bits ((mask, letter) :: later) letter
  | unset {mask : Nat} {letter c : Char} {later : List (Nat × Char)} (h : bits &&& mask ≠ mask)
      (hlater : Shown bits later c) : Shown bits ((mask, letter) :: later) c
  | none : Shown bits [] '-'

theorem and_eq_right_iff (m x : Nat) :
    m &&& x = x ↔ ∀ i, x.testBit i = true → m.testBit i = true := by
  constructor
  · intro h i hi
    rw [← h, Nat.testBit_and, Bool.and_eq_true] at hi
    exact hi.1
  · intro h
    refine Nat.eq_of_testBit_eq fun i => ?_
    rw [Nat.testBit_and]
    cases hi : x.testBit i with
    | false => exact Bool.and_false _
    | true => rw [h i hi, Bool.and_self]

theorem and_pow_eq_iff (m : Mode) (k : Nat) : m &&& Nat.pow 2 k = Nat.pow 2 k ↔ m.has k = true := by
  simp only [and_eq_right_iff, testBit_pow_iff, forall_eq]
  rfl

theorem and_or_eq_iff (m a b : Nat) : m &&& (a ||| b) = a ||| b ↔ m &&& a = a ∧ m &&& b = b := by
  simp only [and_eq_right_iff, Nat.testBit_or, Bool.or_eq_true, or_imp, forall_and]

theorem shown_one (m : Mode) (k : Nat) (letter : Char) :
    Shown m [(Nat.pow 2 k, letter)] (if m.has k then letter else '-') := by
  split
  case isTrue h => exact .set ((and_pow_eq_iff m k).mpr h)
  case isFalse h => exact .unset (mt (and_pow_eq_iff m k).mp h) .none

theorem shown_class (m : Mode) (shift special : Nat) (both alone : Char) :
    List.Forall₂ (Shown m)
      [[(Nat.pow 2 (shift + 2), 'r')], [(Nat.pow 2 (shift + 1), 'w')],
        [(Nat.pow 2 special ||| Nat.pow 2 shift, both), (Nat.pow 2 special, alone),
          (Nat.pow 2 shift, 'x')]]
      (m.classLetters shift special both alone) := by
  refine .cons (shown_one m _ 'r') (.cons (shown_one m _ 'w') (.cons ?_ .nil))
  cases hspecial : m.has special with
  | true =>
    have hset := (and_pow_eq_iff m special).mpr hspecial
    cases hexecute : m.has shift with
    | true =>
      have hexecutes := (and_pow_eq_iff m shift).mpr hexecute
      exact .set ((and_or_eq_iff m _ _).mpr ⟨hset, hexecutes⟩)
    | false =>
      have hnot := mt (and_pow_eq_iff m shift).mp (Bool.eq_false_iff.mp hexecute)
      exact .unset (fun h => hnot ((and_or_eq_iff m _ _).mp h).2) (.set hset)
  | false =>
    have hnot := mt (and_pow_eq_iff m special).mp (Bool.eq_false_iff.mp hspecial)
    have hplain := shown_one m shift 'x'
    exact .unset (fun h => hnot ((and_or_eq_iff m _ _).mp h).1) (.unset hnot hplain)

theorem shown_permissionLetters (m : Mode) : List.Forall₂ (Shown m) places m.permissionLetters :=
  List.rel_append (List.rel_append (shown_class m 6 11 's' 'S') (shown_class m 3 10 's' 'S'))
    (shown_class m 0 9 't' 'T')

/-! ## Permissions out of letters -/

theorem has_permissions (m : Mode) (i : Nat) :
    Mode.has m.permissions i = (decide (i < 12) && m.has i) := by
  have hmask : Mode.permissionBits.testBit i = decide (i < 12) := Nat.testBit_two_pow_sub_one 12 i
  rw [Mode.has, Mode.permissions, Nat.testBit_and, hmask, Bool.and_comm]
  rfl

theorem permissions_eq_iff (m m' : Mode) :
    m.permissions = m'.permissions ↔ ∀ i < 12, m.has i = m'.has i := by
  constructor
  · intro h i hi
    have hbit := congrArg (Mode.has · i) h
    simpa only [has_permissions, decide_eq_true hi, Bool.true_and] using hbit
  · intro h
    refine Nat.eq_of_testBit_eq fun i => ?_
    show Mode.has m.permissions i = Mode.has m'.permissions i
    rw [has_permissions, has_permissions]
    by_cases hi : i < 12
    · rw [h i hi]
    · rw [decide_eq_false hi, Bool.false_and, Bool.false_and]

/-- The letters of a class of users tell its four bits. -/
theorem classLetters_eq_iff (m m' : Mode) (shift special : Nat) (both alone : Char)
    (hletters : [both, alone, 'x', '-'].Nodup) :
    m.classLetters shift special both alone = m'.classLetters shift special both alone ↔
      ∀ i ∈ [shift + 2, shift + 1, shift, special], m.has i = m'.has i := by
  have hright (b b' : Bool) (letter : Char) (hletter : letter ≠ '-') :
      (if b then letter else '-') = (if b' then letter else '-') ↔ b = b' := by
    cases b <;> cases b' <;> simp [hletter, hletter.symm]
  have hexecution (s x s' x' : Bool) :
      (if s then (if x then both else alone) else if x then 'x' else '-') =
        (if s' then (if x' then both else alone) else if x' then 'x' else '-') ↔
      x = x' ∧ s = s' := by
    simp only [List.nodup_cons, List.mem_cons, not_or, List.not_mem_nil] at hletters
    cases s <;> cases x <;> cases s' <;> cases x' <;> simp_all [eq_comm]
  simp only [Mode.classLetters, List.cons.injEq, and_true, List.forall_mem_cons, List.not_mem_nil,
    false_imp_iff, implies_true]
  rw [hright _ _ 'r' (by decide), hright _ _ 'w' (by decide), hexecution]

theorem permissionLetters_eq_iff (m m' : Mode) :
    m.permissionLetters = m'.permissionLetters ↔ m.permissions = m'.permissions := by
  have howner := classLetters_eq_iff m m' 6 11 's' 'S' (by decide)
  have hgroup := classLetters_eq_iff m m' 3 10 's' 'S' (by decide)
  have hothers := classLetters_eq_iff m m' 0 9 't' 'T' (by decide)
  rw [permissions_eq_iff, Mode.permissionLetters, Mode.permissionLetters]
  constructor
  · intro h
    obtain ⟨hfront, hlast⟩ := List.append_inj' h rfl
    obtain ⟨hfirst, hmiddle⟩ := List.append_inj' hfront rfl
    have hplaces : ∀ i < 12, i ∈ [8, 7, 6, 11] ∨ i ∈ [5, 4, 3, 10] ∨ i ∈ [2, 1, 0, 9] := by decide
    intro i hi
    rcases hplaces i hi with hi | hi | hi
    · exact howner.mp hfirst i hi
    · exact hgroup.mp hmiddle i hi
    · exact hothers.mp hlast i hi
  · intro h
    have hsmall : ∀ is : List Nat, (∀ i ∈ is, i < 12) → ∀ i ∈ is, m.has i = m'.has i := fun _ hlt i hi =>
      h i (hlt i hi)
    rw [howner.mpr (hsmall _ (by decide)), hgroup.mpr (hsmall _ (by decide)),
      hothers.mpr (hsmall _ (by decide))]

/-! ## Modes of entries -/

/-- The mode of an entry that was read is its permissions, and for a directory the bit that says so. -/
theorem mode_of_read {line : String} {skipSelf : Bool} {e : Entry}
    (h : Entry.read line skipSelf = .ok (some e)) :
    e.mode = if e.isDirectory then e.permissions ||| Mode.directory else e.permissions := by
  obtain ⟨facts, path, -, hdescribes⟩ := Entry.describes_of_read h
  obtain ⟨type, bits, -, hpermits, hmode⟩ := hdescribes.mode
  have hle := hpermits.le
  rw [Entry.isDirectory, Entry.permissions, hmode]
  by_cases htype : type ∈ Facts.directoryTypes
  · rw [if_pos htype, isDirectory_or_directory hle, permissions_or_directory hle]
    rfl
  · rw [if_neg htype, not_isDirectory hle, permissions_eq_self hle]
    rfl

/-- A directory shows as one; of anything else the row does not say what it is. -/
theorem kindLetter_of_read {line : String} {skipSelf : Bool} {e : Entry}
    (h : Entry.read line skipSelf = .ok (some e)) :
    e.mode.kindLetter = if e.isDirectory then 'd' else '?' := by
  have hnone : e.permissions &&& Mode.kindBits = 0 := and_kindBits Nat.and_le_right
  rw [mode_of_read h, Mode.kindLetter]
  cases e.isDirectory with
  | true =>
    have hkind : (e.permissions ||| Mode.directory) &&& Mode.kindBits = Mode.directory := by
      rw [Nat.and_or_distrib_right, hnone]
      rfl
    rw [if_pos rfl, hkind]
    rfl
  | false =>
    rw [if_neg Bool.false_ne_true, hnone]
    rfl

/-! ## Columns -/

/-- Numerals that the same character ends, which is no digit, are told apart from what follows. -/
theorem decimal_apart {c : Char} (hc : isDigitOf 10 c = false) {width n n' : Nat} {s s' : List Char}
    (h : decimal width n ++ c :: s = decimal width n' ++ c :: s') : n = n' ∧ s = s' := by
  have hplain : ∀ n, c ∉ decimal width n := by
    intro n hmem
    have hdigit := ((isNumeral_iff 10 _).mp (isNumeral_decimal width n)).2 c hmem
    exact Bool.false_ne_true (hc.symm.trans hdigit)
  obtain ⟨hnumeral, hrest⟩ := (cutAt_singleton (hplain n) s).unique (h ▸ cutAt_singleton (hplain n') s')
  refine ⟨?_, hrest⟩
  rw [← numeralValue_decimal width n, hnumeral, numeralValue_decimal]

theorem writeNumeral_eq_decimal (n : Nat) : writeNumeral 10 n = decimal 0 n := by
  simp [decimal, padZeros]

/-- A numeral is found again behind the blanks that fill up its column. -/
theorem dropWhile_rightAligned (width n : Nat) (s : List Char) :
    (Entry.rightAligned width (writeNumeral 10 n) ++ s).dropWhile (· = ' ') = writeNumeral 10 n ++ s := by
  obtain ⟨hne, hdigits⟩ := (isNumeral_iff 10 _).mp
    (isNumeral_writeNumeral (by decide) (Nat.le_refl 10) n)
  obtain ⟨c, cs, hcons⟩ := List.exists_cons_of_ne_nil hne
  have hc : c ≠ ' ' := by
    rintro rfl
    exact absurd (hdigits ' ' (by rw [hcons]; exact List.mem_cons_self)) (by decide)
  rw [Entry.rightAligned, List.append_assoc, List.dropWhile_append_of_pos]
  · rw [hcons, List.cons_append, List.dropWhile_cons_of_neg (by simpa using hc)]
  · intro x hx
    rw [(List.mem_replicate.mp hx).2]
    rfl

theorem size_apart {n n' : Nat} {s s' : List Char}
    (h : Entry.rightAligned 12 (writeNumeral 10 n) ++ ' ' :: s =
      Entry.rightAligned 12 (writeNumeral 10 n') ++ ' ' :: s') : n = n' ∧ s = s' := by
  have hnumerals := congrArg (List.dropWhile (· = ' ')) h
  rw [dropWhile_rightAligned, dropWhile_rightAligned, writeNumeral_eq_decimal,
    writeNumeral_eq_decimal] at hnumerals
  exact decimal_apart (by decide) hnumerals

theorem toList_column (t : Timestamp) (s : List Char) :
    t.column.toList ++ ' ' :: s = decimal 0 t.date.year ++ '-' :: (decimal 2 t.date.month ++
      '-' :: (decimal 2 t.date.day ++ ' ' :: (decimal 2 t.time.hour ++
      ':' :: (decimal 2 t.time.minute ++ ':' :: (decimal 2 t.time.second ++ ' ' :: s))))) := by
  simp [Timestamp.column, TimeOfDay.clock, writeNumeral_eq_decimal]

/-- The time in a row is told to the second, by a year of any number of digits. -/
theorem column_apart {t t' : Timestamp} {s s' : List Char}
    (h : t.column.toList ++ ' ' :: s = t'.column.toList ++ ' ' :: s') :
    (t.date = t'.date ∧ t.time.hour = t'.time.hour ∧ t.time.minute = t'.time.minute ∧
      t.time.second = t'.time.second) ∧ s = s' := by
  rw [toList_column, toList_column] at h
  obtain ⟨hyear, h⟩ := decimal_apart (by decide) h
  obtain ⟨hmonth, h⟩ := decimal_apart (by decide) h
  obtain ⟨hday, h⟩ := decimal_apart (by decide) h
  obtain ⟨hhour, h⟩ := decimal_apart (by decide) h
  obtain ⟨hminute, h⟩ := decimal_apart (by decide) h
  obtain ⟨hsecond, h⟩ := decimal_apart (by decide) h
  have hdate := (Date.of?_eq_some_iff _ _ _ t.date).mpr ⟨hyear, hmonth, hday⟩
  rw [(Date.of?_eq_some_iff _ _ _ t'.date).mpr ⟨rfl, rfl, rfl⟩] at hdate
  exact ⟨⟨(Option.some.inj hdate).symm, hhour, hminute, hsecond⟩, h⟩

theorem toList_row {e : Entry} {n : Nat} (hsize : e.size = n) :
    e.row.toList = e.mode.column ++ ' ' :: (Entry.rightAligned 12 (writeNumeral 10 n) ++
      ' ' :: (e.modified.column.toList ++ ' ' :: e.name.toList)) := by
  have hdigits : (toString e.size).toList = writeNumeral 10 n := by
    rw [hsize]
    exact toList_toString n
  rw [Entry.row]
  simp only [hdigits, String.toList_append, String.toList_ofList, List.append_assoc, List.cons_append]
  rfl

/-! ## Rows -/

/-- The row of an entry that was read begins with the letter of a directory, or with one that says
nothing of what else it is; then each permission shows at its place. -/
theorem row_shown {line : String} {skipSelf : Bool} {e : Entry}
    (h : Entry.read line skipSelf = .ok (some e)) :
    ∃ letters columns, e.row.toList = (if e.isDirectory then 'd' else '?') :: letters ++ ' ' :: columns ∧
      List.Forall₂ (Shown e.permissions) places letters := by
  obtain ⟨facts, path, -, hdescribes⟩ := Entry.describes_of_read h
  obtain ⟨n, -, hsize⟩ := hdescribes.size
  have hrow := toList_row hsize
  rw [Mode.column, kindLetter_of_read h] at hrow
  have hletters := (permissionLetters_eq_iff e.permissions e.mode).mpr
    (permissions_eq_self Nat.and_le_right)
  refine ⟨_, _, hrow, ?_⟩
  rw [← hletters]
  exact shown_permissionLetters e.permissions

/-- A directory whose permissions have all the special bits, not all of them with execution. -/
theorem row_shown_special :
    ∃ e, Entry.read "type=dir;modify=20150216084148;unix.mode=107754; d" false = .ok (some e) ∧
      e.row = "drwsr-sr-T            0 2015-02-16 08:41:48 d" ∧
      ∃ letters columns, e.row.toList = 'd' :: letters ++ ' ' :: columns ∧
        List.Forall₂ (Shown 0o7754) places letters := by
  have hread : Entry.read "type=dir;modify=20150216084148;unix.mode=107754; d" false =
      .ok (some ⟨"d", 0, 0o47754, ⟨⟨2015, 2, 16, by decide⟩, ⟨8, 41, 48, 0, by decide⟩⟩,
        "type=dir;modify=20150216084148;unix.mode=107754; d"⟩) := by decide
  exact ⟨_, hread, by decide, row_shown hread⟩

/-- The row of a plain file does not begin with a dash. -/
theorem file_row_without_dash :
    ∃ e, Entry.read "type=file;size=12;modify=20150216084148;unix.mode=0644; lorem.txt" true =
        .ok (some e) ∧ e.isDirectory = false ∧
      e.row = "?rw-r--r--           12 2015-02-16 08:41:48 lorem.txt" ∧ e.row.toList.head? ≠ some '-' :=
  ⟨⟨"lorem.txt", 12, 0o644, ⟨⟨2015, 2, 16, by decide⟩, ⟨8, 41, 48, 0, by decide⟩⟩,
    "type=file;size=12;modify=20150216084148;unix.mode=0644; lorem.txt"⟩,
    by decide, by decide, by decide, by decide⟩

/-- Two entries that were read have the same row exactly when they agree in what rows show: the name,
the size, the permissions, whether it is a directory, and the time to the second. -/
theorem row_eq_iff {line line' : String} {skipSelf skipSelf' : Bool} {e e' : Entry}
    (h : Entry.read line skipSelf = .ok (some e)) (h' : Entry.read line' skipSelf' = .ok (some e')) :
    e.row = e'.row ↔
      e.name = e'.name ∧ e.size = e'.size ∧ e.permissions = e'.permissions ∧
      e.isDirectory = e'.isDirectory ∧ e.modified.date = e'.modified.date ∧
      e.modified.time.hour = e'.modified.time.hour ∧
      e.modified.time.minute = e'.modified.time.minute ∧
      e.modified.time.second = e'.modified.time.second := by
  obtain ⟨facts, path, -, hdescribes⟩ := Entry.describes_of_read h
  obtain ⟨facts', path', -, hdescribes'⟩ := Entry.describes_of_read h'
  obtain ⟨n, -, hsize⟩ := hdescribes.size
  obtain ⟨n', -, hsize'⟩ := hdescribes'.size
  rw [← String.toList_inj, toList_row hsize, toList_row hsize']
  constructor
  · intro hrow
    obtain ⟨hcolumn, hrest⟩ := List.append_inj hrow rfl
    obtain ⟨hkind, hletters⟩ := List.cons.inj hcolumn
    obtain ⟨hnumber, hrest⟩ := size_apart (List.cons.inj hrest).2
    obtain ⟨⟨hdate, hhour, hminute, hsecond⟩, hname⟩ := column_apart hrest
    rw [kindLetter_of_read h, kindLetter_of_read h'] at hkind
    have hdirectory : e.isDirectory = e'.isDirectory := by
      revert hkind
      cases e.isDirectory <;> cases e'.isDirectory <;> decide
    exact ⟨String.toList_inj.mp hname, by rw [hsize, hsize', hnumber],
      (permissionLetters_eq_iff _ _).mp hletters, hdirectory, hdate, hhour, hminute, hsecond⟩
  · rintro ⟨hname, hsizes, hpermissions, hdirectory, hdate, hhour, hminute, hsecond⟩
    have hmode : e.mode = e'.mode := by rw [mode_of_read h, mode_of_read h', hpermissions, hdirectory]
    have hnumber : n = n' := by
      rw [hsize, hsize'] at hsizes
      exact Int.ofNat_inj.mp hsizes
    rw [hmode, hnumber, hname, toList_column, toList_column, hdate, hhour, hminute, hsecond]

/-- Two rows that are the same although size, year and name are of unusual lengths; they leave out the
directories that the entries are in, and the fractions of their seconds. -/
theorem row_eq_iff_unusual :
    ∃ e e', Entry.read "type=file;size=1234567890123;modify=00050216084148.25; a/7 2 b" true =
        .ok (some e) ∧
      Entry.read "Perm=r;type=file;size=01234567890123;modify=00050216084148; c/7 2 b" false =
        .ok (some e') ∧
      e.row = e'.row ∧ e.modified ≠ e'.modified ∧ e.name = e'.name ∧ e.size = e'.size := by
  have hread : Entry.read "type=file;size=1234567890123;modify=00050216084148.25; a/7 2 b" true =
      .ok (some ⟨"7 2 b", 1234567890123, 0o400,
        ⟨⟨5, 2, 16, by decide⟩, ⟨8, 41, 48, 250000, by decide⟩⟩,
        "type=file;size=1234567890123;modify=00050216084148.25; a/7 2 b"⟩) := by decide
  have hread' :
      Entry.read "Perm=r;type=file;size=01234567890123;modify=00050216084148; c/7 2 b" false =
      .ok (some ⟨"7 2 b", 1234567890123, 0o400,
        ⟨⟨5, 2, 16, by decide⟩, ⟨8, 41, 48, 0, by decide⟩⟩,
        "Perm=r;type=file;size=01234567890123;modify=00050216084148; c/7 2 b"⟩) := by decide
  have hrows := (row_eq_iff hread hread').mpr ⟨rfl, rfl, rfl, rfl, rfl, rfl, rfl, rfl⟩
  obtain ⟨hname, hsize, -⟩ := (row_eq_iff hread hread').mp hrows
  exact ⟨_, _, hread, hread', hrows, by decide, hname, hsize⟩

end FileTransfer.Listing
