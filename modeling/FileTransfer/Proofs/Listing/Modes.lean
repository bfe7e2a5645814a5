import FileTransfer.Proofs.Listing.Decoding

/-!
# The mode of an entry

A mode is made of the permissions that a line tells and of the kind that its type tells, and neither
part shows in the other.

* `permissions_or_directory`, `isDirectory_or_directory`, `or_directory_eq_add`: the two parts.
* `Grants`: the permission bits that a letter of a `perm` fact gives.
* `testBit_lettersBits`: the letters of a fact together.
* `mode_told`: the mode of any entry that was read.
-/

namespace FileTransfer.Listing
open FileTransfer.Text
set_option autoImplicit false

/-! ## Kind and permissions -/

section Kinds
variable {p : Nat} (hp : p ≤ 0o7777)
include hp

theorem permissions_eq_self : Mode.permissions p = p :=
  Nat.and_two_pow_sub_one_of_lt_two_pow (n := 12) (Nat.lt_succ_of_le hp)

theorem permissions_or_directory : Mode.permissions (p ||| Mode.directory) = p := by
  have hself : p &&& Mode.permissionBits = p := permissions_eq_self hp
  rw [Mode.permissions, Nat.and_or_distrib_right, hself]
  exact Nat.or_zero p

theorem and_kindBits : p &&& Mode.kindBits = 0 := by
  have hself : p &&& Mode.permissionBits = p := permissions_eq_self hp
  rw [← hself, Nat.and_assoc]
  exact Nat.and_zero p

theorem isDirectory_or_directory : Mode.isDirectory (p ||| Mode.directory) = true := by
  rw [Mode.isDirectory, Nat.and_or_distrib_right, and_kindBits hp]
  decide

theorem not_isDirectory : Mode.isDirectory p = false := by
  rw [Mode.isDirectory, and_kindBits hp]
  decide

theorem or_directory_eq_add : p ||| Mode.directory = p + Mode.directory := by
  have hsmall : p < Nat.pow 2 14 := Nat.lt_of_le_of_lt hp (by decide)
  rw [Nat.or_comm, Nat.add_comm]
  exact (Nat.two_pow_add_eq_or_of_lt hsmall 1).symm

end Kinds

/-! ## Letters -/

/-- The bits of the owner that a letter gives: to write, for any right to change the entry; to read and
to enter, for listing; to read, for retrieving. -/
inductive Grants : Char → Nat → Prop
  | change {c : Char} (h : c ∈ ['a', 'd', 'c', 'f', 'm', 'p', 'w']) : Grants c 7
  | list : Grants 'l' 8
  | enter : Grants 'l' 6
  | retrieve : Grants 'r' 8

theorem grants_iff (c : Char) (i : Nat) :
    Grants c i ↔ (c ∈ ['a', 'd', 'c', 'f', 'm', 'p', 'w'] ∧ i = 7) ∨
      (c = 'l' ∧ (i = 8 ∨ i = 6)) ∨ (c = 'r' ∧ i = 8) := by
  constructor
  · intro h
    cases h with
    | change h => exact .inl ⟨h, rfl⟩
    | list => exact .inr (.inl ⟨rfl, .inl rfl⟩)
    | enter => exact .inr (.inl ⟨rfl, .inr rfl⟩)
    | retrieve => exact .inr (.inr ⟨rfl, rfl⟩)
  · rintro (⟨h, rfl⟩ | ⟨rfl, rfl | rfl⟩ | ⟨rfl, rfl⟩)
    · exact .change h
    · exact .list
    · exact .enter
    · exact .retrieve

theorem testBit_pow_iff (k i : Nat) : (Nat.pow 2 k).testBit i = true ↔ i = k := by
  have hbit : (Nat.pow 2 k).testBit i = decide (k = i) := Nat.testBit_two_pow
  rw [hbit, decide_eq_true_iff, eq_comm]

theorem testBit_letterBits (c : Char) (i : Nat) :
    (Facts.letterBits c).testBit i = true ↔ Grants c i := by
  have hletters : "adcfmpw".toList = ['a', 'd', 'c', 'f', 'm', 'p', 'w'] := by decide
  rw [grants_iff, ← List.contains_iff_mem, Facts.letterBits, hletters]
  by_cases hchange : ['a', 'd', 'c', 'f', 'm', 'p', 'w'].contains c = true
  · have hlist : c ≠ 'l' := by
      rintro rfl
      exact absurd hchange (by decide)
    have hretrieve : c ≠ 'r' := by
      rintro rfl
      exact absurd hchange (by decide)
    rw [if_pos hchange, show 0o200 = Nat.pow 2 7 from rfl, testBit_pow_iff]
    simp only [hchange, hlist, hretrieve, true_and, false_and, or_false]
  · rw [if_neg hchange]
    by_cases hlist : c = 'l'
    · subst hlist
      rw [if_pos rfl, show 0o500 = Nat.pow 2 8 ||| Nat.pow 2 6 from rfl, Nat.testBit_or,
        Bool.or_eq_true, testBit_pow_iff, testBit_pow_iff]
      simp
    · rw [if_neg hlist]
      by_cases hretrieve : c = 'r'
      · subst hretrieve
        rw [if_pos rfl, show 0o400 = Nat.pow 2 8 from rfl, testBit_pow_iff]
        simp
      · rw [if_neg hretrieve, Nat.zero_testBit]
        simp only [hchange, hlist, hretrieve, false_and, or_false, Bool.false_eq_true]

/-- The letters of a fact give what any of them gives. -/
theorem testBit_lettersBits (letters : List Char) (i : Nat) :
    (Facts.lettersBits letters).testBit i = true ↔ ∃ c ∈ letters, Grants c i := by
  -- the letters are taken in from the front, so the bits of those before are generalised
  have hfold : ∀ bits, (letters.foldl (fun bits c => bits ||| Facts.letterBits c) bits).testBit i = true ↔
      bits.testBit i = true ∨ ∃ c ∈ letters, Grants c i := by
    induction letters with
    | nil => simp
    | cons c letters ih =>
      intro bits
      rw [List.foldl_cons, ih, Nat.testBit_or, Bool.or_eq_true, testBit_letterBits, or_assoc]
      simp
  have hnone : Nat.testBit 0 i = true ↔ False := by simp
  rw [Facts.lettersBits, hfold 0, hnone, false_or]

theorem lettersBits_congr {letters letters' : List Char} (h : ∀ c, c ∈ letters ↔ c ∈ letters') :
    Facts.lettersBits letters = Facts.lettersBits letters' := by
  refine Nat.eq_of_testBit_eq fun i => Bool.eq_iff_iff.mpr ?_
  rw [testBit_lettersBits, testBit_lettersBits]
  exact exists_congr fun c => and_congr_left fun _ => h c

theorem lettersBits_le (letters : List Char) : Facts.lettersBits letters ≤ 0o7777 := by
  have hlt : Facts.lettersBits letters < Nat.pow 2 12 := by
    refine Nat.lt_pow_two_of_testBit _ fun i hi => ?_
    refine Bool.eq_false_iff.mpr fun hbit => ?_
    obtain ⟨c, -, hgrants⟩ := (testBit_lettersBits letters i).mp hbit
    cases hgrants <;> omega
  exact Nat.lt_succ_iff.mp hlt

/-! ## Modes -/

theorem Facts.Permits.le {facts : Facts} {bits : Nat} (h : facts.Permits bits) : bits ≤ 0o7777 := by
  cases h with
  | mode => exact Nat.and_le_right
  | letters => exact lettersBits_le _
  | unsaid => decide

theorem permissions_eq_mod (n : Nat) : Mode.permissions n = n % 4096 :=
  Nat.and_two_pow_sub_one_eq_mod n 12

/-- The kind of an entry is that of its type, whatever the permissions tell, and its permissions are
those that are told: by an octal number, of which only the last twelve bits count; else by letters,
whatever their order and however often they come; else those of reading by the owner. -/
theorem mode_told {line : String} {skipSelf : Bool} {e : Entry}
    (h : Entry.read line skipSelf = .ok (some e)) :
    ∃ facts path type, IsFactLine line facts path ∧ facts.Tells "type" type ∧
      (e.isDirectory = true ↔
        type ∈ ["dir".toList, "cdir".toList, "pdir".toList, ".".toList, "..".toList]) ∧
      e.mode = e.permissions + (if e.isDirectory then 0o40000 else 0) ∧
      e.permissions ≤ 0o7777 ∧
      (∀ digits, facts.Tells "unix.mode" digits →
        e.permissions = numeralValue 8 digits % 4096) ∧
      (∀ letters, facts.Lacks "unix.mode" → facts.Tells "perm" letters →
        (∀ i, e.permissions.testBit i = true ↔ ∃ c ∈ letters, Grants c i) ∧
        ∀ letters', (∀ c, c ∈ letters' ↔ c ∈ letters) →
          Facts.lettersBits letters' = e.permissions) ∧
      (facts.Lacks "unix.mode" → facts.Lacks "perm" → e.permissions = 0o400) := by
  obtain ⟨facts, path, hline, hdescribes⟩ := Entry.describes_of_read h
  obtain ⟨type, bits, htype, hpermits, hmode⟩ := hdescribes.mode
  have hle := hpermits.le
  have hparts : e.permissions = bits ∧ (e.isDirectory = true ↔ type ∈ Facts.directoryTypes) ∧
      e.mode = bits + (if e.isDirectory then 0o40000 else 0) := by
    rw [Entry.permissions, Entry.isDirectory, hmode]
    by_cases hdirectory : type ∈ Facts.directoryTypes
    · rw [if_pos hdirectory, permissions_or_directory hle, isDirectory_or_directory hle]
      exact ⟨rfl, iff_of_true rfl hdirectory, or_directory_eq_add hle⟩
    · rw [if_neg hdirectory, permissions_eq_self hle, not_isDirectory hle]
      exact ⟨rfl, iff_of_false Bool.false_ne_true hdirectory, rfl⟩
  obtain ⟨hbits, hkind, hsum⟩ := hparts
  refine ⟨facts, path, type, hline, htype, hkind, by rw [hbits]; exact hsum, by rw [hbits]; exact hle,
    fun digits hdigits => ?_, fun letters hnone hletters => ?_, fun hnone hperm => ?_⟩
  · rw [hbits]
    cases hpermits with
    | mode htells => rw [htells.unique hdigits, permissions_eq_mod]
    | letters hlacks => exact absurd hdigits (hlacks _)
    | unsaid hlacks => exact absurd hdigits (hlacks _)
  · rw [hbits]
    cases hpermits with
    | mode htells => exact absurd htells (hnone _)
    | letters _ htells =>
      rw [htells.unique hletters]
      exact ⟨testBit_lettersBits letters, fun letters' => lettersBits_congr⟩
    | unsaid _ hlacks => exact absurd hletters (hlacks _)
  · rw [hbits]
    cases hpermits with
    | mode htells => exact absurd htells (hnone _)
    | letters _ htells => exact absurd htells (hperm _)
    | unsaid => rfl

/-- The kind bits of a number that says `regular file` do not make a file of a directory. -/
theorem mode_told_directory :
    ∃ e, Entry.read "Type=CDIR;modify=20150216084148;UNIX.mode=104755;perm=r; d" false = .ok (some e) ∧
      e.isDirectory = true ∧ e.permissions = 0o4755 ∧ e.mode = 0o44755 := by
  let facts := [("type".toList, "cdir".toList), ("modify".toList, "20150216084148".toList),
    ("unix.mode".toList, "104755".toList), ("perm".toList, "r".toList)]
  have hline : IsFactLine "Type=CDIR;modify=20150216084148;UNIX.mode=104755;perm=r; d" facts
      "d".toList :=
    isFactLine_iff.mpr
      ⟨"Type=CDIR;modify=20150216084148;UNIX.mode=104755;perm=r".toList, by decide, by decide⟩
  have hread : ∃ e, Entry.read "Type=CDIR;modify=20150216084148;UNIX.mode=104755;perm=r; d" false =
      .ok (some e) :=
    ⟨⟨"d", 0, 0o44755, ⟨⟨2015, 2, 16, by decide⟩, ⟨8, 41, 48, 0, by decide⟩⟩,
      "Type=CDIR;modify=20150216084148;UNIX.mode=104755;perm=r; d"⟩, by decide⟩
  obtain ⟨e, hread⟩ := hread
  obtain ⟨facts', path, type, hline', htype, hkind, hmode, -, hdigits, -⟩ := mode_told hread
  obtain ⟨rfl, rfl⟩ := hline.unique hline'
  have hcdir : type = "cdir".toList :=
    htype.unique ((Facts.get?_eq_some_iff _).mp (by decide))
  have hdirectory : e.isDirectory = true := hkind.mpr (by rw [hcdir]; decide)
  have hbits : e.permissions = 0o4755 :=
    hdigits "104755".toList ((Facts.get?_eq_some_iff _).mp (by decide))
  refine ⟨e, hread, hdirectory, hbits, ?_⟩
  rw [hmode, hbits, hdirectory]
  rfl

end FileTransfer.Listing
