import FileTransfer.Proofs.Listing.Modes

/-!
# Lines that are written out

* `IsPlain`, `isFactLine_written`: plain facts, written out before a path, are the facts of the line.
* `baseName_append`: the last segment of a path that is written out.
* `read_factLine`: what is written of an entry is read back, whatever its name.
-/

namespace FileTransfer.Listing
open FileTransfer.Calendar FileTransfer.Text
set_option autoImplicit false

/-! ## Plain facts -/

/-- Points, digits and small letters: they separate nothing and have no other case. -/
def isPlainChar (c : Char) : Bool :=
  decide (c = '.') || decide ('0'.toNat ≤ c.toNat ∧ c.toNat ≤ '9'.toNat) ||
    decide ('a'.toNat ≤ c.toNat ∧ c.toNat ≤ 'z'.toNat)

/-- A text of such characters. -/
def IsPlain (s : List Char) : Prop := s.all isPlainChar = true

instance (s : List Char) : Decidable (IsPlain s) :=
  inferInstanceAs (Decidable (s.all isPlainChar = true))

theorem IsPlain.of_mem {s : List Char} (h : IsPlain s) {c : Char} (hc : c ∈ s) :
    isPlainChar c = true := List.all_eq_true.mp h c hc

theorem IsPlain.lower_eq {s : List Char} (h : IsPlain s) : lower s = s := by
  refine lower_eq_self fun c hc => ?_
  have hplain := h.of_mem hc
  rw [isPlainChar, Bool.or_eq_true, Bool.or_eq_true] at hplain
  rcases hplain with (hpoint | hdigit) | hletter
  · rw [of_decide_eq_true hpoint]
    exact .inl (by decide)
  · exact .inl (Nat.lt_of_le_of_lt (of_decide_eq_true hdigit).2 (by decide))
  · exact .inr (Nat.lt_of_lt_of_le (by decide) (of_decide_eq_true hletter).1)

theorem isPlain_of_isNumeral {base : Nat} (hbase : base ≤ 10) {s : List Char}
    (h : isNumeral base s = true) : IsPlain s := by
  refine List.all_eq_true.mpr fun c hc => ?_
  obtain ⟨hlo, hhi⟩ := (isDigitOf_iff hbase c).mp (((isNumeral_iff base s).mp h).2 c hc)
  have hnine : c.toNat < '0'.toNat + 10 := Nat.lt_of_lt_of_le hhi (Nat.add_le_add_left hbase _)
  have hdigit : '0'.toNat ≤ c.toNat ∧ c.toNat ≤ '9'.toNat := ⟨hlo, Nat.lt_succ_iff.mp hnine⟩
  rw [isPlainChar, decide_eq_true hdigit, Bool.or_true, Bool.true_or]

theorem IsPlain.append {s t : List Char} (hs : IsPlain s) (ht : IsPlain t) : IsPlain (s ++ t) := by
  rw [IsPlain, List.all_append, hs, ht]
  rfl

/-- A fact as it is written. -/
def writtenFact (fact : List Char × List Char) : List Char := fact.1 ++ '=' :: fact.2

/-- Facts as they are written before a path. -/
def Facts.written (facts : Facts) : List Char := [';'].intercalate (facts.map writtenFact)

/-- A fact that is read as it is written. -/
inductive IsPlainFact : List Char × List Char → Prop
  | intro {name value : List Char} (hne : name ≠ []) (hname : IsPlain name)
      (hvalue : IsPlain value) : IsPlainFact (name, value)

theorem IsPlainFact.isFact {fact : List Char × List Char} (h : IsPlainFact fact) :
    IsFact (writtenFact fact) fact := by
  obtain ⟨hne, hname, hvalue⟩ := h
  have hequals : '=' ∉ _ := fun hmem => absurd (hname.of_mem hmem) (by decide)
  refine ⟨_, _, cutAt_singleton hequals _, hne, ?_⟩
  rw [hname.lower_eq, hvalue.lower_eq]

theorem IsPlainFact.not_mem {fact : List Char × List Char} (h : IsPlainFact fact) {c : Char}
    (hc : isPlainChar c = false) (hequals : c ≠ '=') :
    c ∉ writtenFact fact := by
  obtain ⟨-, hname, hvalue⟩ := h
  intro hmem
  rcases List.mem_append.mp hmem with hmem | hmem
  · exact Bool.eq_false_iff.mp hc (hname.of_mem hmem)
  · rcases List.mem_cons.mp hmem with heq | hmem
    · exact hequals heq
    · exact Bool.eq_false_iff.mp hc (hvalue.of_mem hmem)

theorem isFactLine_written {facts : Facts} (hne : facts ≠ [])
    (hplain : ∀ fact ∈ facts, IsPlainFact fact) {line : String} {path : List Char}
    (hline : line.toList = facts.written ++ ';' :: ' ' :: path) : IsFactLine line facts path := by
  have hpieces {c : Char} (hc : isPlainChar c = false)
      (hequals : c ≠ '=') : ∀ p ∈ facts.map writtenFact, c ∉ p := by
    intro p hp
    obtain ⟨fact, hmem, rfl⟩ := List.mem_map.mp hp
    exact (hplain fact hmem).not_mem hc hequals
  have hspace : ' ' ∉ facts.written :=
    not_mem_intercalate (by decide) (hpieces (by decide) (by decide))
  refine ⟨facts.written, ?_, ?_⟩
  · rw [hline]
    exact cutAt_pair (by decide) hspace path
  · rw [Facts.written, List.splitOn_intercalate ';' (hpieces (by decide) (by decide))
      (by simpa using hne), List.forall₂_map_left_iff, List.forall₂_same]
    exact fun fact hmem => (hplain fact hmem).isFact

/-! ## Names -/

theorem baseName_append {front name : List Char} (hname : name ≠ []) (hslash : '/' ∉ name)
    (hfront : front = [] ∨ front.getLast? = some '/') (k : Nat) :
    baseName (front ++ name ++ List.replicate k '/') = name := by
  have hne : front ++ name ++ List.replicate k '/' ≠ [] := by simp [hname]
  have hne' : front ++ name ≠ [] := by simp [hname]
  rw [baseName, if_neg (by simpa using hne)]
  simp only [dropEnd_append_replicate hname hslash k front]
  rw [if_neg (by simpa using hne'), lastPiece_append hfront hslash]

/-! ## Entries -/

/-- What is written of an entry. -/
def entryFacts (type : List Char) (size : Nat) (modified : Timestamp) (permissions : Nat) : Facts :=
  [("type".toList, type), ("size".toList, writeNumeral 10 size),
    ("modify".toList, modified.listed), ("unix.mode".toList, writeNumeral 8 permissions)]

section Entries
variable {type : List Char} {size p : Nat} {t : Timestamp}

theorem tells_entryFacts (htype : type ≠ []) (size : Nat) :
    (entryFacts type size t p).Tells "type" type ∧
      (entryFacts type size t p).Tells "size" (writeNumeral 10 size) ∧
      (entryFacts type size t p).Tells "modify" t.listed ∧
      (entryFacts type size t p).Tells "unix.mode" (writeNumeral 8 p) := by
  have hlisted : t.listed ≠ [] := by simp [Timestamp.listed]
  refine ⟨⟨htype, [], _, rfl, ?_⟩, ⟨Nat.toDigits_ne_nil, [_], _, rfl, ?_⟩,
    ⟨hlisted, [_, _], _, rfl, ?_⟩, ⟨Nat.toDigits_ne_nil, [_, _, _], _, rfl, ?_⟩⟩
  all_goals simp only [List.forall_mem_cons, List.not_mem_nil, false_imp_iff, implies_true, and_true]
  all_goals decide

theorem isPlain_listed (t : Timestamp) : IsPlain t.listed := by
  have hdecimal (width n : Nat) : IsPlain (decimal width n) :=
    isPlain_of_isNumeral (by decide) (isNumeral_decimal width n)
  have hpoint : IsPlain ['.'] := by decide
  have hdate := ((hdecimal 4 t.date.year).append (hdecimal 2 t.date.month)).append
    (hdecimal 2 t.date.day)
  have htime := ((hdate.append (hdecimal 2 t.time.hour)).append (hdecimal 2 t.time.minute)).append
    (hdecimal 2 t.time.second)
  exact htime.append (hpoint.append (hdecimal 6 t.time.micro))

theorem isPlain_writeNumeral {base : Nat} (hlo : 1 < base) (hhi : base ≤ 10) (n : Nat) :
    IsPlain (writeNumeral base n) :=
  isPlain_of_isNumeral hhi (isNumeral_writeNumeral hlo hhi n)

theorem isPlainFact_entryFacts (htype : IsPlain type) :
    ∀ fact ∈ entryFacts type size t p, IsPlainFact fact := by
  have hsize := isPlain_writeNumeral (by decide) (by decide : 10 ≤ 10) size
  have hmode := isPlain_writeNumeral (by decide) (by decide : 8 ≤ 10) p
  intro fact hmem
  simp only [entryFacts, List.mem_cons, List.not_mem_nil, or_false] at hmem
  rcases hmem with rfl | rfl | rfl | rfl
  · exact .intro (by decide) (by decide) htype
  · exact .intro (by decide) (by decide) hsize
  · exact .intro (by decide) (by decide) (isPlain_listed t)
  · exact .intro (by decide) (by decide) hmode

end Entries

namespace Entry

/-- A line that tells all of this, and nothing too large, stands every check. -/
theorem read_of_tells {line : String} {facts : Facts} {path type bits digits text : List Char}
    {t : Timestamp} {skipSelf : Bool} (hline : IsFactLine line facts path)
    (htype : facts.Tells "type" type) (hskip : skipSelf = true → type ∉ Facts.selfOrParent)
    (hmode : facts.Tells "unix.mode" bits) (hoctal : Within '0' '7' bits)
    (hfits : numeralValue 8 bits < 0x100000000) (hsize : facts.Tells "size" digits)
    (hdecimal : Within '0' '9' digits) (hlength : digits.length ≤ longestNumeral)
    (htime : facts.Tells "modify" text) (hwritten : t.IsWritten text) :
    ∃ e, read line skipSelf = .ok (some e) ∧ facts.Describes line path e := by
  have hsized : facts.SizedBy digits := .inl hsize
  have hdecided := read_decided_of_type skipSelf hline htype hskip
  have hsizes := hdecided.after_mode fun bits' hbits' => by
    rw [hbits'.unique hmode]
    exact ⟨hoctal, hfits⟩
  have hlengths := hsizes.after_digits hsized hdecimal
  have hmodified := hlengths.rest fun f hf =>
    Nat.not_lt_of_le hlength ((hsized.exists_iff _).mp hf).2.1
  have hnone := hmodified.stands (not_not_intro ⟨text, t, htime, hwritten⟩)
  cases hnone with
  | fine houtcome hfine =>
    obtain ⟨e, rfl, hdescribes⟩ := hfine
    exact ⟨e, houtcome, hdescribes⟩

end Entry

theorem toList_toString (n : Nat) : (toString n).toList = writeNumeral 10 n := by
  show (Nat.repr n).toList = _
  rw [Nat.repr, String.toList_ofList, writeNumeral]

theorem length_writeNumeral_le {n width : Nat} (hwidth : 0 < width) (h : n < Nat.pow 10 width) :
    (writeNumeral 10 n).length ≤ width :=
  (Nat.length_toDigits_le_iff (by decide) hwidth).mpr h

/-- The line of what is written of an entry and of its path. -/
def writtenLine (type : List Char) (size : Nat) (modified : Timestamp) (permissions : Nat)
    (path : List Char) : List Char :=
  (entryFacts type size modified permissions).written ++ ';' :: ' ' :: path

section Lines
variable {size permissions : Nat} {modified : Timestamp}

theorem toList_writtenLine (type path : List Char) :
    writtenLine type size modified permissions path =
      "type=".toList ++ type ++ ";size=".toList ++ writeNumeral 10 size ++
        ";modify=".toList ++ modified.listed ++
        ";unix.mode=".toList ++ writeNumeral 8 permissions ++ "; ".toList ++ path := by
  simp [writtenLine, Facts.written, entryFacts, writtenFact, List.intercalate]

theorem Entry.factLine_eq {e : Entry} (hsize : e.size = size) (directory : List Char) :
    e.factLine directory = writtenLine (if e.isDirectory then "dir".toList else "file".toList) size
      e.modified e.permissions (directory ++ e.name.toList) := by
  have hdigits : (toString e.size).toList = writeNumeral 10 size := by
    rw [hsize]
    exact toList_toString size
  rw [toList_writtenLine]
  unfold Entry.factLine
  rw [hdigits]
  exact List.append_assoc _ _ _

theorem read_writtenLine {type path : List Char} {line : String} (hplain : IsPlain type)
    (hne : type ≠ []) (hself : type ∉ Facts.selfOrParent) (hsize : size < Nat.pow 10 4300)
    (hpermissions : permissions ≤ 0o7777)
    (hline : line.toList = writtenLine type size modified permissions path) (skipSelf : Bool) :
    ∃ e, Entry.read line skipSelf = .ok (some e) ∧ e.name = String.ofList (baseName path) ∧
      e.size = size ∧ e.modified = modified ∧ e.raw = line ∧
      e.mode = if type ∈ Facts.directoryTypes then permissions ||| Mode.directory else permissions := by
  have hwritten := isFactLine_written (List.cons_ne_nil _ _) (isPlainFact_entryFacts hplain) hline
  obtain ⟨htype, hdigits, htime, hmode⟩ := tells_entryFacts (t := modified) (p := permissions) hne size
  obtain ⟨hoctal, hbits⟩ := (readNumeral?_eq_some_iff isDigitOf_eight_iff hmode.1).mp
    (readNumeral?_writeNumeral (by decide) (by decide) permissions)
  obtain ⟨hdecimal, hvalue⟩ := (readNumeral?_eq_some_iff isDigitOf_ten_iff hdigits.1).mp
    (readNumeral?_writeNumeral (by decide) (by decide) size)
  have hfits : numeralValue 8 (writeNumeral 8 permissions) < 0x100000000 := by omega
  have hlength := length_writeNumeral_le (by decide) hsize
  obtain ⟨e, hread, hdescribes⟩ := Entry.read_of_tells hwritten htype (fun _ => hself) hmode hoctal
    hfits hdigits hdecimal hlength htime (Timestamp.isWritten_listed modified)
  refine ⟨e, hread, hdescribes.name, ?_, ?_, hdescribes.raw, ?_⟩
  · obtain ⟨n, hn, hsize⟩ := hdescribes.size
    cases hn with
    | told hsized => rw [hsize, hsized.unique (.inl hdigits), hvalue]
    | untold hnone => exact absurd (.inl hdigits) (hnone _)
  · obtain ⟨text, htext, hinstant⟩ := hdescribes.modified
    rw [htext.unique htime] at hinstant
    exact hinstant.unique (Timestamp.isWritten_listed modified)
  · obtain ⟨type', bits, htype', hpermits, hmode'⟩ := hdescribes.mode
    rw [hmode', htype'.unique htype]
    cases hpermits with
    | mode htells => rw [htells.unique hmode, hbits, permissions_eq_self hpermissions]
    | letters hlacks => exact absurd hmode (hlacks _)
    | unsaid hlacks => exact absurd hmode (hlacks _)

end Lines

/-- What is written of an entry is read back, also when the name or the directory has semicolons,
spaces and equals signs in it; and an entry so read is written as the line it was read from. -/
theorem read_factLine {name directory : String} {size permissions : Nat} (isDirectory : Bool)
    (modified : Timestamp) (skipSelf : Bool) (hname : name ≠ "") (hslash : '/' ∉ name.toList)
    (hdirectory : directory = "" ∨ directory.toList.getLast? = some '/')
    (hsize : size < Nat.pow 10 4300) (hpermissions : permissions ≤ 0o7777) :
    let line := "type=" ++ (if isDirectory then "dir" else "file") ++ ";size=" ++ toString size ++
      ";modify=" ++ String.ofList modified.listed ++
      ";unix.mode=" ++ String.ofList (writeNumeral 8 permissions) ++ "; " ++ directory ++ name
    ∃ e, Entry.read line skipSelf = .ok (some e) ∧ e.name = name ∧ e.size = size ∧
      e.permissions = permissions ∧ e.isDirectory = isDirectory ∧ e.modified = modified ∧
      e.raw = line ∧ String.ofList (e.factLine directory.toList) = line := by
  intro line
  let kind := if isDirectory then "dir" else "file"
  have hkind : IsPlain kind.toList ∧ kind.toList ≠ [] ∧ kind.toList ∉ Facts.selfOrParent ∧
      (kind.toList ∈ Facts.directoryTypes ↔ isDirectory = true) := by
    cases isDirectory <;> decide
  obtain ⟨hplain, hne, hself, hdirectoryType⟩ := hkind
  have hline : line.toList = writtenLine kind.toList size modified permissions
      (directory.toList ++ name.toList) := by
    rw [toList_writtenLine]
    simp only [line, String.toList_append, String.toList_ofList, toList_toString, List.append_assoc]
    rfl
  obtain ⟨e, hread, hbase, hsize', hmodified, hraw, hmode⟩ :=
    read_writtenLine hplain hne hself hsize hpermissions hline skipSelf
  have hfront : directory.toList = [] ∨ directory.toList.getLast? = some '/' :=
    hdirectory.imp_left String.toList_eq_nil_iff.mpr
  have hbaseName := baseName_append (by simpa using hname) hslash hfront 0
  rw [List.replicate_zero, List.append_nil] at hbaseName
  have hname' : e.name = name := by rw [hbase, hbaseName, String.ofList_toList]
  have hbits : e.permissions = permissions ∧ e.isDirectory = isDirectory := by
    rw [Entry.permissions, Entry.isDirectory, hmode]
    by_cases hd : isDirectory = true
    · rw [if_pos (hdirectoryType.mpr hd), hd]
      exact ⟨permissions_or_directory hpermissions, isDirectory_or_directory hpermissions⟩
    · rw [if_neg (mt hdirectoryType.mp hd), Bool.not_eq_true _ |>.mp hd]
      exact ⟨permissions_eq_self hpermissions, not_isDirectory hpermissions⟩
  refine ⟨e, hread, hname', hsize', hbits.1, hbits.2, hmodified, hraw, ?_⟩
  have hkind : (if e.isDirectory then "dir".toList else "file".toList) = kind.toList := by
    rw [hbits.2]
    cases isDirectory <;> rfl
  rw [Entry.factLine_eq hsize', hkind, hmodified, hbits.1, hname', ← hline, String.ofList_toList]

/-- The separators of facts, names and paths in the name and in the directory. -/
theorem read_factLine_separators :
    "a; b=c" ≠ "" ∧ '/' ∉ "a; b=c".toList ∧ "/pub; x=/".toList.getLast? = some '/' ∧
      ∃ e, Entry.read
          "type=dir;size=12;modify=00010228235959.000007;unix.mode=4755; /pub; x=/a; b=c" true =
            .ok (some e) ∧
        e.name = "a; b=c" ∧ e.size = 12 ∧ e.permissions = 0o4755 ∧ e.isDirectory = true := by
  refine ⟨by decide, by decide, by decide, ?_⟩
  have hsize : 12 < Nat.pow 10 4300 :=
    Nat.lt_trans (by decide : 12 < 4300) (Nat.lt_pow_self (by decide))
  obtain ⟨e, hread, hname, htwelve, hbits, hdirectory, -⟩ :=
    @read_factLine "a; b=c" "/pub; x=/" 12 0o4755 true
      ⟨⟨1, 2, 28, by decide⟩, ⟨23, 59, 59, 7, by decide⟩⟩ true (by decide) (by decide)
      (.inr (by decide)) hsize (by decide)
  exact ⟨e, hread, hname, htwelve, hbits, hdirectory⟩

end FileTransfer.Listing
