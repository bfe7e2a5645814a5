import FileTransfer.Operation
import FileTransfer.Proofs.Calendar.Listed
import FileTransfer.Proofs.Listing.Grammar

/-!
# What is decoded

The checks that a fact line has to stand, in their order.

* `Decided`: an outcome that the first of several checks to apply decides.
* `Facts.Permits`, `Facts.SizedBy`, `Facts.Describes`: what the facts of a line say of an entry.
* `ofFacts_decided`: all checks, with those of numbers that are too large.
* `read_decided`: what a line comes to when its numbers are not too large.
-/

namespace FileTransfer.Listing
open FileTransfer.Calendar FileTransfer.Text
set_option autoImplicit false

/-! ## Checks in their order -/

/-- A check that fails in one way only. -/
def Failing (applies : Prop) (failure : Failure) : Failure → Prop :=
  fun f => applies ∧ f = failure

/-- The first check to apply decides how the outcome fails; it is fine when none applies. -/
inductive Decided {α : Type} (outcome : Except Failure α) (fine : α → Prop) :
    List (Failure → Prop) → Prop
  | fails {check : Failure → Prop} {checks : List (Failure → Prop)} {failure : Failure}
      (happlies : check failure) (houtcome : outcome = .error failure) :
      Decided outcome fine (check :: checks)
  | passes {check : Failure → Prop} {checks : List (Failure → Prop)}
      (hpasses : ∀ failure, ¬ check failure) (hrest : Decided outcome fine checks) :
      Decided outcome fine (check :: checks)
  | fine {a : α} (houtcome : outcome = .ok a) (hfine : fine a) : Decided outcome fine []

section Decided
variable {α β : Type} {outcome : Except Failure α} {fine : α → Prop} {fine' : β → Prop}
variable {checks later : List (Failure → Prop)} {applies : Prop} {failure : Failure}

theorem Decided.failing (happlies : applies) (houtcome : outcome = .error failure) :
    Decided outcome fine (Failing applies failure :: checks) :=
  .fails ⟨happlies, rfl⟩ houtcome

theorem Decided.standing (hnot : ¬ applies) (hrest : Decided outcome fine checks) :
    Decided outcome fine (Failing applies failure :: checks) := by
  refine .passes ?_ hrest
  rintro f ⟨happlies, -⟩
  exact hnot happlies

theorem Decided.bind (h : Decided outcome fine checks) {next : α → Except Failure β}
    (hnext : ∀ a, fine a → Decided (next a) fine' later) :
    Decided (outcome >>= next) fine' (checks ++ later) := by
  induction h with
  | fails happlies houtcome =>
    refine .fails happlies ?_
    rw [houtcome]
    rfl
  | passes hpasses _ ih => exact .passes hpasses ih
  | fine houtcome hfine =>
    rw [houtcome]
    exact hnext _ hfine

theorem Decided.map (h : Decided outcome fine checks) {f : α → β}
    (hf : ∀ a, fine a → fine' (f a)) : Decided (f <$> outcome) fine' checks := by
  have hbind : Decided (outcome >>= fun a => pure (f a)) fine' (checks ++ []) :=
    h.bind fun a ha => .fine rfl (hf a ha)
  rw [List.append_nil, bind_pure_comp] at hbind
  exact hbind

theorem Decided.mono (h : Decided outcome fine checks) {fine₁ : α → Prop}
    (hfine : ∀ a, fine a → fine₁ a) : Decided outcome fine₁ checks := by
  have hmap : Decided (id <$> outcome) fine₁ checks := h.map hfine
  rwa [id_map] at hmap

theorem Decided.fine_of_ok (h : Decided outcome fine checks) {a : α} (ha : outcome = .ok a) :
    fine a := by
  induction h with
  | fails _ houtcome =>
    rw [houtcome] at ha
    cases ha
  | passes _ _ ih => exact ih
  | fine houtcome hfine =>
    rw [houtcome] at ha
    cases ha
    exact hfine

/-- The first check either applies or can be left behind. -/
theorem Decided.cases_of_error {check : Failure → Prop}
    (h : Decided outcome fine (check :: checks)) (hf : outcome = .error failure) :
    check failure ∨ (∀ f, ¬ check f) ∧ Decided outcome fine checks := by
  cases h with
  | fails happlies houtcome =>
    rw [houtcome] at hf
    cases hf
    exact .inl happlies
  | passes hpasses hrest => exact .inr ⟨hpasses, hrest⟩

theorem Decided.rest {check : Failure → Prop} (h : Decided outcome fine (check :: checks))
    (hpasses : ∀ f, ¬ check f) : Decided outcome fine checks := by
  cases h with
  | fails happlies => exact absurd happlies (hpasses _)
  | passes _ hrest => exact hrest

theorem Decided.stands (h : Decided outcome fine (Failing applies failure :: checks))
    (hnot : ¬ applies) : Decided outcome fine checks :=
  h.rest fun _ hf => hnot hf.1

theorem Decided.eq_error {check : Failure → Prop} (h : Decided outcome fine (check :: checks))
    (happlies : check failure) (hone : ∀ f, check f → f = failure) : outcome = .error failure := by
  cases h with
  | fails happlies' houtcome =>
    rw [houtcome, hone _ happlies']
  | passes hpasses => exact absurd happlies (hpasses _)

/-- A check that never applies can be left out. -/
theorem Decided.leaveOut {check : Failure → Prop} (hnever : ∀ f, ¬ check f)
    (h : Decided outcome fine (checks ++ check :: later)) :
    Decided outcome fine (checks ++ later) := by
  induction checks with
  | nil => exact h.rest hnever
  | cons first checks ih =>
    cases h with
    | fails happlies houtcome => exact .fails happlies houtcome
    | passes hpasses hrest => exact .passes hpasses (ih hrest)

end Decided

/-! ## Digits -/

/-- All characters are from `lo` to `hi`. -/
def Within (lo hi : Char) (s : List Char) : Prop := ∀ c ∈ s, lo ≤ c ∧ c ≤ hi

section Digits
variable {base : Nat} {last : Char} {s : List Char}
variable (hdigit : ∀ c, isDigitOf base c = true ↔ '0' ≤ c ∧ c ≤ last) (hne : s ≠ [])
include hdigit hne

theorem isNumeral_iff_within : isNumeral base s = true ↔ Within '0' last s := by
  rw [isNumeral_iff, and_iff_right hne]
  exact forall₂_congr fun c _ => hdigit c

theorem readNumeral?_eq_some_iff {n : Nat} :
    readNumeral? base s = some n ↔ Within '0' last s ∧ numeralValue base s = n := by
  rw [← isNumeral_iff_within hdigit hne, readNumeral?, Option.ite_none_right_eq_some,
    Option.some.injEq]

theorem readNumeral?_eq_none_iff : readNumeral? base s = none ↔ ¬ Within '0' last s := by
  rw [← isNumeral_iff_within hdigit hne, readNumeral?]
  exact ite_eq_right_iff.trans (by simp)

end Digits

namespace Facts
variable (facts : Facts)

/-! ## Permissions -/

/-- Why a number of more than 32 bits is no mode. -/
def tooWide (n : Nat) : Mode.Fault := if n < 0x10000000000000000 then .wide else .huge

theorem ofInt_natCast (n : Nat) :
    Mode.ofInt n = if n < 0x100000000 then .ok n else .error (tooWide n) := by
  have hpos : ¬ (n : Int) < 0 := by omega
  have hfits : (n : Int) < 0x100000000 ↔ n < 0x100000000 := by omega
  have hword : (n : Int) < 0x10000000000000000 ↔ n < 0x10000000000000000 := by omega
  rw [Mode.ofInt, if_neg hpos, Int.toNat_natCast, tooWide]
  simp only [hfits, hword]
  by_cases hwide : n < 0x100000000
  · rw [if_pos hwide, if_pos hwide]
  · rw [if_neg hwide, if_neg hwide]
    exact (apply_ite Except.error _ _ _).symm

/-- The permission bits: those of an octal `unix.mode`, else those of the letters of `perm`, else
reading by the owner. -/
inductive Permits : Nat → Prop
  | mode {digits : List Char} (htells : facts.Tells "unix.mode" digits) :
      Permits (Mode.permissions (numeralValue 8 digits))
  | letters {letters : List Char} (hlacks : facts.Lacks "unix.mode")
      (htells : facts.Tells "perm" letters) : Permits (lettersBits letters)
  | unsaid (hmode : facts.Lacks "unix.mode") (hperm : facts.Lacks "perm") : Permits 0o400

variable {facts} in
theorem Permits.unique {bits bits' : Nat} (h : facts.Permits bits) (h' : facts.Permits bits') :
    bits = bits' := by
  cases h with
  | mode htells =>
    cases h' with
    | mode htells' => rw [htells.unique htells']
    | letters hlacks => exact absurd htells (hlacks _)
    | unsaid hlacks => exact absurd htells (hlacks _)
  | letters hlacks htells =>
    cases h' with
    | mode htells' => exact absurd htells' (hlacks _)
    | letters _ htells' => rw [htells.unique htells']
    | unsaid _ hperm => exact absurd htells (hperm _)
  | unsaid hlacks hperm =>
    cases h' with
    | mode htells' => exact absurd htells' (hlacks _)
    | letters _ htells' => exact absurd htells' (hperm _)
    | unsaid => rfl

/-- An octal mode that is told but has too many bits. -/
def WideMode (failure : Failure) : Prop :=
  ∃ digits, facts.Tells "unix.mode" digits ∧ Within '0' '7' digits ∧
    0x100000000 ≤ numeralValue 8 digits ∧
    failure = .fault (.mode (tooWide (numeralValue 8 digits)))

theorem permissions_decided (malformed : Failure) :
    Decided (facts.permissions malformed) facts.Permits
      [Failing (∃ digits, facts.Tells "unix.mode" digits ∧ ¬ Within '0' '7' digits) malformed,
        facts.WideMode] := by
  -- no check applies to facts without a mode
  have hstanding {bits : Nat} (hget : facts.get? "unix.mode" = none) (hbits : facts.Permits bits) :
      Decided (.ok bits) facts.Permits
        [Failing (∃ digits, facts.Tells "unix.mode" digits ∧ ¬ Within '0' '7' digits) malformed,
          facts.WideMode] := by
    have hlacks := get?_eq_none_iff.mp hget
    refine .standing ?_ (.passes ?_ (.fine rfl hbits))
    · rintro ⟨digits, htells, -⟩
      exact hlacks digits htells
    · rintro f ⟨digits, htells, -⟩
      exact hlacks digits htells
  fun_cases permissions facts malformed with
  | case1 digits hget hread =>
    have htells := (get?_eq_some_iff digits).mp hget
    have hoctal := (readNumeral?_eq_none_iff isDigitOf_eight_iff htells.1).mp hread
    exact .failing ⟨digits, htells, hoctal⟩ rfl
  | case2 digits hget n hread mode hmode =>
    have htells := (get?_eq_some_iff digits).mp hget
    obtain ⟨hoctal, rfl⟩ := (readNumeral?_eq_some_iff isDigitOf_eight_iff htells.1).mp hread
    rw [ofInt_natCast] at hmode
    split at hmode
    case isFalse => cases hmode
    case isTrue hfits =>
      cases hmode
      refine .standing ?_ (.passes ?_ (.fine rfl (.mode htells)))
      · rw [htells.exists_iff]
        exact not_not_intro hoctal
      · intro f hwide
        obtain ⟨-, hle, -⟩ := (htells.exists_iff _).mp hwide
        exact Nat.not_lt_of_le hle hfits
  | case3 digits hget n hread reason hmode =>
    have htells := (get?_eq_some_iff digits).mp hget
    obtain ⟨hoctal, rfl⟩ := (readNumeral?_eq_some_iff isDigitOf_eight_iff htells.1).mp hread
    rw [ofInt_natCast] at hmode
    split at hmode
    case isTrue => cases hmode
    case isFalse hwide =>
      cases hmode
      refine .standing ?_ (.fails ⟨digits, htells, hoctal, Nat.le_of_not_lt hwide, rfl⟩ rfl)
      rw [htells.exists_iff]
      exact not_not_intro hoctal
  | case4 letters hperm hget =>
    have htells := (get?_eq_some_iff letters).mp hperm
    exact hstanding hget (.letters (get?_eq_none_iff.mp hget) htells)
  | case5 hperm hget =>
    exact hstanding hget (.unsaid (get?_eq_none_iff.mp hget) (get?_eq_none_iff.mp hperm))

/-! ## Sizes -/

/-- The digits that the size is read from: those of `size`, and for a directory without one those of
`sizd`. -/
def SizedBy (digits : List Char) : Prop :=
  facts.Tells "size" digits ∨
    facts.Lacks "size" ∧ (∃ type ∈ directoryTypes, facts.Tells "type" type) ∧
      facts.Tells "sizd" digits

/-- The size: the value of the digits it is read from, or zero when there are none. -/
inductive Sizes : Nat → Prop
  | told {digits : List Char} (hdigits : facts.SizedBy digits) : Sizes (numeralValue 10 digits)
  | untold (hnone : ∀ digits, ¬ facts.SizedBy digits) : Sizes 0

/-- A size in decimal digits, too many of them. -/
def LongSize (failure : Failure) : Prop :=
  ∃ digits, facts.SizedBy digits ∧ Within '0' '9' digits ∧ longestNumeral < digits.length ∧
    failure = .fault (.longNumeral digits.length)

section Sizes
variable {facts}

theorem SizedBy.ne_nil {digits : List Char} (h : facts.SizedBy digits) : digits ≠ [] := by
  rcases h with hsize | ⟨-, -, hsizd⟩
  · exact hsize.1
  · exact hsizd.1

theorem SizedBy.unique {digits digits' : List Char} (h : facts.SizedBy digits)
    (h' : facts.SizedBy digits') : digits = digits' := by
  rcases h with hsize | ⟨hlacks, -, hsizd⟩ <;> rcases h' with hsize' | ⟨hlacks', -, hsizd'⟩
  · exact hsize.unique hsize'
  · exact absurd hsize (hlacks' digits)
  · exact absurd hsize' (hlacks digits')
  · exact hsizd.unique hsizd'

/-- A file has no digits but those of its size. -/
theorem SizedBy.not_lacks {digits : List Char} (h : facts.SizedBy digits)
    (hfile : facts.Tells "type" "file".toList) : ¬ facts.Lacks "size" := by
  intro hlacks
  rcases h with hsize | ⟨-, ⟨type, hdirectory, htype⟩, -⟩
  · exact hlacks digits hsize
  · rw [htype.unique hfile] at hdirectory
    exact absurd hdirectory (by decide)

theorem Sizes.unique {n n' : Nat} (h : facts.Sizes n) (h' : facts.Sizes n') : n = n' := by
  cases h with
  | told hdigits =>
    cases h' with
    | told hdigits' => rw [hdigits.unique hdigits']
    | untold hnone => exact absurd hdigits (hnone _)
  | untold hnone =>
    cases h' with
    | told hdigits' => exact absurd hdigits' (hnone _)
    | untold => rfl

theorem sizeDigits?_eq_some_iff {type : List Char} (htype : facts.Tells "type" type)
    (digits : List Char) :
    facts.sizeDigits? (isDirectoryType type) = some digits ↔ facts.SizedBy digits := by
  have hdirectory : isDirectoryType type = true ↔ ∃ t ∈ directoryTypes, facts.Tells "type" t := by
    rw [isDirectoryType, List.contains_iff_mem]
    constructor
    · intro hmem
      exact ⟨type, hmem, htype⟩
    · rintro ⟨t, hmem, htells⟩
      rw [htype.unique htells]
      exact hmem
  rw [SizedBy, ← hdirectory, ← get?_eq_some_iff, ← get?_eq_none_iff, ← get?_eq_some_iff, sizeDigits?]
  cases facts.get? "size" with
  | some size => simp
  | none => simp

/-- What the check of digits in general says of the digits that the size is read from. -/
theorem SizedBy.exists_iff {digits : List Char} (h : facts.SizedBy digits)
    (p : List Char → Prop) : (∃ d, facts.SizedBy d ∧ p d) ↔ p digits := by
  constructor
  · rintro ⟨d, hd, hp⟩
    rwa [hd.unique h] at hp
  · exact fun hp => ⟨digits, h, hp⟩

theorem wholeNumber_decided {digits : List Char} (hne : digits ≠ []) (malformed : Failure) :
    Decided (wholeNumber digits malformed) (· = numeralValue 10 digits)
      [Failing (¬ Within '0' '9' digits) malformed, fun failure =>
        Within '0' '9' digits ∧ longestNumeral < digits.length ∧
          failure = .fault (.longNumeral digits.length)] := by
  fun_cases wholeNumber digits malformed with
  | case1 hread =>
    exact .failing ((readNumeral?_eq_none_iff isDigitOf_ten_iff hne).mp hread) rfl
  | case2 n hread hlength =>
    obtain ⟨hdecimal, hvalue⟩ := (readNumeral?_eq_some_iff isDigitOf_ten_iff hne).mp hread
    refine .standing (not_not_intro hdecimal) (.passes ?_ (.fine rfl hvalue.symm))
    rintro f ⟨-, hlong, -⟩
    exact Nat.not_lt_of_le hlength hlong
  | case3 n hread hlength =>
    obtain ⟨hdecimal, -⟩ := (readNumeral?_eq_some_iff isDigitOf_ten_iff hne).mp hread
    have hlong := Nat.lt_of_not_le hlength
    exact .standing (not_not_intro hdecimal) (.fails ⟨hdecimal, hlong, rfl⟩ rfl)

theorem size_decided {type : List Char} (htype : facts.Tells "type" type)
    (malformed incomplete : Failure) :
    Decided (facts.size type malformed incomplete) facts.Sizes
      [Failing (facts.Tells "type" "file".toList ∧ facts.Lacks "size") incomplete,
        Failing (∃ digits, facts.SizedBy digits ∧ ¬ Within '0' '9' digits) malformed,
        facts.LongSize] := by
  fun_cases size facts type malformed incomplete with
  | case1 digits hdigits =>
    have hsized := (sizeDigits?_eq_some_iff htype digits).mp hdigits
    refine .standing (fun h => hsized.not_lacks h.1 h.2) ?_
    have hlong : facts.LongSize = fun failure => Within '0' '9' digits ∧
        longestNumeral < digits.length ∧ failure = .fault (.longNumeral digits.length) := by
      funext failure
      exact propext (hsized.exists_iff _)
    rw [hsized.exists_iff, hlong]
    refine (wholeNumber_decided hsized.ne_nil malformed).mono ?_
    rintro n rfl
    exact .told hsized
  | case2 hdigits hfile =>
    refine .failing ⟨hfile ▸ htype, ?_⟩ rfl
    intro digits htells
    rw [(sizeDigits?_eq_some_iff htype digits).mpr (.inl htells)] at hdigits
    cases hdigits
  | case3 hdigits hfile =>
    have hnone : ∀ digits, ¬ facts.SizedBy digits := by
      intro digits hsized
      rw [(sizeDigits?_eq_some_iff htype digits).mpr hsized] at hdigits
      cases hdigits
    refine .standing ?_ (.standing ?_ (.passes ?_ (.fine rfl (.untold hnone))))
    · rintro ⟨htells, -⟩
      exact hfile (htype.unique htells)
    · rintro ⟨digits, hsized, -⟩
      exact hnone digits hsized
    · rintro f ⟨digits, hsized, -⟩
      exact hnone digits hsized

end Sizes

/-! ## Times -/

theorem modified?_eq_some_iff (t : Timestamp) :
    facts.modified? = some t ↔ ∃ text, facts.Tells "modify" text ∧ t.IsWritten text := by
  simp only [modified?, Option.bind_eq_some_iff, get?_eq_some_iff, Timestamp.read?_eq_some_iff]

/-! ## Entries -/

/-- The entry that the facts and the path of a line describe. -/
structure Describes (line : String) (path : List Char) (e : Entry) : Prop where
  name : e.name = String.ofList (baseName path)
  size : ∃ n, facts.Sizes n ∧ e.size = n
  mode : ∃ type bits, facts.Tells "type" type ∧ facts.Permits bits ∧
    e.mode = if type ∈ directoryTypes then bits ||| Mode.directory else bits
  modified : ∃ text, facts.Tells "modify" text ∧ e.modified.IsWritten text
  raw : e.raw = line

/-- What a line has to have: a type, an octal mode if it has one, a size if it is of a file, a size in
decimal if it has one, and a time. -/
def formChecks (line : String) : List (Failure → Prop) :=
  let malformed := Failure.undecodable (.malformedEntry line)
  let incomplete := Failure.undecodable (.incompleteEntry line)
  [Failing (facts.Lacks "type") incomplete,
    Failing (∃ digits, facts.Tells "unix.mode" digits ∧ ¬ Within '0' '7' digits) malformed,
    Failing (facts.Tells "type" "file".toList ∧ facts.Lacks "size") incomplete,
    Failing (∃ digits, facts.SizedBy digits ∧ ¬ Within '0' '9' digits) malformed,
    Failing (¬ ∃ text t, facts.Tells "modify" text ∧ Timestamp.IsWritten t text) incomplete]

/-- What is checked of a line that tells its type: its form, and where a number is needed that it is
not too large. -/
def checks (line : String) : List (Failure → Prop) :=
  let malformed := Failure.undecodable (.malformedEntry line)
  let incomplete := Failure.undecodable (.incompleteEntry line)
  [Failing (∃ digits, facts.Tells "unix.mode" digits ∧ ¬ Within '0' '7' digits) malformed,
    facts.WideMode,
    Failing (facts.Tells "type" "file".toList ∧ facts.Lacks "size") incomplete,
    Failing (∃ digits, facts.SizedBy digits ∧ ¬ Within '0' '9' digits) malformed,
    facts.LongSize,
    Failing (¬ ∃ text t, facts.Tells "modify" text ∧ Timestamp.IsWritten t text) incomplete]

end Facts

section Checks
variable {α : Type} {outcome : Except Failure α} {fine : α → Prop} {line : String} {facts : Facts}

/-- What is left to check when the mode, if there is one, can be read. -/
theorem Decided.after_mode (h : Decided outcome fine (facts.checks line))
    (hmode : ∀ bits, facts.Tells "unix.mode" bits →
      Within '0' '7' bits ∧ numeralValue 8 bits < 0x100000000) :
    Decided outcome fine ((facts.checks line).drop 2) := by
  have hoctal := h.stands (by
    rintro ⟨bits, htells, hbad⟩
    exact hbad (hmode bits htells).1)
  refine hoctal.rest ?_
  rintro f ⟨bits, htells, -, hwide, -⟩
  exact Nat.not_lt_of_le hwide (hmode bits htells).2

/-- What is left to check when there is a size, and it is in decimal. -/
theorem Decided.after_digits {digits : List Char}
    (h : Decided outcome fine ((facts.checks line).drop 2)) (hsized : facts.SizedBy digits)
    (hdecimal : Within '0' '9' digits) : Decided outcome fine ((facts.checks line).drop 4) := by
  have hnumber := h.stands fun hfile => hsized.not_lacks hfile.1 hfile.2
  exact hnumber.stands (mt (hsized.exists_iff _).mp (not_not_intro hdecimal))

end Checks

namespace Entry
variable {line : String} {facts : Facts} {type path : List Char}

theorem ofFacts_decided (htype : facts.Tells "type" type) :
    Decided (ofFacts line facts type path) (facts.Describes line path) (facts.checks line) := by
  refine (facts.permissions_decided _).bind fun bits hbits => ?_
  refine (Facts.size_decided htype _ _).bind fun size hsize => ?_
  cases hmodified : facts.modified? with
  | none =>
    refine .failing ?_ rfl
    rintro ⟨text, t, hwritten⟩
    rw [(facts.modified?_eq_some_iff t).mpr ⟨text, hwritten⟩] at hmodified
    cases hmodified
  | some t =>
    obtain ⟨text, htells, hwritten⟩ := (facts.modified?_eq_some_iff t).mp hmodified
    refine .standing (not_not_intro ⟨text, t, htells, hwritten⟩) (.fine rfl ?_)
    refine ⟨rfl, ⟨size, hsize, rfl⟩, ⟨type, bits, htype, hbits, ?_⟩, ⟨text, htells, hwritten⟩, rfl⟩
    simp only [Facts.isDirectoryType, List.contains_iff_mem]

theorem read_decided_of_type (skipSelf : Bool) (hline : IsFactLine line facts path)
    (htype : facts.Tells "type" type) (hskip : skipSelf = true → type ∉ Facts.selfOrParent) :
    Decided (read line skipSelf) (fun e? => ∃ e, e? = some e ∧ facts.Describes line path e)
      (facts.checks line) := by
  rw [read_of_type hline htype hskip]
  exact (ofFacts_decided htype).map fun e he => ⟨e, rfl, he⟩

/-- No line is passed over when the listed directory itself is not to be skipped. -/
theorem read_ne_none (line : String) : read line false ≠ .ok none := by
  intro hnone
  by_cases hline : ∃ facts path, IsFactLine line facts path
  · obtain ⟨facts, path, hline⟩ := hline
    rcases facts.tells_or_lacks "type" with ⟨type, htype⟩ | hlacks
    · have hdecided := read_decided_of_type false hline htype nofun
      obtain ⟨e, he, -⟩ := hdecided.fine_of_ok hnone
      cases he
    · rw [read_of_lacks_type hline hlacks] at hnone
      cases hnone
  · rw [read_of_not_isFactLine (fun facts path h => hline ⟨facts, path, h⟩)] at hnone
    cases hnone

/-- An entry that was read is one that its line describes. -/
theorem describes_of_read {skipSelf : Bool} {e : Entry} (h : read line skipSelf = .ok (some e)) :
    ∃ facts path, IsFactLine line facts path ∧ facts.Describes line path e := by
  by_cases hline : ∃ facts path, IsFactLine line facts path
  case neg =>
    rw [read_of_not_isFactLine (fun facts path h => hline ⟨facts, path, h⟩)] at h
    cases h
  obtain ⟨facts, path, hline⟩ := hline
  rcases facts.tells_or_lacks "type" with ⟨type, htype⟩ | hlacks
  · by_cases hskip : skipSelf = true → type ∉ Facts.selfOrParent
    · obtain ⟨e', he, hdescribes⟩ := (read_decided_of_type skipSelf hline htype hskip).fine_of_ok h
      cases he
      exact ⟨facts, path, hline, hdescribes⟩
    · rw [Classical.not_imp, not_not] at hskip
      obtain ⟨rfl, hself⟩ := hskip
      rw [read_skipped hline htype hself] at h
      cases h
  · rw [read_of_lacks_type hline hlacks] at h
    cases h

/-- Unless a number of it is too large, the first check to apply decides what a line comes to, and a
line that stands them all is the entry that it describes. -/
theorem read_decided (line : String)
    (hsize : ∀ facts path digits, IsFactLine line facts path → facts.SizedBy digits →
      digits.length ≤ 4300)
    (hmode : ∀ facts path digits, IsFactLine line facts path → facts.Tells "unix.mode" digits →
      Within '0' '7' digits → numeralValue 8 digits < Nat.pow 2 32) :
    ((∀ facts path, ¬ IsFactLine line facts path) →
      read line false = .error (.undecodable (.malformedEntry line))) ∧
    (∀ facts path, IsFactLine line facts path →
      Decided (read line false) (fun e? => ∃ e, e? = some e ∧ facts.Describes line path e)
        (facts.formChecks line)) ∧
    read line false ≠ .ok none := by
  refine ⟨fun h => read_of_not_isFactLine h false, ?_, read_ne_none line⟩
  intro facts path hline
  rcases facts.tells_or_lacks "type" with ⟨type, htype⟩ | hlacks
  · have hall := read_decided_of_type false hline htype nofun
    have hnarrow : ∀ f, ¬ facts.WideMode f := by
      rintro f ⟨digits, htells, hoctal, hwide, -⟩
      exact Nat.not_lt_of_le hwide (hmode facts path digits hline htells hoctal)
    have hshort : ∀ f, ¬ facts.LongSize f := by
      rintro f ⟨digits, hsized, -, hlong, -⟩
      exact Nat.not_lt_of_le (hsize facts path digits hline hsized) hlong
    refine .standing (fun hlacks => hlacks type htype) ?_
    -- the second and then the fourth of what is left of the checks are of numbers too large
    have hrest := @Decided.leaveOut _ _ _ [_] _ _ hnarrow hall
    exact @Decided.leaveOut _ _ _ [_, _, _] _ _ hshort hrest
  · exact .failing hlacks (read_of_lacks_type hline hlacks false)

/-- Facts told twice or without a value, and a path with the separators in it. -/
theorem read_decided_told_twice :
    let line := "Type=file;type=DIR;size=;sizd=7;modify=20150216084148.25;UNIX.mode=40755; a; b=/"
    let facts := [("type".toList, "file".toList), ("type".toList, "dir".toList),
      ("size".toList, []), ("sizd".toList, "7".toList),
      ("modify".toList, "20150216084148.25".toList), ("unix.mode".toList, "40755".toList)]
    IsFactLine line facts "a; b=/".toList ∧
      Decided (read line false)
        (fun e? => ∃ e, e? = some e ∧ Facts.Describes facts line "a; b=/".toList e)
        (Facts.formChecks facts line) := by
  intro line facts
  have hline : IsFactLine line facts "a; b=/".toList :=
    isFactLine_iff.mpr
      ⟨"Type=file;type=DIR;size=;sizd=7;modify=20150216084148.25;UNIX.mode=40755".toList,
        by decide, by decide⟩
  have htype : Facts.Tells facts "type" "dir".toList := (Facts.get?_eq_some_iff _).mp (by decide)
  refine ⟨hline, (read_decided line ?_ ?_).2.1 facts _ hline⟩
  · intro facts' path' digits hline' hsized
    rw [(hline'.unique hline).1, ← Facts.sizeDigits?_eq_some_iff htype] at hsized
    cases hsized
    decide
  · intro facts' path' digits hline' htells _
    rw [(hline'.unique hline).1, ← Facts.get?_eq_some_iff] at htells
    cases htells
    decide

end Entry
end FileTransfer.Listing
