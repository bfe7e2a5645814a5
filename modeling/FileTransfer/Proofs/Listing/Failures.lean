import Mathlib.Data.List.ReduceOption
import FileTransfer.Operation
import FileTransfer.Proofs.Listing.Decoding

/-!
# What fails the decoding

* `Exceeds`: a number of a line is too large to be read.
* `entries_of_first_failure`, `entries_eq_ok_iff`: a listing fails as its first line that does, and
  is else made of the entries of its lines.
* `read_failures`: a line is malformed or incomplete or exceeds, and so is what a caller is told of
  it; the lines that exceed are not reported as the others are.
-/

namespace FileTransfer.Listing
open FileTransfer.Text
set_option autoImplicit false

/-! ## Lines -/

/-- A number that is too large: an octal mode of more than 32 bits, or, when there is no mode that
fails first, a decimal size of more than 4300 digits. -/
inductive Facts.Exceeds (facts : Facts) : Fault → Prop
  | mode {digits : List Char} (htells : facts.Tells "unix.mode" digits)
      (hoctal : Within '0' '7' digits) (hwide : Nat.pow 2 32 ≤ numeralValue 8 digits) :
      Exceeds facts (.mode (tooWide (numeralValue 8 digits)))
  | size {digits : List Char} (hsized : facts.SizedBy digits) (hdecimal : Within '0' '9' digits)
      (hlong : 4300 < digits.length)
      (hmode : ∀ bits, facts.Tells "unix.mode" bits →
        Within '0' '7' bits ∧ numeralValue 8 bits < Nat.pow 2 32) :
      Exceeds facts (.longNumeral digits.length)

/-- A line that tells its type and is not passed over for it, with a number that is too large. -/
def Exceeds (line : String) (skipSelf : Bool) (fault : Fault) : Prop :=
  ∃ facts path type, IsFactLine line facts path ∧ facts.Tells "type" type ∧
    (skipSelf = true → type ∉ Facts.selfOrParent) ∧ facts.Exceeds fault

namespace Entry

/-- The ways in which a line cannot be read. -/
inductive Fails (line : String) (skipSelf : Bool) : Failure → Prop
  | malformed : Fails line skipSelf (.undecodable (.malformedEntry line))
  | incomplete : Fails line skipSelf (.undecodable (.incompleteEntry line))
  | exceeds {fault : Fault} (h : Exceeds line skipSelf fault) : Fails line skipSelf (.fault fault)

variable {line : String} {skipSelf : Bool}

theorem failure_of_checks {α : Type} {facts : Facts} {outcome : Except Failure α}
    {fine : α → Prop} {failure : Failure} (hdecided : Decided outcome fine (facts.checks line))
    (h : outcome = .error failure) :
    failure = .undecodable (.malformedEntry line) ∨ failure = .undecodable (.incompleteEntry line) ∨
      ∃ fault, failure = .fault fault ∧ facts.Exceeds fault := by
  -- one check of `Facts.checks` at a time; the first and the second say later that the mode is fine
  rcases hdecided.cases_of_error h with ⟨-, rfl⟩ | ⟨hoctal, hdecided⟩
  · exact .inl rfl
  rcases hdecided.cases_of_error h with ⟨digits, htells, hbits, hwide, rfl⟩ | ⟨hfits, hdecided⟩
  · exact .inr (.inr ⟨_, rfl, .mode htells hbits hwide⟩)
  rcases hdecided.cases_of_error h with ⟨-, rfl⟩ | ⟨-, hdecided⟩
  · exact .inr (.inl rfl)
  rcases hdecided.cases_of_error h with ⟨-, rfl⟩ | ⟨-, hdecided⟩
  · exact .inl rfl
  rcases hdecided.cases_of_error h with ⟨digits, hsized, hdecimal, hlong, rfl⟩ | ⟨-, hdecided⟩
  · refine .inr (.inr ⟨_, rfl, .size hsized hdecimal hlong ?_⟩)
    intro bits htells
    have hbits : Within '0' '7' bits := by
      by_contra hbad
      exact hoctal _ ⟨⟨bits, htells, hbad⟩, rfl⟩
    refine ⟨hbits, Nat.lt_of_not_le fun hwide => ?_⟩
    exact hfits _ ⟨bits, htells, hbits, hwide, rfl⟩
  rcases hdecided.cases_of_error h with ⟨-, rfl⟩ | ⟨-, hdecided⟩
  · exact .inr (.inl rfl)
  obtain ⟨-⟩ | ⟨-⟩ | ⟨houtcome, -⟩ := hdecided
  rw [houtcome] at h
  cases h

theorem fault_of_checks {α : Type} {facts : Facts} {outcome : Except Failure α}
    {fine : α → Prop} {fault : Fault} (hdecided : Decided outcome fine (facts.checks line))
    (h : facts.Exceeds fault) : outcome = .error (.fault fault) := by
  cases h with
  | @mode digits htells hoctal hwide =>
    have hrest := hdecided.stands (mt (htells.exists_iff _).mp (not_not_intro hoctal))
    refine hrest.eq_error ⟨digits, htells, hoctal, hwide, rfl⟩ ?_
    intro f hf
    exact ((htells.exists_iff _).mp hf).2.2
  | @size digits hsized hdecimal hlong hmode =>
    have hnumber := (hdecided.after_mode hmode).after_digits hsized hdecimal
    refine hnumber.eq_error ⟨digits, hsized, hdecimal, hlong, rfl⟩ ?_
    intro f hf
    exact ((hsized.exists_iff _).mp hf).2.2

theorem read_error {failure : Failure} (h : read line skipSelf = .error failure) :
    Fails line skipSelf failure := by
  by_cases hwritten : ∃ facts path, IsFactLine line facts path
  case neg =>
    rw [read_of_not_isFactLine (fun facts path h => hwritten ⟨facts, path, h⟩)] at h
    cases h
    exact .malformed
  obtain ⟨facts, path, hline⟩ := hwritten
  rcases facts.tells_or_lacks "type" with ⟨type, htype⟩ | hlacks
  · by_cases hskip : skipSelf = true → type ∉ Facts.selfOrParent
    · have hdecided := read_decided_of_type skipSelf hline htype hskip
      rcases failure_of_checks hdecided h with rfl | rfl | ⟨fault, rfl, hexceeds⟩
      · exact .malformed
      · exact .incomplete
      · exact .exceeds ⟨facts, path, type, hline, htype, hskip, hexceeds⟩
    · rw [Classical.not_imp, not_not] at hskip
      obtain ⟨rfl, hself⟩ := hskip
      rw [read_skipped hline htype hself] at h
      cases h
  · rw [read_of_lacks_type hline hlacks] at h
    cases h
    exact .incomplete

theorem read_of_exceeds {fault : Fault} (h : Exceeds line skipSelf fault) :
    read line skipSelf = .error (.fault fault) := by
  obtain ⟨facts, path, type, hline, htype, hskip, hexceeds⟩ := h
  exact fault_of_checks (read_decided_of_type skipSelf hline htype hskip) hexceeds

end Entry
end FileTransfer.Listing

namespace FileTransfer.Told
open FileTransfer.Listing
set_option autoImplicit false

/-! ## Whole listings -/

theorem entries_cons_of_error {line : String} {failure : Failure}
    (h : Entry.read (withoutEnd line) true = .error failure) (lines : List String) :
    entries (line :: lines) = .error failure := by
  rw [entries, h]
  rfl

theorem entries_cons_of_ok {line : String} {e? : Option Entry}
    (h : Entry.read (withoutEnd line) true = .ok e?) (lines : List String) :
    entries (line :: lines) = (e?.toList ++ ·) <$> entries lines := by
  rw [entries, h]
  rfl

theorem first_failure_of_entries {lines : List String} {failure : Failure}
    (h : entries lines = .error failure) :
    ∃ before line after, lines = before ++ line :: after ∧
      (∀ l ∈ before, ∃ e?, Entry.read (withoutEnd l) true = .ok e?) ∧
      Entry.read (withoutEnd line) true = .error failure := by
  induction lines with
  | nil => cases h
  | cons first lines ih =>
    cases hfirst : Entry.read (withoutEnd first) true with
    | error failure' =>
      rw [entries_cons_of_error hfirst] at h
      cases h
      exact ⟨[], first, lines, rfl, by simp, hfirst⟩
    | ok e? =>
      rw [entries_cons_of_ok hfirst] at h
      cases hlater : entries lines with
      | ok later =>
        rw [hlater] at h
        cases h
      | error failure' =>
        rw [hlater] at h
        cases h
        obtain ⟨before, line, after, rfl, hbefore, hline⟩ := ih hlater
        exact ⟨first :: before, line, after, rfl,
          List.forall_mem_cons.mpr ⟨⟨e?, hfirst⟩, hbefore⟩, hline⟩

/-- A listing is made of the entries of its lines, in their order. -/
theorem entries_eq_ok_iff (lines : List String) (es : List Entry) :
    entries lines = .ok es ↔
      ∃ found, List.Forall₂ (fun l e? => Entry.read (withoutEnd l) true = .ok e?) lines found ∧
        es = found.reduceOption := by
  induction lines generalizing es with
  | nil =>
    constructor
    · intro h
      cases h
      exact ⟨[], .nil, rfl⟩
    · rintro ⟨found, hfound, rfl⟩
      cases hfound
      rfl
  | cons first lines ih =>
    constructor
    · intro h
      cases hfirst : Entry.read (withoutEnd first) true with
      | error failure =>
        rw [entries_cons_of_error hfirst] at h
        cases h
      | ok e? =>
        rw [entries_cons_of_ok hfirst] at h
        cases hlater : entries lines with
        | error failure =>
          rw [hlater] at h
          cases h
        | ok later =>
          rw [hlater] at h
          cases h
          obtain ⟨found, hfound, rfl⟩ := (ih later).mp hlater
          refine ⟨e? :: found, .cons hfirst hfound, ?_⟩
          cases e? <;> rfl
    · rintro ⟨found, hfound, rfl⟩
      cases hfound with
      | @cons _ e? _ found hfirst hlater =>
        rw [entries_cons_of_ok hfirst, (ih _).mpr ⟨found, hlater, rfl⟩]
        cases e? <;> rfl

/-! ## What callers are told -/

theorem error_of_map {α β : Type} {f : α → β} {x : Except Failure α} {failure : Failure}
    (h : f <$> x = .error failure) : x = .error failure := by
  cases x with
  | error failure' =>
    cases h
    rfl
  | ok a => cases h

/-- The fact line of a reply about one entry: the middle one of three, without its indentation. -/
def factLine? : List String → Option String
  | [_, line, _] => some (String.ofList (line.toList.dropWhile (· = ' ')))
  | _ => none

theorem entry_error {lines : List String} {failure : Failure} (h : entry lines = .error failure) :
    failure = .undecodable (.entryReply lines) ∨
      ∃ line, factLine? lines = some line ∧ Entry.read line false = .error failure := by
  fun_cases factLine? lines with
  | case1 first line last =>
    refine .inr ⟨_, rfl, ?_⟩
    cases hread : Entry.read (String.ofList (line.toList.dropWhile (· = ' '))) false with
    | error failure' =>
      rw [entry, hread] at h
      cases h
      rfl
    | ok e? =>
      cases e? with
      | none => exact absurd hread (Entry.read_ne_none _)
      | some e =>
        rw [entry, hread] at h
        cases h
  | case2 =>
    rename_i hlines
    have hentry : entry lines = .error (.undecodable (.entryReply lines)) := by
      rw [entry]
      exact hlines
    rw [hentry] at h
    cases h
    exact .inl rfl

/-- A line that is not read is malformed or incomplete, or a number of it is too large, and then it
fails with a fault. A listing and a reply about an entry fail as a line of theirs. -/
theorem read_failures (line : String) (skipSelf : Bool) (lines : List String) :
    (∀ failure, Entry.read line skipSelf = .error failure → Entry.Fails line skipSelf failure) ∧
    (∀ fault, Exceeds line skipSelf fault → Entry.read line skipSelf = .error (.fault fault)) ∧
    (∀ failure, (Told.listing lines).answer = .error failure →
      ∃ l ∈ lines, Entry.Fails (withoutEnd l) true failure) ∧
    (∀ failure, (Told.about lines).answer = .error failure →
      failure = .undecodable (.entryReply lines) ∨
        ∃ l, factLine? lines = some l ∧ Entry.Fails l false failure) := by
  refine ⟨fun _ h => Entry.read_error h, fun _ h => Entry.read_of_exceeds h, ?_, ?_⟩
  · intro failure h
    obtain ⟨before, l, after, rfl, -, hl⟩ := first_failure_of_entries (error_of_map h)
    exact ⟨l, by simp, Entry.read_error hl⟩
  · intro failure h
    rcases entry_error (error_of_map h) with hreply | ⟨l, hl, hread⟩
    · exact .inl hreply
    · exact .inr ⟨l, hl, Entry.read_error hread⟩

/-- A mode of 33 bits in an otherwise sound line is neither malformed nor incomplete. -/
theorem read_escapes :
    ¬ ∀ (line : String) (skipSelf : Bool), (∃ e?, Entry.read line skipSelf = .ok e?) ∨
      Entry.read line skipSelf = .error (.undecodable (.malformedEntry line)) ∨
      Entry.read line skipSelf = .error (.undecodable (.incompleteEntry line)) := by
  intro h
  have hread : Entry.read "type=file;size=1;modify=20150216084148;unix.mode=40000000000; f" true =
      .error (.fault (.mode .wide)) := by decide
  have hcases := h "type=file;size=1;modify=20150216084148;unix.mode=40000000000; f" true
  rw [hread] at hcases
  rcases hcases with ⟨_, hok⟩ | hmalformed | hincomplete
  · cases hok
  · cases hmalformed
  · cases hincomplete

end FileTransfer.Told
