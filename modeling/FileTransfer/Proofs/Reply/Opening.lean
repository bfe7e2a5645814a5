import Mathlib.Data.List.Basic
import FileTransfer.Proofs.Text.Decimal
import FileTransfer.Reply.Line

/-!
# Opening lines

A line opens a reply exactly when it is the written form of a code from 100 to 599, a separator,
and text.

* `OpeningLine.Proper`: the parts that some line is made of.
* `OpeningLine.read?_eq_some_iff`: reading a line finds the parts it was written from, and fails on
  every line that was not written so.
* `BeginsReply`, `exists_read?_iff`: the lines that open a reply, character by character.
-/

namespace FileTransfer.Reply
open FileTransfer.Text
set_option autoImplicit false

namespace OpeningLine

/-- The parts of a line: the code has three digits, the first of them from 1 to 5, and nothing
follows a code alone. -/
structure Proper (o : OpeningLine) : Prop where
  lower : 100 ≤ o.code
  upper : o.code ≤ 599
  bare : o.separator = .bare → o.text = []

theorem Proper.length_code {o : OpeningLine} (h : o.Proper) : (decimal 3 o.code).length = 3 :=
  length_decimal (by decide) (Nat.lt_of_le_of_lt h.upper (by decide))

/-! ## The end of a line -/

theorem not_bare_cons (c : Char) (cs text : List Char) :
    ¬ (c :: cs = Separator.bare.text ++ text ∧ (Separator.bare = .bare → text = [])) := by
  rintro ⟨htail, hbare⟩
  rw [hbare rfl] at htail
  cases htail

theorem readTail?_eq_some_iff (tail : List Char) (separator : Separator) (text : List Char) :
    readTail? tail = some (separator, text) ↔
      tail = separator.text ++ text ∧ (separator = .bare → text = []) := by
  cases tail with
  | nil => cases separator <;> simp [readTail?, Separator.text, eq_comm]
  | cons c cs =>
    simp only [readTail?]
    split
    case isTrue hspace =>
      subst hspace
      cases separator with
      | bare => exact iff_of_false (by simp) (not_bare_cons _ cs text)
      | space => simp [Separator.text, eq_comm]
      | hyphen => simp [Separator.text]
    case isFalse hspace =>
      split
      case isTrue hhyphen =>
        subst hhyphen
        cases separator with
        | bare => exact iff_of_false (by simp) (not_bare_cons _ cs text)
        | space => simp [Separator.text]
        | hyphen => simp [Separator.text, eq_comm]
      case isFalse hhyphen =>
        cases separator with
        | bare => exact iff_of_false (by simp) (not_bare_cons _ cs text)
        | space => simp [Separator.text, hspace]
        | hyphen => simp [Separator.text, hhyphen]

/-! ## The digits of a code -/

theorem code_bounds {digits : List Char} (hlen : digits.length = 3)
    (hnum : isNumeral 10 digits = true) :
    ('1' ≤ digits.headD '0' ∧ digits.headD '0' ≤ '5') ↔
      (100 ≤ numeralValue 10 digits ∧ numeralValue 10 digits ≤ 599) := by
  obtain ⟨a, b, c, rfl⟩ := List.length_eq_three.mp hlen
  simp only [isNumeral, List.isEmpty_cons, List.all_cons, List.all_nil, Bool.and_true,
    Bool.and_eq_true, Bool.not_false] at hnum
  obtain ⟨-, ha, hb, hc⟩ := hnum
  have hb' : digitValue b < 10 := of_decide_eq_true hb
  have hc' : digitValue c < 10 := of_decide_eq_true hc
  have hvalue : numeralValue 10 [a, b, c] =
      digitValue a * 100 + digitValue b * 10 + digitValue c := by
    simp only [numeralValue, List.foldl_cons, List.foldl_nil]
    omega
  have hrange := (isDigitOf_ten_iff a).mp ha
  have hdigit : digitValue a = a.toNat - 48 := if_pos hrange
  have hlo : 48 ≤ a.toNat := hrange.1
  have hone : '1' ≤ a ↔ 49 ≤ a.toNat := Iff.rfl
  have hfive : a ≤ '5' ↔ a.toNat ≤ 53 := Iff.rfl
  rw [hvalue, List.headD_cons, hone, hfive, hdigit]
  omega

/-! ## Whole lines -/

theorem read?_eq_some_iff (line : List Char) (o : OpeningLine) :
    read? line = some o ↔ o.Proper ∧ line = o.written := by
  constructor
  · intro h
    simp only [read?, Option.bind_eq_bind, Option.bind_eq_some_iff, Prod.exists] at h
    obtain ⟨separator, text, htail, h⟩ := h
    obtain ⟨htail, hbare⟩ := (readTail?_eq_some_iff _ _ _).mp htail
    split at h
    case isFalse => cases h
    case isTrue hd =>
      obtain ⟨hlen, hnum, hone, hfive⟩ := hd
      obtain ⟨hlo, hhi⟩ := (code_bounds hlen hnum).mp ⟨hone, hfive⟩
      cases h
      refine ⟨⟨hlo, hhi, hbare⟩, ?_⟩
      have hdigits := decimal_numeralValue _ hnum
      rw [hlen] at hdigits
      rw [written, hdigits, List.append_assoc, ← htail, List.take_append_drop]
  · rintro ⟨hproper, rfl⟩
    have hlen := hproper.length_code
    have hnum := isNumeral_decimal 3 o.code
    have htake : o.written.take 3 = decimal 3 o.code := by
      rw [written, List.append_assoc, List.take_left' hlen]
    have hdrop : o.written.drop 3 = o.separator.text ++ o.text := by
      rw [written, List.append_assoc, List.drop_left' hlen]
    have htail := (readTail?_eq_some_iff _ o.separator o.text).mpr ⟨hdrop, hproper.bare⟩
    have hvalue := numeralValue_decimal 3 o.code
    have hbounds := (code_bounds hlen hnum).mpr (by rw [hvalue]; exact ⟨hproper.lower, hproper.upper⟩)
    simp only [read?, htail, htake, Option.bind_eq_bind, Option.bind_some, hvalue]
    exact if_pos ⟨hlen, hnum, hbounds⟩

theorem written_of_read {line : String} {o : OpeningLine} (h : read line = .ok o) :
    o.Proper ∧ line.toList = o.written := by
  rw [read] at h
  split at h
  case h_1 o' ho' =>
    cases h
    exact (read?_eq_some_iff _ _).mp ho'
  case h_2 => cases h

theorem read_written {o : OpeningLine} (h : o.Proper) :
    read (String.ofList o.written) = .ok o := by
  rw [read, String.toList_ofList, (read?_eq_some_iff _ o).mpr ⟨h, rfl⟩]

/-! ## Lines that open a reply -/

/-- Three ASCII digits, the first of them from 1 to 5, and then the end of the line, a space or a
hyphen. -/
def BeginsReply (line : List Char) : Prop :=
  ∃ a b c tail, line = a :: b :: c :: tail ∧ ('1' ≤ a ∧ a ≤ '5') ∧ ('0' ≤ b ∧ b ≤ '9') ∧
    ('0' ≤ c ∧ c ≤ '9') ∧ (tail = [] ∨ ∃ text, tail = ' ' :: text ∨ tail = '-' :: text)

theorem exists_readTail?_iff (tail : List Char) :
    (∃ p, readTail? tail = some p) ↔
      tail = [] ∨ ∃ text, tail = ' ' :: text ∨ tail = '-' :: text := by
  constructor
  · rintro ⟨⟨separator, text⟩, h⟩
    obtain ⟨htail, hbare⟩ := (readTail?_eq_some_iff _ _ _).mp h
    cases separator with
    | bare => exact .inl (by rw [htail, hbare rfl]; rfl)
    | space => exact .inr ⟨text, .inl htail⟩
    | hyphen => exact .inr ⟨text, .inr htail⟩
  · rintro (rfl | ⟨text, rfl | rfl⟩)
    · exact ⟨_, rfl⟩
    · exact ⟨_, rfl⟩
    · exact ⟨_, rfl⟩

theorem exists_read?_iff (line : List Char) :
    (∃ o, read? line = some o) ↔ BeginsReply line := by
  constructor
  · rintro ⟨o, ho⟩
    simp only [read?, Option.bind_eq_bind, Option.bind_eq_some_iff, Prod.exists] at ho
    obtain ⟨separator, text, htail, ho⟩ := ho
    split at ho
    case isFalse => cases ho
    case isTrue hdigits =>
      obtain ⟨hlength, hnumeral, hone, hfive⟩ := hdigits
      obtain ⟨a, b, c, habc⟩ := List.length_eq_three.mp hlength
      rw [habc] at hnumeral hone hfive
      have hall := ((isNumeral_iff 10 _).mp hnumeral).2
      refine ⟨a, b, c, line.drop 3, ?_, ⟨hone, hfive⟩, ?_, ?_, ?_⟩
      · exact (List.take_append_drop 3 line).symm.trans (congrArg (· ++ line.drop 3) habc)
      · exact (isDigitOf_ten_iff b).mp (hall b (by simp))
      · exact (isDigitOf_ten_iff c).mp (hall c (by simp))
      · exact (exists_readTail?_iff _).mp ⟨_, htail⟩
  · rintro ⟨a, b, c, tail, rfl, ⟨hone, hfive⟩, hb, hc, htail⟩
    obtain ⟨⟨separator, text⟩, hread⟩ := (exists_readTail?_iff tail).mpr htail
    have ha : '0' ≤ a ∧ a ≤ '9' :=
      ⟨Char.le_trans (by decide) hone, Char.le_trans hfive (by decide)⟩
    have hnumeral : isNumeral 10 [a, b, c] = true := by
      simp [isNumeral, isDigitOf_ten_iff, ha, hb, hc]
    have hdigits : (a :: b :: c :: tail).take 3 = [a, b, c] := rfl
    have hdrop : (a :: b :: c :: tail).drop 3 = tail := rfl
    refine ⟨⟨numeralValue 10 [a, b, c], separator, text⟩, ?_⟩
    rw [read?, hdigits, hdrop, hread]
    exact if_pos ⟨rfl, hnumeral, hone, hfive⟩

theorem read_of_not_beginsReply {line : String} (h : ¬ BeginsReply line.toList) :
    read line = .error (.undecodable (.replyLine line)) := by
  have hnone : read? line.toList = none :=
    Option.eq_none_iff_forall_ne_some.mpr fun o ho => h ((exists_read?_iff _).mp ⟨o, ho⟩)
  rw [read, hnone]

end OpeningLine
end FileTransfer.Reply
