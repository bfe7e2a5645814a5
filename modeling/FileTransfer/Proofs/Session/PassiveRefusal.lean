import FileTransfer.Proofs.Reply.Opening
import FileTransfer.Proofs.Session.Conduct

/-!
# Refused data channels

A server that refuses a data channel does so with a reply. Its text is read as the first line of any
other reply is, if it opens a reply. Where it does not, it is still told as some reply, unless the first
characters are digits that make no number.

* `BeginsOddly`: the texts whose first characters are digits and no number.
* `refusalReply_of_read`: the reply in a text that opens one.
* `exists_refusalReply`, `refusalReply_of_beginsOddly`: the texts in which there is some reply.
* `refused_channel`: what becomes of a refusal, whatever its text.
* `refused_channel_superscript`: a refusal that is not told as one.
-/

namespace FileTransfer.Session
open FileTransfer.Reply FileTransfer.Text
set_option autoImplicit false

/-! ## Digits -/

theorem decimalValue?_of_isDigitOf {c : Char} (h : isDigitOf 10 c = true) :
    decimalValue? c = some (digitValue c) := by
  have hrange := (isDigitOf_ten_iff c).mp h
  have hlo : 48 ≤ c.toNat := hrange.1
  have hhi : c.toNat ≤ 57 := hrange.2
  have hvalue : digitValue c = c.toNat - 48 := if_pos hrange
  have hfirst : (48 ≤ c.toNat && c.toNat < 48 + 10) = true := by
    rw [Bool.and_eq_true, decide_eq_true_iff, decide_eq_true_iff]
    omega
  have hfound : decimalZeros.find? (fun z => z ≤ c.toNat && c.toNat < z + 10) = some 48 :=
    List.find?_cons_of_pos hfirst
  rw [decimalValue?, hfound, hvalue]
  rfl

theorem mapM_decimalValue? {s : List Char} (h : ∀ c ∈ s, isDigitOf 10 c = true) :
    s.mapM decimalValue? = some (s.map digitValue) := by
  induction s with
  | nil => rfl
  | cons c s ih =>
    have hrest := ih fun d hd => h d (List.mem_cons_of_mem c hd)
    rw [List.mapM_cons, decimalValue?_of_isDigitOf (h c List.mem_cons_self), hrest]
    rfl

theorem mapM_decimalValue?_eq_none_iff (s : List Char) :
    s.mapM decimalValue? = none ↔ ∃ c ∈ s, decimalValue? c = none := by
  induction s with
  | nil => exact iff_of_false nofun (by simp)
  | cons c s ih =>
    rw [List.mapM_cons]
    cases hc : decimalValue? c with
    | none => exact iff_of_true rfl ⟨c, List.mem_cons_self, hc⟩
    | some d =>
      simp only [List.mem_cons, exists_eq_or_imp, hc, reduceCtorEq, false_or, ← ih]
      cases s.mapM decimalValue? with
      | none => exact iff_of_true rfl rfl
      | some ds => exact iff_of_false nofun nofun

/-! ## The text of a refusal -/

/-- The first characters of a text, three if there are as many, are digits, and not all of them are
decimal. -/
def BeginsOddly (text : List Char) : Prop :=
  (∀ c ∈ text.take 3, isDigit c = true) ∧ ∃ c ∈ text.take 3, decimalValue? c = none

theorem refusalReply_of_beginsOddly {text : String} (h : BeginsOddly text.toList) :
    refusalReply text = .error (.notDecimal (String.ofList (text.toList.take 3))) := by
  obtain ⟨hdigits, c, hc, hodd⟩ := h
  have hfront : ((text.toList.take 3).isEmpty || !(text.toList.take 3).all isDigit) = false := by
    rw [Bool.or_eq_false_iff, Bool.not_eq_false', List.all_eq_true]
    exact ⟨List.isEmpty_eq_false_iff.mpr (List.ne_nil_of_mem hc), hdigits⟩
  have hnone := (mapM_decimalValue?_eq_none_iff _).mpr ⟨c, hc, hodd⟩
  simp only [refusalReply, hfront, hnone]
  rfl

theorem exists_refusalReply {text : String} (h : ¬ BeginsOddly text.toList) :
    ∃ code, refusalReply text = .ok (code, String.ofList (text.toList.drop 4)) := by
  unfold refusalReply
  dsimp only
  split
  case isTrue => exact ⟨0, rfl⟩
  case isFalse hfront =>
    rw [Bool.not_eq_true, Bool.or_eq_false_iff, Bool.not_eq_false', List.all_eq_true] at hfront
    split
    case h_1 digits _ => exact ⟨_, rfl⟩
    case h_2 hnone =>
      exact absurd ⟨hfront.2, (mapM_decimalValue?_eq_none_iff _).mp hnone⟩ h

theorem isDigit_of_isDigitOf {c : Char} (h : isDigitOf 10 c = true) : isDigit c = true := by
  rw [isDigit, decimalValue?_of_isDigitOf h]
  rfl

/-- A text that opens a reply is the refusal with that code and text. -/
theorem refusalReply_of_read {text : String} {o : OpeningLine} (h : OpeningLine.read text = .ok o) :
    refusalReply text = .ok (o.code, String.ofList o.text) := by
  obtain ⟨hproper, hline⟩ := OpeningLine.written_of_read h
  have hlength := hproper.length_code
  have hwritten : text.toList = decimal 3 o.code ++ (o.separator.text ++ o.text) := by
    rw [hline, OpeningLine.written, List.append_assoc]
  have hfront : text.toList.take 3 = decimal 3 o.code := by rw [hwritten, List.take_left' hlength]
  have hrest : text.toList.drop 4 = o.text := by
    have hdrop : text.toList.drop 3 = o.separator.text ++ o.text := by
      rw [hwritten, List.drop_left' hlength]
    rw [← List.drop_drop (i := 1) (j := 3), hdrop]
    cases hseparator : o.separator with
    | bare => rw [hproper.bare hseparator]; rfl
    | space => rfl
    | hyphen => rfl
  obtain ⟨hne, hall⟩ := (isNumeral_iff 10 _).mp (isNumeral_decimal 3 o.code)
  have hdigits : ((decimal 3 o.code).isEmpty || !(decimal 3 o.code).all isDigit) = false := by
    rw [Bool.or_eq_false_iff, Bool.not_eq_false', List.all_eq_true]
    exact ⟨List.isEmpty_eq_false_iff.mpr hne, fun c hc => isDigit_of_isDigitOf (hall c hc)⟩
  have hvalue : ((decimal 3 o.code).map digitValue).foldl (fun n d => n * 10 + d) 0 = o.code := by
    rw [List.foldl_map]
    exact numeralValue_decimal 3 o.code
  simp only [refusalReply, hfront, hrest, hdigits, mapM_decimalValue? hall, hvalue]
  rfl

/-! ## The refusal -/

theorem passiveFailure_of_reply {f : Fault} (hrefusal : f.isRefusal = true) {code : Nat}
    {reply : String} (h : refusalReply f.message = .ok (code, reply)) :
    passiveFailure (.fault f) = .protocol code reply (some "PASV") (some f) := by
  rw [passiveFailure, if_pos hrefusal, h]

/-- A session whose server refuses the next data channel is not broken by that. The refusal is told as a
reply: the one that its text opens, if it opens one, and otherwise one of some code and of the text from
the fifth character on. Only where the text begins with digits that make no number there is none, and
this is what fails instead. -/
theorem refused_channel {h : Holding} {info : SessionInfo} {kind : SessionKind} {text : String}
    (hcarrier : h.connection.carrier = .session info)
    (hkind : kind ∈ [.permanent, .temporary, .unexpected])
    (hopening : h.connection.nextTransfer.opening = some (.fault (.session kind text))) :
    let refused (code : Nat) (reply : String) : Except Failure Unit :=
      .error (.protocol code reply (some "PASV") (some (.session kind text)))
    h.openData.2.connection.broken = h.connection.broken ∧
      (¬ BeginsOddly text.toList →
        ∃ code, h.openData.1 = refused code (String.ofList (text.toList.drop 4))) ∧
      (∀ o, OpeningLine.read text = .ok o → h.openData.1 = refused o.code (String.ofList o.text)) ∧
      (BeginsOddly text.toList →
        h.openData.1 = .error (.fault (.notDecimal (String.ofList (text.toList.take 3))))) := by
  intro refused
  let f : Fault := .session kind text
  have hrefusal : f.isRefusal = true := by
    simp only [List.mem_cons, List.not_mem_nil, or_false] at hkind
    rcases hkind with rfl | rfl | rfl <;> rfl
  have hasked : h.openData.1 = .error (passiveFailure (.fault f)) := by
    simp only [Holding.openData, hcarrier, hopening]
    rfl
  refine ⟨?_, ?_, ?_, ?_⟩
  · have hpassive : Holding.refusal h.connection = some (.fault f) := by
      rw [Holding.refusal, hcarrier]
      exact hopening
    rw [h.openData_spec.1, hpassive]
    exact Bool.or_false _
  · intro hplain
    obtain ⟨code, hcode⟩ := exists_refusalReply hplain
    exact ⟨code, by rw [hasked, passiveFailure_of_reply hrefusal hcode]⟩
  · intro o ho
    rw [hasked, passiveFailure_of_reply hrefusal (refusalReply_of_read ho)]
  · intro hodd
    rw [hasked, passiveFailure, if_pos hrefusal, show f.message = text from rfl,
      refusalReply_of_beginsOddly hodd]

/-- A session whose server refuses its data channel in some way. -/
def refusedChannel (kind : SessionKind) (text : String) : Holding where
  connection := {
    id := 0
    carrier := .session ⟨.text "server", .whole 30, false, .utf8, none⟩
    transfers := [{ opening := some (.fault (.session kind text)) }] }

/-- A refusal of two lines, and one that is no reply. -/
theorem refused_channel_two_ways :
    (refusedChannel .temporary "425-no\n425 data").openData.1 =
        .error (.protocol 425 "no\n425 data" (some "PASV")
          (some (.session .temporary "425-no\n425 data"))) ∧
      ∃ code : Nat, (refusedChannel .unexpected "2x7 odd").openData.1 =
        .error (.protocol code "odd" (some "PASV") (some (.session .unexpected "2x7 odd"))) := by
  obtain ⟨-, -, hwritten, -⟩ := refused_channel (h := refusedChannel .temporary "425-no\n425 data")
    rfl (by decide) rfl
  obtain ⟨-, htold, -⟩ := refused_channel (h := refusedChannel .unexpected "2x7 odd") rfl
    (by decide) rfl
  have hplain : ¬ BeginsOddly "2x7 odd".toList := fun hodd =>
    absurd (hodd.1 'x' (by decide)) (by decide)
  exact ⟨hwritten ⟨425, .hyphen, "no\n425 data".toList⟩ (by decide), htold hplain⟩

/-- Superscripts are digits and make no number, and a refusal that begins with some is not told. -/
theorem refused_channel_superscript :
    (refusedChannel .permanent "5²² no").openData.1 = .error (.fault (.notDecimal "5²²")) ∧
      ∀ code reply cause, (refusedChannel .permanent "5²² no").openData.1 ≠
        .error (.protocol code reply (some "PASV") cause) := by
  have hfailed : (refusedChannel .permanent "5²² no").openData.1 =
      .error (.fault (.notDecimal "5²²")) := by decide
  refine ⟨hfailed, fun code reply cause => ?_⟩
  rw [hfailed]
  exact nofun

end FileTransfer.Session
