import FileTransfer.Proofs.Dialogue.Plan
import FileTransfer.Proofs.Session.Passage
import FileTransfer.Scenario

/-!
# Replies as expected

A command with an expected reply is judged by its whole reply and by nothing after it. The first digit
decides where a category is expected, and the code where a code is.

* `Expected.Meets`, `Expected.exists_admits`: the codes that are as expected, and that each is judged.
* `expected_reply`: a command, and what becomes of it for each reply and for a line that opens none.
-/

namespace FileTransfer
open FileTransfer.Reply FileTransfer.Session FileTransfer.Text
set_option autoImplicit false

/-! ## Codes -/

/-- Whether a code is as expected: it is the one, or its first digit is that of the category. -/
def Expected.Meets : Expected → Nat → Prop
  | .category c, number => number / 100 = c.digit
  | .code n, number => (number : Int) = n

theorem Expected.exists_admits (e : Expected) {code : Nat} (hlo : 100 ≤ code) (hhi : code ≤ 599) :
    ∃ admitted, e.admits code = .ok admitted ∧ (admitted = true ↔ e.Meets code) := by
  cases e with
  | category c =>
    refine ⟨_, Dialogue.admits_category c hlo hhi, ?_⟩
    rw [Category.covers, decide_eq_true_iff]
    exact Int.natCast_inj
  | code n =>
    refine ⟨_, rfl, ?_⟩
    rw [decide_eq_true_iff]
    exact eq_comm

theorem Expected.judge_eq (e : Expected) (line : String) {a : Reply} (hlo : 100 ≤ a.code)
    (hhi : a.code ≤ 599) :
    (e.Meets a.code → e.judge line a = .ok ()) ∧
      (¬ e.Meets a.code →
        e.judge line a = .error (.protocol a.code a.message (some (censored line)) none)) := by
  obtain ⟨admitted, hadmits, hmeets⟩ := e.exists_admits hlo hhi
  rw [judge, hadmits]
  cases admitted with
  | true => exact ⟨fun _ => rfl, fun hother => absurd (hmeets.mp rfl) hother⟩
  | false => exact ⟨fun hsame => absurd (hmeets.mpr hsame) (by decide), fun _ => rfl⟩

/-! ## Commands -/

namespace Session.Holding
open Dialogue
open FileTransfer.Scenario.Scene (commanding)

variable {template line : String} {arguments : List Value} {h : Holding}

/-- A command of which a certain reply is expected, whose line is one line and can be sent. The reply at
the front of the lines to come is read and nothing after it: the command succeeds if the code is as
expected, and otherwise fails with that reply and the line as it may be shown, temporarily just if the
first digit is 4. A line that opens no reply is all that is read, and fails as malformed. A line that
opens one has a code of some category. -/
theorem expected_reply (hfill : Template.fill template arguments = .ok line)
    (hline : hasLineBreak line = false) (hsends : h.connection.sends.headD none = none)
    (e : Expected) :
    let dialogue := commanding template arguments (expect e)
    let result := (run dialogue h).1
    let left := (run dialogue h).2.connection.replies
    expectOf e template arguments = dialogue ∧
    (turns dialogue h).filter Turn.acts =
      [.sent line (.ok ()), .received .opening h.connection.replies] ∧
    (∀ (f : Frame) (later : List Incoming), f.WellFormed →
      h.connection.replies = f.lines.map .ok ++ later →
      let failure := Failure.protocol f.code (joined "\n" f.texts) (some (censored line)) none
      left = later ∧
      (e.Meets f.code → result = .ok ()) ∧
      (¬ e.Meets f.code → result = .error failure) ∧
      (failure.isTemporary = true ↔ f.code / 100 = 4)) ∧
    (∀ (first : String) (later : List Incoming), ¬ OpeningLine.BeginsReply first.toList →
      h.connection.replies = .ok first :: later →
      left = later ∧
      result = .error (.undecodable (.replyLine first)) ∧
      (Undecodable.replyLine first).isIncomplete = false) ∧
    ∀ (text : String) (o : OpeningLine), OpeningLine.read text = .ok o →
      ∃ c, Category.ofCode? o.code = some c ∧ o.code / 100 = c.digit := by
  intro dialogue result left
  have hdialogue : dialogue = expect e line := by
    rw [show dialogue = commanding template arguments (expect e) from rfl, commanding,
      filled_eq hfill]
    rfl
  have hreading {r : Except Failure Reply} {seen rest : List Incoming}
      (hread : read h.connection.replies = ⟨r, seen, rest⟩) :
      (turns dialogue h).filter Turn.acts =
          [.sent line (.ok ()), .received .opening h.connection.replies] ∧
        result = (r >>= e.judge line) ∧ left = rest := by
    obtain ⟨h', htakes, hrest, -⟩ := takes_expect_of_read (e := e) hline hsends hread
    rw [← hdialogue] at htakes
    refine ⟨htakes.turns_eq, congrArg Prod.fst htakes.run_eq, ?_⟩
    exact (congrArg (·.2.connection.replies) htakes.run_eq).trans hrest
  refine ⟨(expectOf_eq hfill e).trans hdialogue.symm, (hreading rfl).1, ?_, ?_, ?_⟩
  · intro f later hf hreplies failure
    have hread := read_frame hf later
    rw [← hreplies] at hread
    obtain ⟨-, hresult, hleft⟩ := hreading hread
    have hjudged : result = e.judge line f.reply := hresult
    obtain ⟨hmet, hunmet⟩ := e.judge_eq line (a := f.reply) hf.lower hf.upper
    refine ⟨hleft, fun h => hjudged.trans (hmet h), fun h => hjudged.trans (hunmet h), ?_⟩
    have htemporary : failure.isTemporary = true ↔ 400 ≤ (f.code : Int) ∧ (f.code : Int) < 500 := by
      rw [Failure.isTemporary, Bool.and_eq_true, decide_eq_true_iff, decide_eq_true_iff]
    rw [htemporary]
    omega
  · intro first later hfirst hreplies
    have hread : read h.connection.replies =
        ⟨.error (.undecodable (.replyLine first)), [.ok first], later⟩ := by
      rw [hreplies, Reply.read, Reader.run, Reader.feed, OpeningLine.read_of_not_beginsReply hfirst]
    obtain ⟨-, hresult, hleft⟩ := hreading hread
    exact ⟨hleft, hresult, rfl⟩
  · intro text o ho
    obtain ⟨hproper, -⟩ := OpeningLine.written_of_read ho
    exact exists_category hproper.lower hproper.upper

/-- A wrong reply of two lines to a password, and a line whose code has a digit that is not ASCII. -/
theorem expected_reply_password :
    let h (replies : List Incoming) : Holding := { connection := { id := 0, replies } }
    let dialogue := commanding "pass %s" [.text "x"] (expect (.category .positiveCompletion))
    let busy := h [.ok "430-no", .ok "430", .ok "230 later"]
    let odd := h [.ok "2³0 yes", .ok "230 later"]
    (run dialogue busy).1 = .error (.protocol 430 "no\n" (some "PASS ******") none) ∧
      (Failure.protocol 430 "no\n" (some "PASS ******") none).isTemporary = true ∧
      (run dialogue busy).2.connection.replies = [.ok "230 later"] ∧
      (run dialogue odd).1 = .error (.undecodable (.replyLine "2³0 yes")) ∧
      (run dialogue odd).2.connection.replies = [.ok "230 later"] := by
  intro h dialogue busy odd
  let f : Frame := .long 430 "no" [] none
  have hf : f.WellFormed := ⟨by decide, by decide, by simp [f, Frame.inside]⟩
  have hfill : Template.fill "pass %s" [.text "x"] = .ok "pass x" := by decide
  have hodd : ¬ OpeningLine.BeginsReply "2³0 yes".toList := by
    rintro ⟨a, b, c, tail, hline, -, hb, -⟩
    have hthree : b = '³' := (List.cons.inj (List.cons.inj hline).2).1.symm
    rw [hthree] at hb
    exact absurd hb (by decide)
  obtain ⟨-, -, hwritten, -⟩ := expected_reply (h := busy) hfill (by decide) rfl
    (.category .positiveCompletion)
  obtain ⟨-, -, -, hunreadable, -⟩ := expected_reply (h := odd) hfill (by decide) rfl
    (.category .positiveCompletion)
  have hunmet : ¬ (430 : Nat) / 100 = 2 := by decide
  obtain ⟨hbusyLeft, -, hbusy, htemporary⟩ := hwritten f [.ok "230 later"] hf rfl
  obtain ⟨hoddLeft, hoddResult, -⟩ := hunreadable "2³0 yes" [.ok "230 later"] hodd rfl
  exact ⟨hbusy hunmet, htemporary.mpr (by decide), hbusyLeft, hoddResult, hoddLeft⟩

end Session.Holding
end FileTransfer
