import FileTransfer.Operation

/-!
# Courses of a dialogue

What a dialogue does, turn by turn, whatever the other side answers. A course is one way through a
dialogue: its requests in order, each with the answer that decides what comes next.

* `Turn`: a request and its answer.
* `Dialogue.Course`: the turns of a dialogue and its result, for some answers.
* `course_bind`, `course_attempt`: the courses of a sequence and of an attempt.
* `course_reply`, `course_command`, `course_expect`: the courses of a command, in full.
* `course_dataCommand`: the courses of a command with a data channel, by the point at which they end.
-/

namespace FileTransfer
open FileTransfer.Reply
set_option autoImplicit false

/-- A request to a connection and how it was answered. -/
inductive Turn where
  | sent (line : String) (answer : Except Failure Unit)
  /-- A reply was read with a reader off the lines to come. -/
  | received (reader : Reader) (queue : List Incoming)
  /-- A data channel was opened, or the server refused it with `refusal`. -/
  | opened (refusal : Option Failure) (answer : Except Failure Unit)
  | drained (answer : List String × Option Failure)
  | closed (answer : Except Failure Unit)
  | noted (text : String)

theorem hasLineBreak_append (word path : String) :
    hasLineBreak (word ++ path) = (hasLineBreak word || hasLineBreak path) := by
  simp only [hasLineBreak, String.toList_append, List.any_append]

namespace Dialogue
variable {α β : Type}

/-- `Course d ts r`: for some answers, dialogue `d` takes the turns `ts` and comes to `r`. -/
inductive Course : Dialogue α → List Turn → Except Failure α → Prop
  | done (result : Except Failure α) : Course (.done result) [] result
  | send {line : String} {next : Except Failure Unit → Dialogue α} {ts : List Turn}
      {r : Except Failure α} (answer : Except Failure Unit) (h : Course (next answer) ts r) :
      Course (.send line next) (.sent line answer :: ts) r
  | receive {reader : Reader} {next : Except Failure Reply → Dialogue α} {ts : List Turn}
      {r : Except Failure α} (queue : List Incoming)
      (h : Course (next (reader.run queue).outcome) ts r) :
      Course (.receive reader next) (.received reader queue :: ts) r
  /-- A channel that the server refuses is not opened. -/
  | openData {next : Except Failure Unit → Dialogue α} {ts : List Turn} {r : Except Failure α}
      (refusal : Option Failure) (answer : Except Failure Unit)
      (hrefused : refusal.isSome → answer ≠ .ok ()) (h : Course (next answer) ts r) :
      Course (.openData next) (.opened refusal answer :: ts) r
  | readData {next : List String × Option Failure → Dialogue α} {ts : List Turn}
      {r : Except Failure α} (answer : List String × Option Failure)
      (h : Course (next answer) ts r) : Course (.readData next) (.drained answer :: ts) r
  | closeData {next : Except Failure Unit → Dialogue α} {ts : List Turn} {r : Except Failure α}
      (answer : Except Failure Unit) (h : Course (next answer) ts r) :
      Course (.closeData next) (.closed answer :: ts) r
  | note {text : String} {next : Dialogue α} {ts : List Turn} {r : Except Failure α}
      (h : Course next ts r) : Course (.note text next) (.noted text :: ts) r

/-! ## Sequences and attempts -/

theorem course_done {result r : Except Failure α} {ts : List Turn}
    (h : Course (.done result) ts r) : ts = [] ∧ r = result := by
  cases h
  exact ⟨rfl, rfl⟩

/-- A sequence goes through its first part and then through its second, or fails with the first. -/
theorem course_bind {d : Dialogue α} {f : α → Dialogue β} {ts : List Turn} {r : Except Failure β}
    (h : Course (d >>= f) ts r) :
    (∃ a us vs, Course d us (.ok a) ∧ Course (f a) vs r ∧ ts = us ++ vs) ∨
      ∃ failure, Course d ts (.error failure) ∧ r = .error failure := by
  change Course (d.bind f) ts r at h
  induction d generalizing ts with
  | done result =>
    cases result with
    | ok a => exact .inl ⟨a, [], ts, .done _, h, rfl⟩
    | error failure =>
      obtain ⟨rfl, rfl⟩ := course_done h
      exact .inr ⟨failure, .done _, rfl⟩
  | send line next ih =>
    cases h with
    | send answer h =>
      obtain ⟨a, us, vs, hd, hf, rfl⟩ | ⟨failure, hd, hr⟩ := ih answer h
      · exact .inl ⟨a, _, vs, .send answer hd, hf, rfl⟩
      · exact .inr ⟨failure, .send answer hd, hr⟩
  | receive reader next ih =>
    cases h with
    | receive queue h =>
      obtain ⟨a, us, vs, hd, hf, rfl⟩ | ⟨failure, hd, hr⟩ := ih _ h
      · exact .inl ⟨a, _, vs, .receive queue hd, hf, rfl⟩
      · exact .inr ⟨failure, .receive queue hd, hr⟩
  | openData next ih =>
    cases h with
    | openData refusal answer hrefused h =>
      obtain ⟨a, us, vs, hd, hf, rfl⟩ | ⟨failure, hd, hr⟩ := ih answer h
      · exact .inl ⟨a, _, vs, .openData refusal answer hrefused hd, hf, rfl⟩
      · exact .inr ⟨failure, .openData refusal answer hrefused hd, hr⟩
  | readData next ih =>
    cases h with
    | readData answer h =>
      obtain ⟨a, us, vs, hd, hf, rfl⟩ | ⟨failure, hd, hr⟩ := ih answer h
      · exact .inl ⟨a, _, vs, .readData answer hd, hf, rfl⟩
      · exact .inr ⟨failure, .readData answer hd, hr⟩
  | closeData next ih =>
    cases h with
    | closeData answer h =>
      obtain ⟨a, us, vs, hd, hf, rfl⟩ | ⟨failure, hd, hr⟩ := ih answer h
      · exact .inl ⟨a, _, vs, .closeData answer hd, hf, rfl⟩
      · exact .inr ⟨failure, .closeData answer hd, hr⟩
  | note text next ih =>
    cases h with
    | note h =>
      obtain ⟨a, us, vs, hd, hf, rfl⟩ | ⟨failure, hd, hr⟩ := ih h
      · exact .inl ⟨a, _, vs, .note hd, hf, rfl⟩
      · exact .inr ⟨failure, .note hd, hr⟩

theorem course_attempt {d : Dialogue α} {ts : List Turn} {r : Except Failure (Except Failure α)}
    (h : Course d.attempt ts r) : ∃ result, r = .ok result ∧ Course d ts result := by
  induction d generalizing ts with
  | done result =>
    obtain ⟨rfl, rfl⟩ := course_done h
    exact ⟨result, rfl, .done result⟩
  | send line next ih =>
    cases h with
    | send answer h =>
      obtain ⟨result, hr, hd⟩ := ih answer h
      exact ⟨result, hr, .send answer hd⟩
  | receive reader next ih =>
    cases h with
    | receive queue h =>
      obtain ⟨result, hr, hd⟩ := ih _ h
      exact ⟨result, hr, .receive queue hd⟩
  | openData next ih =>
    cases h with
    | openData refusal answer hrefused h =>
      obtain ⟨result, hr, hd⟩ := ih answer h
      exact ⟨result, hr, .openData refusal answer hrefused hd⟩
  | readData next ih =>
    cases h with
    | readData answer h =>
      obtain ⟨result, hr, hd⟩ := ih answer h
      exact ⟨result, hr, .readData answer hd⟩
  | closeData next ih =>
    cases h with
    | closeData answer h =>
      obtain ⟨result, hr, hd⟩ := ih answer h
      exact ⟨result, hr, .closeData answer hd⟩
  | note text next ih =>
    cases h with
    | note h =>
      obtain ⟨result, hr, hd⟩ := ih h
      exact ⟨result, hr, .note hd⟩

/-! ## Single requests -/

theorem course_say {text : String} {ts : List Turn} {r : Except Failure Unit}
    (h : Course (say text) ts r) : ts = [.noted text] ∧ r = .ok () := by
  cases h with
  | note h =>
    obtain ⟨rfl, rfl⟩ := course_done h
    exact ⟨rfl, rfl⟩

theorem course_sendLine {line : String} {ts : List Turn} {r : Except Failure Unit}
    (h : Course (sendLine line) ts r) : ts = [.sent line r] := by
  cases h with
  | send answer h =>
    obtain ⟨rfl, rfl⟩ := course_done h
    rfl

theorem course_openChannel {ts : List Turn} {r : Except Failure Unit}
    (h : Course openChannel ts r) :
    ∃ refusal : Option Failure, (refusal.isSome → r ≠ .ok ()) ∧ ts = [.opened refusal r] := by
  cases h with
  | openData refusal answer hrefused h =>
    obtain ⟨rfl, rfl⟩ := course_done h
    exact ⟨refusal, hrefused, rfl⟩

theorem course_dataLines {ts : List Turn} {r : Except Failure (List String × Option Failure)}
    (h : Course dataLines ts r) : ∃ answer, r = .ok answer ∧ ts = [.drained answer] := by
  cases h with
  | readData answer h =>
    obtain ⟨rfl, rfl⟩ := course_done h
    exact ⟨answer, rfl, rfl⟩

theorem course_closeChannel {ts : List Turn} {r : Except Failure Unit}
    (h : Course closeChannel ts r) : ts = [.closed r] := by
  cases h with
  | closeData answer h =>
    obtain ⟨rfl, rfl⟩ := course_done h
    rfl

/-- A reply is read in one turn, and noted when it is complete. -/
theorem course_reply {ts : List Turn} {r : Except Failure Reply} (h : Course reply ts r) :
    ∃ queue, (read queue).outcome = r ∧
      ((∃ failure, r = .error failure ∧ ts = [.received .opening queue]) ∨
        ∃ a note, r = .ok a ∧ ts = [.received .opening queue, .noted note]) := by
  cases h with
  | receive queue h =>
    refine ⟨queue, ?_⟩
    unfold Reply.read
    cases hread : (Reader.opening.run queue).outcome with
    | error failure =>
      rw [hread] at h
      obtain ⟨rfl, rfl⟩ := course_done h
      exact ⟨rfl, .inl ⟨failure, rfl, rfl⟩⟩
    | ok a =>
      rw [hread] at h
      cases h with
      | note h =>
        obtain ⟨rfl, rfl⟩ := course_done h
        exact ⟨rfl, .inr ⟨a, _, rfl, rfl⟩⟩

/-! ## Commands -/

/-- A command that is one line is sent, and its reply is read; any other is not sent. -/
theorem course_command {line : String} {ts : List Turn} {r : Except Failure Reply}
    (h : Course (command line) ts r) :
    (hasLineBreak line = true ∧ ts = [] ∧ r = .error (.fault .lineBreak)) ∨
      hasLineBreak line = false ∧
        ((∃ note failure, r = .error failure ∧
            ts = [.noted note, .sent line (.error failure)]) ∨
          ∃ note us, Course reply us r ∧ ts = .noted note :: .sent line (.ok ()) :: us) := by
  unfold command at h
  split at h
  case isTrue hbreak =>
    obtain ⟨rfl, rfl⟩ := course_done h
    exact .inl ⟨hbreak, rfl, rfl⟩
  case isFalse hbreak =>
    refine .inr ⟨Bool.eq_false_iff.mpr hbreak, ?_⟩
    obtain ⟨_, us, vs, hsay, hrest, rfl⟩ | ⟨failure, hsay, -⟩ := course_bind h
    case inr => cases (course_say hsay).2
    obtain ⟨rfl, -⟩ := course_say hsay
    obtain ⟨_, us, ws, hsend, hreply, rfl⟩ | ⟨failure, hsend, hr⟩ := course_bind hrest
    · rw [course_sendLine hsend]
      exact .inr ⟨_, ws, hreply, rfl⟩
    · rw [course_sendLine hsend]
      exact .inl ⟨_, failure, hr, rfl⟩

/-- A command whose reply is expected to have a certain code comes to nothing more than the command,
and succeeds when the reply is as expected. -/
theorem course_expect {e : Expected} {line : String} {ts : List Turn} {r : Except Failure Unit}
    (h : Course (expect e line) ts r) :
    (∃ failure, Course (command line) ts (.error failure) ∧ r = .error failure) ∨
      ∃ a, Course (command line) ts (.ok a) ∧
        ((e.admits a.code = .ok true ∧ r = .ok ()) ∨
          e.admits a.code ≠ .ok true ∧ ∃ failure, r = .error failure) := by
  obtain ⟨a, us, vs, hcommand, hrest, rfl⟩ | ⟨failure, hcommand, hr⟩ := course_bind h
  case inr => exact .inl ⟨failure, hcommand, hr⟩
  refine .inr ⟨a, ?_⟩
  obtain ⟨admitted, ws, xs, hadmits, hend, rfl⟩ | ⟨failure, hadmits, hr⟩ := course_bind hrest
  · obtain ⟨rfl, hcode⟩ := course_done hadmits
    cases admitted with
    | true =>
      obtain ⟨rfl, rfl⟩ := course_done hend
      exact ⟨by simpa using hcommand, .inl ⟨hcode.symm, rfl⟩⟩
    | false =>
      obtain ⟨rfl, rfl⟩ := course_done hend
      exact ⟨by simpa using hcommand, .inr ⟨by rw [← hcode]; simp, _, rfl⟩⟩
  · obtain ⟨rfl, hcode⟩ := course_done hadmits
    exact ⟨by simpa using hcommand, .inr ⟨by rw [← hcode]; simp, failure, hr⟩⟩

/-! ## Listings -/

/-- Turns that only leave notes. -/
def Quiet (ts : List Turn) : Prop := ∀ t ∈ ts, ∃ text, t = .noted text

theorem Quiet.nil : Quiet [] := by simp [Quiet]

theorem Quiet.noted (text : String) : Quiet [.noted text] := by simp [Quiet]

/-- Data of which the failure is provided for comes to a value. -/
theorem course_collect {line : String} {ts : List Turn}
    {r : Except Failure (List String × Option Failure)} (h : Course (collect line) ts r) :
    ∃ answer us, Quiet us ∧ ts = .drained answer :: us ∧
      ((∀ failure, answer.2 = some failure →
        failure.isFault (fun f => f.isOutage || f.isInvalid) = true) → ∃ a, r = .ok a) := by
  obtain ⟨answer, us, vs, hdata, hrest, rfl⟩ | ⟨failure, hdata, -⟩ := course_bind h
  case inr =>
    obtain ⟨answer, hanswer, -⟩ := course_dataLines hdata
    cases hanswer
  obtain ⟨answer, hanswer, rfl⟩ := course_dataLines hdata
  cases hanswer
  refine ⟨answer, vs, ?_⟩
  obtain ⟨lines, failure?⟩ := answer
  cases failure? with
  | none =>
    obtain ⟨rfl, rfl⟩ := course_done hrest
    exact ⟨.nil, rfl, fun _ => ⟨_, rfl⟩⟩
  | some failure =>
    cases failure with
    | fault f =>
      dsimp only at hrest
      split at hrest
      case isTrue hclass =>
        obtain ⟨_, ws, xs, hsay, hend, rfl⟩ | ⟨failure, hsay, -⟩ := course_bind hrest
        case inr => cases (course_say hsay).2
        obtain ⟨rfl, -⟩ := course_say hsay
        obtain ⟨rfl, rfl⟩ := course_done hend
        exact ⟨.noted _, rfl, fun _ => ⟨_, rfl⟩⟩
      case isFalse hclass =>
        obtain ⟨rfl, -⟩ := course_done hrest
        exact ⟨.nil, rfl, fun hprovided => absurd (hprovided _ rfl) hclass⟩
    | _ =>
      obtain ⟨rfl, -⟩ := course_done hrest
      exact ⟨.nil, rfl, fun hprovided => absurd (hprovided _ rfl) Bool.false_ne_true⟩

/-- That the system fails to close a data channel is no failure. -/
theorem course_closeQuietly {ts : List Turn} {r : Except Failure Unit}
    (h : Course closeQuietly ts r) :
    ∃ answer us, Quiet us ∧ ts = .closed answer :: us ∧
      ((∀ failure, answer = .error failure → failure.isFault Fault.isSystem = true) →
        r = .ok ()) := by
  obtain ⟨answer, us, vs, hclose, hrest, rfl⟩ | ⟨failure, hclose, -⟩ := course_bind h
  case inr =>
    obtain ⟨result, hresult, -⟩ := course_attempt hclose
    cases hresult
  obtain ⟨result, hresult, hclose⟩ := course_attempt hclose
  cases hresult
  rw [course_closeChannel hclose]
  refine ⟨answer, vs, ?_⟩
  cases answer with
  | ok _ =>
    obtain ⟨rfl, rfl⟩ := course_done hrest
    exact ⟨.nil, rfl, fun _ => rfl⟩
  | error failure =>
    dsimp only at hrest
    split at hrest
    case isTrue hsystem =>
      obtain ⟨rfl, rfl⟩ := course_say hrest
      exact ⟨.noted _, rfl, fun _ => rfl⟩
    case isFalse hsystem =>
      obtain ⟨rfl, -⟩ := course_done hrest
      exact ⟨.nil, rfl, fun hprovided => absurd (hprovided failure rfl) hsystem⟩

/-- A command with a data channel ends when the channel is not opened, or when the channel is closed
after the command failed, or with the reading of its last reply. -/
theorem course_dataCommand {line : String} {ts : List Turn} {r : Except Failure (List String)}
    (h : Course (dataCommand line) ts r) :
    (∃ refusal failure, ts = [.opened refusal (.error failure)] ∧ r = .error failure) ∨
      ∃ us vs outcome closing,
        Course (expect (.category .positivePreliminary) line >>= fun _ => collect line) us outcome ∧
        Course closeQuietly vs closing ∧
        ((((∃ failure, closing = .error failure) ∨ ∃ failure, outcome = .error failure) ∧
            (∃ failure, r = .error failure) ∧ ts = .opened none (.ok ()) :: (us ++ vs)) ∨
          ((∃ a, outcome = .ok a) ∧ closing = .ok () ∧
            ∃ ws xs last, Course reply ws last ∧ Quiet xs ∧
              ((∃ failure, last = .error failure) → ∃ failure, r = .error failure) ∧
              ts = .opened none (.ok ()) :: (us ++ (vs ++ (ws ++ xs))))) := by
  obtain ⟨_, os, ts₁, hopen, hopened, rfl⟩ | ⟨failure, hopen, hr⟩ := course_bind h
  case inr =>
    obtain ⟨refusal, -, rfl⟩ := course_openChannel hopen
    exact .inl ⟨refusal, failure, rfl, hr⟩
  refine .inr ?_
  obtain ⟨refusal, hrefused, rfl⟩ := course_openChannel hopen
  have hnone : refusal = none := by
    cases refusal with
    | none => rfl
    | some failure => exact absurd rfl (hrefused rfl)
  subst hnone
  obtain ⟨outcome, us, ts₂, hattempt, hattempted, rfl⟩ | ⟨failure, hattempt, -⟩ :=
    course_bind hopened
  case inr =>
    obtain ⟨result, hresult, -⟩ := course_attempt hattempt
    cases hresult
  obtain ⟨result, hresult, htransfer⟩ := course_attempt hattempt
  cases hresult
  obtain ⟨_, vs, ts₃, hclose, hclosed, rfl⟩ | ⟨failure, hclose, hr⟩ := course_bind hattempted
  case inr =>
    exact ⟨us, _, outcome, _, htransfer, hclose, .inl ⟨.inl ⟨failure, rfl⟩, ⟨failure, hr⟩, rfl⟩⟩
  refine ⟨us, vs, outcome, _, htransfer, hclose, ?_⟩
  obtain ⟨a, os, ts₄, hdone, htold, rfl⟩ | ⟨failure, hdone, hr⟩ := course_bind hclosed
  case inr =>
    obtain ⟨rfl, houtcome⟩ := course_done hdone
    exact .inl ⟨.inr ⟨failure, houtcome.symm⟩, ⟨failure, hr⟩, by simp⟩
  obtain ⟨rfl, houtcome⟩ := course_done hdone
  refine .inr ⟨⟨a, houtcome.symm⟩, rfl, ?_⟩
  obtain ⟨lines, broken?⟩ := a
  obtain ⟨b, ws, xs, hreply, hend, rfl⟩ | ⟨failure, hreply, hr⟩ := course_bind htold
  case inr => exact ⟨_, [], _, hreply, .nil, fun _ => ⟨failure, hr⟩, by simp⟩
  refine ⟨ws, xs, _, hreply, ?_, by simp, by simp⟩
  split at hend
  case isTrue =>
    obtain ⟨_, ys, zs, hsay, hwrong, rfl⟩ | ⟨failure, hsay, -⟩ := course_bind hend
    case inr => cases (course_say hsay).2
    obtain ⟨rfl, -⟩ := course_say hsay
    obtain ⟨rfl, -⟩ := course_done hwrong
    exact .noted _
  case isFalse =>
    cases broken? with
    | none =>
      obtain ⟨rfl, -⟩ := course_done hend
      exact .nil
    | some failure =>
      obtain ⟨rfl, -⟩ := course_done hend
      exact .nil

end Dialogue
end FileTransfer
