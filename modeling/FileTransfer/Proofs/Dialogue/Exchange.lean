import FileTransfer.Session.Connection
import FileTransfer.Proofs.Dialogue.Course
import FileTransfer.Proofs.Reply.Framing

/-!
# Exchanges

A command and the replies that belong to it. As long as nothing breaks the connection, what passes
on its control channel falls into complete exchanges.

* `Control`, `Turn.control`: what passes on the control channel in one turn.
* `Exchange`, `Exchange.Complete`: a command with all its replies; a listing that the server begins
  to send has two of them, every other command has one.
* `Turn.breaks`, `Turn.Spoils`: the turns that leave an exchange half done, as the connection tells
  them and as they happen; `breaks_iff_spoils`.
* `Settled`: a control channel that owes no reply.
* `settles_operation`: in every course of an operation that breaks nothing, the control channel is
  settled at the end.
-/

namespace FileTransfer
open FileTransfer.Reply FileTransfer.Session
set_option autoImplicit false

/-! ## The control channel -/

/-- What passes on a control channel. -/
inductive Control where
  | sent (line : String)
  | got (line : String)
  deriving DecidableEq, Repr

namespace Turn

/-- What passes on the control channel in a turn: a failure to read takes no line off it. -/
def control : Turn → List Control
  | .sent line _ => [.sent line]
  | .received reader queue => (reader.run queue).seen.filterMap fun i => i.toOption.map .got
  | _ => []

/-- Whether a turn of a session leaves an exchange half done. -/
def breaks : Turn → Bool
  | .sent _ (.error failure) => breaksSending failure
  | .received reader queue =>
    match (reader.run queue).outcome with
    | .ok _ => false
    | .error failure => breaksExchange failure
  | .opened refusal _ => refusal.any (·.isFault Fault.isOutage)
  | _ => false

/-- What spoils an exchange: sending a line fails, or reading one; the line that should open a reply
does not; or the channel is gone when the server is asked for a data channel. -/
def Spoils : Turn → Prop
  | .sent _ answer => ∃ failure, answer = .error failure
  | .received reader queue =>
    (∃ failure, .error failure ∈ (reader.run queue).seen) ∨
      reader = .opening ∧ ∃ line, (reader.run queue).seen.head? = some (.ok line) ∧
        OpeningLine.read? line.toList = none
  | .opened refusal _ => ∃ failure, refusal = some failure ∧ failure.isFault Fault.isOutage = true
  | _ => False

/-- The answers of a turn fail in the classes that are provided for: a line to send with the channel,
a line to read with the channel or the session, the data with the channel or by their form, and the
end of the data with the system. -/
def Orderly : Turn → Prop
  | .sent _ answer => ∀ failure, answer = .error failure → failure.isFault Fault.isOutage = true
  | .received _ queue =>
    ∀ failure, .error failure ∈ queue → failure.isFault (fun f => f.isOutage || f.isSession) = true
  | .drained answer =>
    ∀ failure, answer.2 = some failure → failure.isFault (fun f => f.isOutage || f.isInvalid) = true
  | .closed answer => ∀ failure, answer = .error failure → failure.isFault Fault.isSystem = true
  | _ => True

end Turn

/-- A reply that fails in an orderly way leaves an exchange half done. -/
theorem breaks_received {queue : List Incoming} {reader : Reader} {failure : Failure}
    (ho : (Turn.received reader queue).Orderly)
    (hfail : (reader.run queue).outcome = .error failure) :
    (Turn.received reader queue).breaks = true := by
  have hclass : breaksExchange failure = true := by
    rcases run_error_cases hfail with hseen | ⟨-, line, -, rfl, -⟩
    · rcases mem_of_mem_seen hseen with hqueue | rfl
      · have hfault := ho failure hqueue
        cases failure <;> simp_all [Failure.isFault, breaksExchange]
      · rfl
    · rfl
  rw [Turn.breaks, hfail]
  exact hclass

/-- As long as failures are of the classes provided for, a turn leaves an exchange half done exactly
when something spoils it. -/
theorem breaks_iff_spoils {t : Turn} (ho : t.Orderly) : t.breaks = true ↔ t.Spoils := by
  cases t with
  | sent line answer =>
    cases answer with
    | ok _ => simp [Turn.breaks, Turn.Spoils]
    | error failure => exact ⟨fun _ => ⟨failure, rfl⟩, fun _ => ho failure rfl⟩
  | received reader queue =>
    constructor
    · intro hbreaks
      cases hrun : (reader.run queue).outcome with
      | ok r => simp [Turn.breaks, hrun] at hbreaks
      | error failure =>
        rcases run_error_cases hrun with hseen | ⟨hopening, line, hnone, -, hseen⟩
        · exact .inl ⟨failure, hseen⟩
        · exact .inr ⟨hopening, line, by rw [hseen]; rfl, hnone⟩
    · rintro (⟨failure, hseen⟩ | ⟨rfl, line, hseen, hnone⟩)
      · exact breaks_received ho (outcome_of_mem_seen hseen)
      · obtain ⟨failure, hread⟩ := outcome_of_unreadable hseen hnone
        exact breaks_received ho hread
  | opened refusal answer => cases refusal <;> simp [Turn.breaks, Turn.Spoils]
  | drained answer => simp [Turn.breaks, Turn.Spoils]
  | closed answer => simp [Turn.breaks, Turn.Spoils]
  | noted text => simp [Turn.breaks, Turn.Spoils]

theorem control_received {queue : List Incoming} {a : Reply} (h : (read queue).outcome = .ok a) :
    (∃ f : Frame, f.WellFormed ∧ f.reply = a) ∧
      (Turn.received .opening queue).control = a.lines.map .got := by
  obtain ⟨f, hf, rfl, hseen, -⟩ := exists_frame_of_read h
  refine ⟨⟨f, hf, rfl⟩, ?_⟩
  have hlines : f.reply.lines = f.lines := rfl
  rw [Turn.control, show Reader.opening.run queue = read queue from rfl, hseen, hlines]
  simp [List.filterMap_map, Except.toOption]

/-! ## Exchanges -/

/-- A command line and the replies that were read for it. -/
structure Exchange where
  line : String
  replies : List Reply

namespace Exchange

/-- A listing that the server begins to send. -/
def listing (x : Exchange) : Bool :=
  "MLSD ".toList.isPrefixOf x.line.toList &&
    x.replies.head?.any fun r => Category.positivePreliminary.covers r.code

def events (x : Exchange) : List Control :=
  .sent x.line :: x.replies.flatMap fun r => r.lines.map .got

/-- An exchange whose replies are whole, and all there are. -/
structure Complete (x : Exchange) : Prop where
  whole : ∀ r ∈ x.replies, ∃ f : Frame, f.WellFormed ∧ f.reply = r
  count : x.replies.length = if x.listing then 2 else 1

end Exchange

/-- A control channel on which complete exchanges passed, one after the other. -/
def Settled (cs : List Control) : Prop :=
  ∃ xs : List Exchange, (∀ x ∈ xs, x.Complete) ∧ cs = xs.flatMap Exchange.events

theorem Settled.nil : Settled [] := ⟨[], by simp, rfl⟩

theorem Settled.append {cs ds : List Control} (hc : Settled cs) (hd : Settled ds) :
    Settled (cs ++ ds) := by
  obtain ⟨xs, hxs, rfl⟩ := hc
  obtain ⟨ys, hys, rfl⟩ := hd
  refine ⟨xs ++ ys, ?_, by rw [List.flatMap_append]⟩
  intro x hx
  exact (List.mem_append.mp hx).elim (hxs x) (hys x)

theorem Settled.single {x : Exchange} (h : x.Complete) : Settled x.events :=
  ⟨[x], by simpa using h, by simp⟩

/-! ## Dialogues that settle -/

namespace Dialogue
variable {α β : Type}

theorem Quiet.control {ts : List Turn} (h : Quiet ts) : ts.flatMap Turn.control = [] := by
  rw [List.flatMap_eq_nil_iff]
  intro t ht
  obtain ⟨text, rfl⟩ := h t ht
  rfl

/-- In every course that breaks nothing, the control channel is settled at the end. -/
def Settles (d : Dialogue α) : Prop :=
  ∀ ts r, Course d ts r → (∀ t ∈ ts, t.Orderly) →
    (∃ t ∈ ts, t.breaks = true) ∨ Settled (ts.flatMap Turn.control)

theorem Settles.done (result : Except Failure α) : Settles (.done result) := by
  intro ts r h _
  obtain ⟨rfl, -⟩ := course_done h
  exact .inr .nil

theorem Settles.say (text : String) : Settles (say text) := by
  intro ts r h _
  obtain ⟨rfl, -⟩ := course_say h
  exact .inr .nil

theorem Settles.bind {d : Dialogue α} {f : α → Dialogue β} (hd : Settles d)
    (hf : ∀ a, Settles (f a)) : Settles (d >>= f) := by
  intro ts r h ho
  obtain ⟨a, us, vs, hdc, hfc, rfl⟩ | ⟨failure, hdc, -⟩ := course_bind h
  case inr => exact hd ts _ hdc ho
  obtain ⟨t, ht, hbreaks⟩ | hus := hd us _ hdc (fun t ht => ho t (List.mem_append_left vs ht))
  · exact .inl ⟨t, List.mem_append_left vs ht, hbreaks⟩
  obtain ⟨t, ht, hbreaks⟩ | hvs := hf a vs _ hfc (fun t ht => ho t (List.mem_append_right us ht))
  · exact .inl ⟨t, List.mem_append_right us ht, hbreaks⟩
  · exact .inr (by rw [List.flatMap_append]; exact hus.append hvs)

/-- A command either breaks the connection, or is not sent, or gets one whole reply. -/
theorem control_command {line : String} {ts : List Turn} {r : Except Failure Reply}
    (h : Course (command line) ts r) (ho : ∀ t ∈ ts, t.Orderly) :
    (∃ t ∈ ts, t.breaks = true) ∨
      ((∃ failure, r = .error failure) ∧ ts.flatMap Turn.control = []) ∨
        ∃ a, r = .ok a ∧ (∃ f : Frame, f.WellFormed ∧ f.reply = a) ∧
          ts.flatMap Turn.control = .sent line :: a.lines.map .got := by
  rcases course_command h with ⟨-, rfl, rfl⟩ | ⟨-, ⟨note, failure, rfl, rfl⟩ | ⟨note, us, hreply, rfl⟩⟩
  · exact .inr (.inl ⟨⟨_, rfl⟩, rfl⟩)
  · have hsent := ho (.sent line (.error failure)) (by simp)
    exact .inl ⟨.sent line (.error failure), by simp, hsent failure rfl⟩
  · obtain ⟨queue, hread, ⟨failure, rfl, rfl⟩ | ⟨a, note', rfl, rfl⟩⟩ := course_reply hreply
    · exact .inl ⟨.received .opening queue, by simp, breaks_received (ho _ (by simp)) hread⟩
    · obtain ⟨hframe, hcontrol⟩ := control_received hread
      refine .inr (.inr ⟨a, rfl, hframe, ?_⟩)
      simp [List.flatMap_cons, hcontrol, show (Turn.noted note).control = [] from rfl,
        show (Turn.noted note').control = [] from rfl,
        show (Turn.sent line (.ok ())).control = [.sent line] from rfl]

theorem settles_command {line : String} (hline : "MLSD ".toList.isPrefixOf line.toList = false) :
    Settles (command line) := by
  intro ts r h ho
  obtain hbreaks | ⟨-, hnone⟩ | ⟨a, -, hframe, hcontrol⟩ := control_command h ho
  · exact .inl hbreaks
  · exact .inr (by rw [hnone]; exact .nil)
  · refine .inr ?_
    have hplain : (Exchange.mk line [a]).listing = false := by rw [Exchange.listing, hline]; rfl
    have hcomplete : (Exchange.mk line [a]).Complete := ⟨by simpa using hframe, by simp [hplain]⟩
    rw [hcontrol]
    simpa [Exchange.events] using Settled.single hcomplete

theorem settles_expect {line : String} (e : Expected)
    (hline : "MLSD ".toList.isPrefixOf line.toList = false) : Settles (expect e line) := by
  intro ts r h ho
  obtain ⟨failure, hcommand, -⟩ | ⟨a, hcommand, -⟩ := course_expect h
  · exact settles_command hline ts _ hcommand ho
  · exact settles_command hline ts _ hcommand ho

theorem settles_pathCommand {line : String}
    (hline : "MLSD ".toList.isPrefixOf line.toList = false) : Settles (pathCommand line) := by
  refine .bind (settles_command hline) fun a => ?_
  split
  · exact .bind (.done _) fun _ => .done _
  · exact .done _

theorem settles_replyCommand {line : String}
    (hline : "MLSD ".toList.isPrefixOf line.toList = false) : Settles (replyCommand line) := by
  refine .bind (settles_command hline) fun a => ?_
  split
  · exact .done _
  · exact .bind (.say _) fun _ => .done _

/-! ## Listings -/

theorem digit_eq_iff (c d : Category) : c.digit = d.digit ↔ c = d := by
  cases c <;> cases d <;> decide

/-- Every number from 100 to 599 has the category of its first digit. -/
theorem exists_category {code : Nat} (hlo : 100 ≤ code) (hhi : code ≤ 599) :
    ∃ c, Category.ofCode? code = some c ∧ code / 100 = c.digit := by
  have hcode : (100 : Int) ≤ code ∧ (code : Int) ≤ 599 := by omega
  have hdigit : code / 100 = 1 ∨ code / 100 = 2 ∨ code / 100 = 3 ∨ code / 100 = 4 ∨
      code / 100 = 5 := by omega
  have hwhole : (code : Int) / 100 = (code / 100 : Nat) := by omega
  rw [Category.ofCode?, if_pos hcode, hwhole]
  rcases hdigit with h | h | h | h | h <;> rw [h] <;> exact ⟨_, rfl, rfl⟩

/-- A reply whose code is one is admitted by the category that covers it. -/
theorem admits_category (c : Category) {code : Nat} (hlo : 100 ≤ code) (hhi : code ≤ 599) :
    (Expected.category c).admits code = .ok (c.covers code) := by
  obtain ⟨d, hd, hdigit⟩ := exists_category hlo hhi
  have hwhole : (code : Int) / 100 = d.digit := by omega
  rw [Expected.admits, hd, Category.covers, hwhole]
  simp only [Int.natCast_inj, digit_eq_iff]

theorem admits_category_iff (c : Category) {code : Nat} (hlo : 100 ≤ code) (hhi : code ≤ 599) :
    (Expected.category c).admits code = .ok true ↔ c.covers code = true := by
  rw [admits_category c hlo hhi, Except.ok.injEq]

/-- The first reply to a command with a data channel, and the data. -/
theorem control_transfer {line : String} {us : List Turn}
    {outcome : Except Failure (List String × Option Failure)}
    (h : Course (expect (.category .positivePreliminary) line >>= fun _ => collect line) us outcome)
    (ho : ∀ t ∈ us, t.Orderly) :
    (∃ t ∈ us, t.breaks = true) ∨
      ((∃ failure, outcome = .error failure) ∧ us.flatMap Turn.control = []) ∨
        ∃ a : Reply, (∃ f : Frame, f.WellFormed ∧ f.reply = a) ∧
          us.flatMap Turn.control = .sent line :: a.lines.map .got ∧
          ((∃ failure, outcome = .error failure) ∧
              Category.positivePreliminary.covers a.code = false ∨
            (∃ b, outcome = .ok b) ∧ Category.positivePreliminary.covers a.code = true) := by
  obtain ⟨_, vs, ws, hexpect, hcollect, rfl⟩ | ⟨failure, hexpect, hr⟩ := course_bind h
  · obtain ⟨answer, xs, hquiet, rfl, hprovided⟩ := course_collect hcollect
    obtain ⟨failure, -, hr⟩ | ⟨a, hcommand, ⟨hadmits, -⟩ | ⟨-, failure, hr⟩⟩ := course_expect hexpect
    case inl => cases hr
    case inr.inr => cases hr
    obtain ⟨t, ht, hbreaks⟩ | ⟨⟨failure, hr⟩, -⟩ | ⟨b, hb, hframe, hcontrol⟩ :=
      control_command hcommand fun t ht => ho t (List.mem_append_left _ ht)
    · exact .inl ⟨t, List.mem_append_left _ ht, hbreaks⟩
    · cases hr
    · cases hb
      obtain ⟨f, hf, rfl⟩ := hframe
      have hcovers := (admits_category_iff _ hf.lower hf.upper).mp hadmits
      have hdata := hprovided (ho (.drained answer) (by simp))
      refine .inr (.inr ⟨_, ⟨f, hf, rfl⟩, ?_, .inr ⟨hdata, hcovers⟩⟩)
      rw [List.flatMap_append, hcontrol, List.flatMap_cons, hquiet.control]
      simp [Turn.control]
  · obtain ⟨failure', hcommand, -⟩ | ⟨a, hcommand, ⟨-, hok⟩ | ⟨hadmits, -⟩⟩ := course_expect hexpect
    · obtain hbreaks | ⟨-, hnone⟩ | ⟨b, hb, -⟩ := control_command hcommand ho
      · exact .inl hbreaks
      · exact .inr (.inl ⟨⟨failure, hr⟩, hnone⟩)
      · cases hb
    · cases hok
    · obtain hbreaks | ⟨⟨failure', hb⟩, -⟩ | ⟨b, hb, hframe, hcontrol⟩ := control_command hcommand ho
      · exact .inl hbreaks
      · cases hb
      · cases hb
        obtain ⟨f, hf, rfl⟩ := hframe
        have hother := mt (admits_category_iff _ hf.lower hf.upper).mpr hadmits
        exact .inr (.inr ⟨_, ⟨f, hf, rfl⟩, hcontrol,
          .inl ⟨⟨failure, hr⟩, Bool.eq_false_iff.mpr hother⟩⟩)

theorem settles_dataCommand {line : String}
    (hline : "MLSD ".toList.isPrefixOf line.toList = true) : Settles (dataCommand line) := by
  intro ts r h ho
  obtain ⟨refusal, failure, rfl, -⟩ |
    ⟨us, vs, outcome, closing, htransfer, hclose, hend⟩ := course_dataCommand h
  · exact .inr .nil
  obtain ⟨answer, xs, hquiet, rfl, hclosing⟩ := course_closeQuietly hclose
  have hmem : ∀ t ∈ us ++ .closed answer :: xs, t ∈ ts := by
    intro t ht
    rcases hend with ⟨-, -, rfl⟩ | ⟨-, -, ws, zs, last, -, -, -, rfl⟩
    · exact List.mem_cons_of_mem _ ht
    · rw [← List.append_assoc]
      exact List.mem_cons_of_mem _ (List.mem_append_left _ ht)
  have hus : ∀ t ∈ us, t ∈ ts := fun t ht => hmem t (List.mem_append_left _ ht)
  have hclosed := hclosing (ho _ (hmem (.closed answer) (by simp)))
  have hvs : (Turn.closed answer :: xs).flatMap Turn.control = [] := by
    rw [List.flatMap_cons, hquiet.control]
    rfl
  obtain ⟨t, ht, hbreaks⟩ | ⟨⟨failure, hfailed⟩, hnone⟩ | ⟨a, hframe, hcontrol, hcovers⟩ :=
    control_transfer htransfer fun t ht => ho t (hus t ht)
  · exact .inl ⟨t, hus t ht, hbreaks⟩
  · rcases hend with ⟨-, -, rfl⟩ | ⟨⟨b, hb⟩, -⟩
    · refine .inr ?_
      rw [List.flatMap_cons, List.flatMap_append, hnone, hvs]
      exact .nil
    · rw [hfailed] at hb
      cases hb
  rcases hend with ⟨hfailed, -, rfl⟩ | ⟨⟨b, hb⟩, -, ws, zs, last, hreply, hzs, -, rfl⟩
  -- The server did not begin to send: its reply is the only one.
  · rcases hcovers with ⟨-, hcovers⟩ | ⟨⟨b, hb⟩, -⟩
    case inr =>
      rcases hfailed with ⟨failure, hfailed⟩ | ⟨failure, hfailed⟩
      · rw [hclosed] at hfailed
        cases hfailed
      · rw [hb] at hfailed
        cases hfailed
    have hplain : (Exchange.mk line [a]).listing = false := by
      simp [Exchange.listing, hcovers]
    have hcomplete : (Exchange.mk line [a]).Complete := ⟨by simpa using hframe, by simp [hplain]⟩
    refine .inr ?_
    rw [List.flatMap_cons, List.flatMap_append, hcontrol, hvs]
    simpa [Exchange.events, Turn.control] using Settled.single hcomplete
  -- The server began to send: its last reply is read whatever became of the data.
  · rcases hcovers with ⟨⟨failure, hfailed⟩, -⟩ | ⟨-, hcovers⟩
    case inl =>
      rw [hb] at hfailed
      cases hfailed
    obtain ⟨queue, hread, ⟨failure, rfl, rfl⟩ | ⟨c, note, rfl, rfl⟩⟩ := course_reply hreply
    · have hbreaks := breaks_received (ho (.received .opening queue) (by simp)) hread
      exact .inl ⟨.received .opening queue, by simp, hbreaks⟩
    obtain ⟨hlast, hcontrol'⟩ := control_received hread
    have hlisting : (Exchange.mk line [a, c]).listing = true := by
      rw [Exchange.listing, hline]
      simpa using hcovers
    have hcomplete : (Exchange.mk line [a, c]).Complete := by
      refine ⟨?_, by simp [hlisting]⟩
      rintro r hr
      rcases List.mem_cons.mp hr with rfl | hr
      · exact hframe
      · rw [List.mem_singleton.mp hr]
        exact hlast
    refine .inr ?_
    rw [List.flatMap_cons, List.flatMap_append, List.flatMap_append, List.flatMap_append, hcontrol,
      hvs, hzs.control, List.flatMap_cons, hcontrol']
    simpa [Exchange.events, Turn.control] using Settled.single hcomplete

/-! ## Operations -/

theorem Settles.map {d : Dialogue α} (hd : Settles d) (f : α → β) : Settles (f <$> d) :=
  hd.bind fun _ => .done _

/-- Every operation, whatever the answers, breaks the connection or leaves it settled. -/
theorem settles_operation (op : Operation) : Settles op.dialogue := by
  cases op with
  | delete path =>
    exact .bind (settles_expect _ (by simp [List.isPrefixOf])) fun _ => .done _
  | rename source target =>
    refine .bind (settles_expect _ (by simp [List.isPrefixOf])) fun _ => ?_
    exact .bind (settles_expect _ (by simp [List.isPrefixOf])) fun _ => .done _
  | makeDirectory path => exact settles_pathCommand (by simp [List.isPrefixOf])
  | removeDirectory path =>
    exact .bind (settles_expect _ (by simp [List.isPrefixOf])) fun _ => .done _
  | workingDirectory => exact settles_pathCommand (by decide)
  | readDirectory path => exact (settles_dataCommand (by simp [List.isPrefixOf])).map Told.listing
  | status path => exact (settles_replyCommand (by simp [List.isPrefixOf])).map Told.about

end Dialogue
end FileTransfer
