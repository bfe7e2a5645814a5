import FileTransfer.Proofs.Dialogue.Exchange

/-!
# The first failure is the last

An operation goes no further once it failed to send a line, to read a reply, or to get a data
channel: of all its turns at most one fails in such a way, and then the operation does.

* `Turn.fails`: a turn that fails so.
* `Dialogue.StopsOnFailure`: a dialogue that goes no further, and `stops_operation`.
* `Turn.FailsWith`, `Turn.marks`: how a reply is not obtained, and whether the connection is broken
  then; `breaks_iff_marks`.
-/

namespace FileTransfer
open FileTransfer.Reply FileTransfer.Session
set_option autoImplicit false

namespace Turn

/-- Whether a line is not sent, a reply not read, or the server does not give a data channel. -/
def fails : Turn → Bool
  | .sent _ (.error _) => true
  | .received reader queue =>
    match (reader.run queue).outcome with
    | .ok _ => false
    | .error _ => true
  | .opened (some _) _ => true
  | _ => false

def failures (ts : List Turn) : Nat := ts.countP Turn.fails

theorem failures_append (ts us : List Turn) : failures (ts ++ us) = failures ts + failures us :=
  List.countP_append

theorem fails_of_breaks {t : Turn} (h : t.breaks = true) : t.fails = true := by
  cases t with
  | sent line answer => cases answer <;> simp_all [breaks, fails]
  | received reader queue =>
    unfold breaks at h
    unfold fails
    cases hrun : (reader.run queue).outcome <;> simp_all
  | opened refusal answer => cases refusal <;> simp_all [breaks, fails]
  | _ => simp [breaks] at h

end Turn

namespace Dialogue
variable {α β : Type}

theorem Quiet.failures {ts : List Turn} (h : Quiet ts) : Turn.failures ts = 0 := by
  refine List.countP_eq_zero.mpr fun t ht => ?_
  obtain ⟨text, rfl⟩ := h t ht
  exact Bool.false_ne_true

/-- A dialogue of which at most one turn fails, and none when it comes to a value. -/
def StopsOnFailure (d : Dialogue α) : Prop :=
  ∀ ts r, Course d ts r → Turn.failures ts ≤ 1 ∧ ((∃ a, r = .ok a) → Turn.failures ts = 0)

theorem StopsOnFailure.of_failures {d : Dialogue α}
    (h : ∀ ts r, Course d ts r → Turn.failures ts = 0) : StopsOnFailure d :=
  fun ts r hcourse => ⟨by rw [h ts r hcourse]; omega, fun _ => h ts r hcourse⟩

theorem StopsOnFailure.done (result : Except Failure α) : StopsOnFailure (.done result) :=
  .of_failures fun ts r h => by rw [(course_done h).1]; rfl

theorem StopsOnFailure.say (text : String) : StopsOnFailure (say text) :=
  .of_failures fun ts r h => by rw [(course_say h).1]; rfl

theorem StopsOnFailure.bind {d : Dialogue α} {f : α → Dialogue β} (hd : StopsOnFailure d)
    (hf : ∀ a, StopsOnFailure (f a)) : StopsOnFailure (d >>= f) := by
  intro ts r h
  obtain ⟨a, us, vs, hdc, hfc, rfl⟩ | ⟨failure, hdc, rfl⟩ := course_bind h
  · have hnone := (hd us _ hdc).2 ⟨a, rfl⟩
    obtain ⟨hle, hzero⟩ := hf a vs r hfc
    rw [Turn.failures_append, hnone, Nat.zero_add]
    exact ⟨hle, hzero⟩
  · refine ⟨(hd ts _ hdc).1, ?_⟩
    rintro ⟨a, ha⟩
    cases ha

theorem stops_reply : StopsOnFailure reply := by
  intro ts r h
  obtain ⟨queue, hread, ⟨failure, rfl, rfl⟩ | ⟨a, note, rfl, rfl⟩⟩ := course_reply h
  · refine ⟨List.countP_le_length, ?_⟩
    rintro ⟨a, ha⟩
    cases ha
  · have hnone : Turn.failures [.received .opening queue, .noted note] = 0 := by
      have hrun : (Reader.opening.run queue).outcome = .ok a := hread
      simp [Turn.failures, Turn.fails, hrun]
    exact ⟨by rw [hnone]; omega, fun _ => hnone⟩

theorem stops_command (line : String) : StopsOnFailure (command line) := by
  intro ts r h
  rcases course_command h with ⟨-, rfl, rfl⟩ | ⟨-, ⟨note, failure, rfl, rfl⟩ | ⟨note, us, hreply, rfl⟩⟩
  · exact ⟨Nat.zero_le _, fun _ => rfl⟩
  · refine ⟨by simp [Turn.failures, Turn.fails], ?_⟩
    rintro ⟨a, ha⟩
    cases ha
  · exact stops_reply us r hreply

theorem stops_expect (e : Expected) (line : String) : StopsOnFailure (expect e line) := by
  refine (stops_command line).bind fun a => ?_
  refine (StopsOnFailure.done _).bind fun admitted => ?_
  split
  · exact .done _
  · exact .done _

theorem stops_pathCommand (line : String) : StopsOnFailure (pathCommand line) := by
  refine (stops_command line).bind fun a => ?_
  split
  · exact .bind (.done _) fun _ => .done _
  · exact .done _

theorem stops_replyCommand (line : String) : StopsOnFailure (replyCommand line) := by
  refine (stops_command line).bind fun a => ?_
  split
  · exact .done _
  · exact .bind (.say _) fun _ => .done _

theorem stops_collect (line : String) : StopsOnFailure (collect line) :=
  .of_failures fun ts r h => by
    obtain ⟨answer, us, hquiet, rfl, -⟩ := course_collect h
    exact hquiet.failures

theorem stops_dataCommand (line : String) : StopsOnFailure (dataCommand line) := by
  intro ts r h
  obtain ⟨refusal, failure, rfl, rfl⟩ |
    ⟨us, vs, outcome, closing, htransfer, hclose, hend⟩ := course_dataCommand h
  · refine ⟨List.countP_le_length, ?_⟩
    rintro ⟨a, ha⟩
    cases ha
  obtain ⟨answer, xs, hquiet, rfl, -⟩ := course_closeQuietly hclose
  have hvs : Turn.failures (.closed answer :: xs) = 0 := hquiet.failures
  have hus := (stops_expect _ line).bind (fun _ => stops_collect line) us outcome htransfer
  have hopened : ∀ ts, Turn.failures (.opened none (.ok ()) :: ts) = Turn.failures ts := fun _ => rfl
  -- A failure on the way ends the command; without one, only its last reply may still fail.
  rcases hend with ⟨-, ⟨failure, rfl⟩, rfl⟩ | ⟨hok, -, ws, zs, last, hreply, hzs, hfailed, rfl⟩
  · rw [hopened, Turn.failures_append, hvs, Nat.add_zero]
    refine ⟨hus.1, ?_⟩
    rintro ⟨a, ha⟩
    cases ha
  · have hws := stops_reply ws last hreply
    rw [hopened, Turn.failures_append, Turn.failures_append, Turn.failures_append, hus.2 hok, hvs,
      hzs.failures, Nat.zero_add, Nat.zero_add, Nat.add_zero]
    refine ⟨hws.1, fun ⟨a, ha⟩ => hws.2 ?_⟩
    cases last with
    | ok b => exact ⟨b, rfl⟩
    | error failure =>
      obtain ⟨failure', hr⟩ := hfailed ⟨failure, rfl⟩
      rw [ha] at hr
      cases hr

theorem stops_operation (op : Operation) : StopsOnFailure op.dialogue := by
  cases op with
  | delete path => exact (stops_expect _ _).bind fun _ => .done _
  | rename source target =>
    exact (stops_expect _ _).bind fun _ => (stops_expect _ _).bind fun _ => .done _
  | makeDirectory path => exact stops_pathCommand _
  | removeDirectory path => exact (stops_expect _ _).bind fun _ => .done _
  | workingDirectory => exact stops_pathCommand _
  | readDirectory path => exact (stops_dataCommand _).bind fun _ => .done _
  | status path => exact (stops_replyCommand _).bind fun _ => .done _

end Dialogue

/-! ## Replies that are not obtained -/

namespace Turn

/-- A reply is not obtained in a turn: reading one of its lines fails, or the server is asked for a
data channel and that fails in a way that stands for no complete reply. -/
def FailsWith (t : Turn) (f : Fault) : Prop :=
  match t with
  | .received reader queue => .error (.fault f) ∈ (reader.run queue).seen
  | .opened refusal _ => refusal = some (.fault f) ∧ f.isRefusal = false
  | _ => False

/-- Whether the connection is broken when a reply is not obtained so: when the channel is gone, and
when the session failed to read a line. -/
def marks (t : Turn) (f : Fault) : Bool :=
  match t with
  | .received _ _ => f.isOutage || f.isSession
  | .opened _ _ => f.isOutage
  | _ => false

theorem fails_of_failsWith {t : Turn} {f : Fault} (h : t.FailsWith f) : t.fails = true := by
  cases t with
  | received reader queue => rw [fails, outcome_of_mem_seen h]
  | opened refusal answer =>
    rw [h.1]
    rfl
  | _ => exact h.elim

theorem breaks_of_failsWith {t : Turn} {f : Fault} (h : t.FailsWith f) : t.breaks = t.marks f := by
  cases t with
  | received reader queue => rw [breaks, outcome_of_mem_seen h]; rfl
  | opened refusal answer =>
    rw [h.1]
    rfl
  | _ => exact h.elim

end Turn

/-- Of a list at most one element of which fails, a failing element alone decides what any of the
failing elements does. -/
theorem any_breaks_of_failures {ts : List Turn} {t : Turn} (h : Turn.failures ts ≤ 1) (ht : t ∈ ts)
    (hfails : t.fails = true) : ts.any Turn.breaks = t.breaks := by
  induction ts with
  | nil => cases ht
  | cons u ts ih =>
    have hcount : Turn.failures (u :: ts) = Turn.failures ts + if u.fails then 1 else 0 :=
      List.countP_cons
    rw [List.any_cons]
    rcases List.mem_cons.mp ht with rfl | ht
    · have hnone : Turn.failures ts = 0 := by
        rw [if_pos hfails] at hcount
        omega
      have hquiet : ts.any Turn.breaks = false := by
        rw [List.any_eq_false]
        intro v hv hbreaks
        exact List.countP_eq_zero.mp hnone v hv (Turn.fails_of_breaks hbreaks)
      rw [hquiet, Bool.or_false]
    · have hsome : 0 < Turn.failures ts := List.countP_pos_iff.mpr ⟨t, ht, hfails⟩
      have hsound : u.breaks = false := by
        rw [Bool.eq_false_iff]
        intro hbreaks
        rw [if_pos (Turn.fails_of_breaks hbreaks)] at hcount
        omega
      rw [hsound, Bool.false_or]
      exact ih (by omega) ht

end FileTransfer
