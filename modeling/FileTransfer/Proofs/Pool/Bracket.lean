import FileTransfer.Pool.Replay
import FileTransfer.Proofs.Pool.Network
import FileTransfer.Proofs.Pool.Watch

/-!
# Connections are given back

An operation asks for one connection, uses no other, and gives it back last of all, whatever comes of
it. The data channel of a listing is closed before the last reply is read, whatever became of the
data.

* `Listing`: the turns of a listing whose data channel was opened.
* `acts_readDirectory`: the turns of every course of a listing.
* `Records.of_listing`: what the account of a listing is seen by.
* `perform_gives_back`: the calls of an operation to its pool.
-/

namespace FileTransfer
open FileTransfer.Session FileTransfer.Reply
set_option autoImplicit false

/-! ## The turns of a listing -/

/-- The turns of the command of a listing: it is not sent, or sending it fails, or its first reply is
read. -/
inductive Turn.Asking : List Turn → Prop
  | unsent : Asking []
  | broken (line : String) (failure : Failure) : Asking [.sent line (.error failure)]
  | answered (line : String) (queue : List Incoming) :
      Asking [.sent line (.ok ()), .received .opening queue]

/-- The turns that follow the opening of the data channel of a listing: the command, the data at most
once, the closing, and, if the data were read, the last reply at most once. -/
inductive Turn.Listing : List Turn → Prop
  | refused {asking : List Turn} (h : Asking asking) (closing : Except Failure Unit) :
      Listing (asking ++ [.closed closing])
  | drained {asking : List Turn} (h : Asking asking) (data : List String × Option Failure)
      (closing : Except Failure Unit) : Listing (asking ++ [.drained data, .closed closing])
  | complete {asking : List Turn} (h : Asking asking) (data : List String × Option Failure)
      (closing : Except Failure Unit) (queue : List Incoming) :
      Listing (asking ++ [.drained data, .closed closing, .received .opening queue])

namespace Dialogue

theorem Quiet.acts {ts : List Turn} (h : Quiet ts) : ts.filter Turn.acts = [] := by
  rw [List.filter_eq_nil_iff]
  intro t ht
  obtain ⟨text, rfl⟩ := h t ht
  exact Bool.false_ne_true

theorem acts_reply {ts : List Turn} {r : Except Failure Reply} (h : Course reply ts r) :
    ∃ queue, ts.filter Turn.acts = [.received .opening queue] := by
  obtain ⟨queue, -, ⟨failure, -, rfl⟩ | ⟨a, note, -, rfl⟩⟩ := course_reply h
  · exact ⟨queue, rfl⟩
  · exact ⟨queue, rfl⟩

theorem acts_command {line : String} {ts : List Turn} {r : Except Failure Reply}
    (h : Course (command line) ts r) : Turn.Asking (ts.filter Turn.acts) := by
  obtain ⟨-, rfl, -⟩ | ⟨-, ⟨note, failure, -, rfl⟩ | ⟨note, us, hreply, rfl⟩⟩ := course_command h
  · exact .unsent
  · exact .broken line failure
  · obtain ⟨queue, hus⟩ := acts_reply hreply
    have hacts : (Turn.noted note :: .sent line (.ok ()) :: us).filter Turn.acts =
        .sent line (.ok ()) :: us.filter Turn.acts := rfl
    rw [hacts, hus]
    exact .answered line queue

theorem acts_expect {e : Expected} {line : String} {ts : List Turn} {r : Except Failure Unit}
    (h : Course (expect e line) ts r) : Turn.Asking (ts.filter Turn.acts) := by
  obtain ⟨failure, hcommand, -⟩ | ⟨a, hcommand, -⟩ := course_expect h
  · exact acts_command hcommand
  · exact acts_command hcommand

theorem acts_collect {line : String} {ts : List Turn}
    {r : Except Failure (List String × Option Failure)} (h : Course (collect line) ts r) :
    ∃ data, ts.filter Turn.acts = [.drained data] := by
  obtain ⟨data, us, hquiet, rfl, -⟩ := course_collect h
  exact ⟨data, congrArg (Turn.drained data :: ·) hquiet.acts⟩

theorem acts_transfer {e : Expected} {line : String} {ts : List Turn}
    {r : Except Failure (List String × Option Failure)}
    (h : Course (expect e line >>= fun _ => collect line) ts r) :
    (Turn.Asking (ts.filter Turn.acts) ∧ ∃ failure, r = .error failure) ∨
      ∃ asking data, Turn.Asking asking ∧ ts.filter Turn.acts = asking ++ [.drained data] := by
  obtain ⟨_, us, vs, hexpect, hcollect, rfl⟩ | ⟨failure, hexpect, hr⟩ := course_bind h
  · obtain ⟨data, hvs⟩ := acts_collect hcollect
    exact .inr ⟨_, data, acts_expect hexpect, by rw [List.filter_append, hvs]⟩
  · exact .inl ⟨acts_expect hexpect, failure, hr⟩

theorem acts_closeQuietly {ts : List Turn} {r : Except Failure Unit} (h : Course closeQuietly ts r) :
    ∃ closing, ts.filter Turn.acts = [.closed closing] := by
  obtain ⟨closing, us, hquiet, rfl, -⟩ := course_closeQuietly h
  exact ⟨closing, congrArg (Turn.closed closing :: ·) hquiet.acts⟩

theorem acts_dataCommand {line : String} {ts : List Turn} {r : Except Failure (List String)}
    (h : Course (dataCommand line) ts r) :
    (∃ refusal failure, ts.filter Turn.acts = [.opened refusal (.error failure)]) ∨
      ∃ listing, Turn.Listing listing ∧
        ts.filter Turn.acts = .opened none (.ok ()) :: listing := by
  obtain ⟨refusal, failure, rfl, -⟩ | ⟨us, vs, outcome, closing, htransfer, hclose, hend⟩ :=
    course_dataCommand h
  · exact .inl ⟨refusal, failure, rfl⟩
  refine .inr ?_
  obtain ⟨answer, hvs⟩ := acts_closeQuietly hclose
  have hasked := acts_transfer htransfer
  obtain ⟨-, -, rfl⟩ | ⟨⟨a, hok⟩, -, ws, xs, last, hreply, hquiet, -, rfl⟩ := hend
  · refine ⟨us.filter Turn.acts ++ vs.filter Turn.acts, ?_, congrArg (_ :: ·) (List.filter_append ..)⟩
    rw [hvs]
    obtain ⟨hasking, -⟩ | ⟨asking, data, hasking, hus⟩ := hasked
    · exact .refused hasking answer
    · rw [hus, List.append_assoc]
      exact .drained hasking data answer
  · obtain ⟨queue, hws⟩ := acts_reply hreply
    refine ⟨us.filter Turn.acts ++ (vs.filter Turn.acts ++ ws.filter Turn.acts), ?_, ?_⟩
    · -- The last reply is read only when the data were.
      obtain ⟨-, failure, herror⟩ | ⟨asking, data, hasking, hus⟩ := hasked
      · rw [hok] at herror
        cases herror
      · rw [hus, hvs, hws, List.append_assoc]
        exact .complete hasking data answer queue
    · have hacts : (Turn.opened none (.ok ()) :: (us ++ (vs ++ (ws ++ xs)))).filter Turn.acts =
          .opened none (.ok ()) :: (us ++ (vs ++ (ws ++ xs))).filter Turn.acts := rfl
      rw [hacts, List.filter_append, List.filter_append, List.filter_append, hquiet.acts,
        List.append_nil]

theorem acts_readDirectory {path : RemotePath} {ts : List Turn} {r : Except Failure Told}
    (h : Course (Operation.readDirectory path).dialogue ts r) :
    (∃ refusal failure, ts.filter Turn.acts = [.opened refusal (.error failure)]) ∨
      ∃ listing, Turn.Listing listing ∧
        ts.filter Turn.acts = .opened none (.ok ()) :: listing := by
  obtain ⟨lines, us, vs, hdata, hdone, rfl⟩ | ⟨failure, hdata, -⟩ :=
    course_bind (show Course (dataCommand _ >>= fun lines => pure (.listing lines)) ts r from h)
  · obtain ⟨rfl, -⟩ := course_done hdone
    rw [List.append_nil]
    exact acts_dataCommand hdata
  · exact acts_dataCommand hdata

end Dialogue

/-! ## What is seen of a listing -/

theorem Turn.Asking.open_still {ts : List Turn} (h : Asking ts) : ∀ t ∈ ts, t.closesData = false := by
  cases h <;> simp [closesData]

/-- A listing closes its data channel once, and reads one reply at most after that. -/
theorem Turn.Listing.split {ts : List Turn} (h : Listing ts) :
    ∃ front closing back, ts = front ++ .closed closing :: back ∧
      (∀ t ∈ front, t.closesData = false) ∧
      (back = [] ∨ ∃ queue, back = [.received .opening queue]) := by
  have hdrained : ∀ {asking : List Turn} (data : List String × Option Failure), Asking asking →
      ∀ t ∈ asking ++ [.drained data], t.closesData = false := by
    intro asking data hasking t ht
    rcases List.mem_append.mp ht with ht | ht
    · exact hasking.open_still t ht
    · rw [List.mem_singleton.mp ht]
      rfl
  cases h with
  | refused h closing => exact ⟨_, closing, [], rfl, h.open_still, .inl rfl⟩
  | drained h data closing =>
    exact ⟨_, closing, [], (List.append_assoc _ [_] [_]).symm, hdrained data h, .inl rfl⟩
  | complete h data closing queue =>
    exact ⟨_, closing, [_], (List.append_assoc _ [_] [_, _]).symm, hdrained data h, .inr ⟨queue, rfl⟩⟩

namespace Records
variable {id : Id} {opened : Bool} {entries : List (Turn × List Event)}

theorem on (h : Records id opened entries) : ∀ e ∈ entries.flatMap Prod.snd, e.connection = id := by
  induction entries generalizing opened with
  | nil => simp
  | cons entry entries ih =>
    intro e he
    rcases List.mem_append.mp he with he | he
    · exact (h.1.on e he).1
    · exact ih h.2 e he

theorem append {more : List (Turn × List Event)} (h : Records id opened (entries ++ more)) :
    Records id opened entries ∧
      Records id (opened || entries.any fun entry => entry.1.opensData) more := by
  induction entries generalizing opened with
  | nil => exact ⟨trivial, by simpa using h⟩
  | cons entry entries ih =>
    obtain ⟨hfront, hback⟩ := ih h.2
    exact ⟨⟨h.1, hfront⟩, by simpa [Bool.or_assoc] using hback⟩

/-- Notes leave no events. -/
theorem acts (h : Records id opened entries) :
    Records id opened (entries.filter fun entry => entry.1.acts) ∧
      (entries.filter fun entry => entry.1.acts).flatMap Prod.snd = entries.flatMap Prod.snd := by
  induction entries generalizing opened with
  | nil => exact ⟨trivial, rfl⟩
  | cons entry entries ih =>
    obtain ⟨t, es⟩ := entry
    obtain ⟨hrecords, hevents⟩ := ih h.2
    cases hacts : t.acts with
    | true =>
      rw [List.filter_cons_of_pos (a := (t, es)) hacts]
      exact ⟨⟨h.1, hrecords⟩, congrArg (es ++ ·) hevents⟩
    | false =>
      obtain ⟨text, rfl⟩ : ∃ text, t = .noted text := by
        cases t <;> simp [Turn.acts] at hacts ⊢
      have hnothing : es = [] := List.eq_nil_iff_forall_not_mem.mpr fun e he => (h.1.on e he).2
      rw [List.filter_cons_of_neg (by simp [Turn.acts]), hnothing]
      exact ⟨by simpa [Turn.opensData] using hrecords, hevents⟩

theorem open_still (h : Records id opened entries)
    (hclosed : ∀ t ∈ entries.map Prod.fst, t.closesData = false) :
    ∀ e ∈ entries.flatMap Prod.snd, e.action.endsData = false := by
  induction entries generalizing opened with
  | nil => simp
  | cons entry entries ih =>
    intro e he
    rcases List.mem_append.mp he with he | he
    · exact Turn.endsData_of_leaves (h.1.on e he).2 (hclosed _ List.mem_cons_self)
    · exact ih h.2 (fun t ht => hclosed t (List.mem_cons_of_mem _ ht)) e he

/-- The data channel of a listing is seen to end once, and what is seen after that is the reading of
the last reply. -/
theorem of_listing {ts : List Turn} (h : Records id true entries) (hts : entries.map Prod.fst = ts)
    (hlisting : Turn.Listing ts) :
    ∃ front last back, entries.flatMap Prod.snd = front ++ last :: back ∧
      last.action.endsData = true ∧ (∀ e ∈ front, e.action.endsData = false) ∧
      ∀ e ∈ back, ∃ line, e.action = .read line := by
  obtain ⟨front, closing, back, rfl, hfront, hback⟩ := hlisting.split
  obtain ⟨before, rest, rfl, rfl, hrest⟩ := List.map_eq_append_iff.mp hts
  obtain ⟨⟨t, es⟩, after, rfl, rfl, rfl⟩ := List.map_eq_cons_iff.mp hrest
  obtain ⟨hbefore, hclosing, hafter⟩ := h.append
  obtain ⟨upper, last, hevents, hlast, hupper⟩ := hclosing.ends rfl (Bool.true_or _)
  refine ⟨before.flatMap Prod.snd ++ upper, last, after.flatMap Prod.snd, ?_, hlast, ?_, ?_⟩
  · rw [List.flatMap_append, List.flatMap_cons, hevents]
    simp
  · intro e he
    rcases List.mem_append.mp he with he | he
    · exact hbefore.open_still hfront e he
    · exact hupper e he
  · -- What is left is one reply at most, and reading it leaves nothing else.
    intro e he
    obtain hnone | ⟨queue, hsome⟩ := hback
    · rw [List.map_eq_nil_iff.mp hnone] at he
      cases he
    · obtain ⟨⟨t', es'⟩, none, rfl, rfl, hnone⟩ := List.map_eq_cons_iff.mp hsome
      obtain rfl := List.map_eq_nil_iff.mp hnone
      rw [List.flatMap_singleton] at he
      exact (hafter.1.on e he).2

end Records

/-! ## Operations -/

namespace Pool
variable {ω : Type} [Pool ω]

/-- An operation that is refused a connection fails with just that failure, and does nothing else. Any
other asks for one connection, does whatever it does on that connection, and gives it back last of
all. A listing that had its data channel opened asks for the listing once, reads the data once if at
all, then closes the channel, once, and only then reads the last reply, if it read the data. -/
theorem perform_gives_back (op : Operation) (w : ω) :
    (∀ failure w', Pool.acquire w = (.error failure, w') →
      Pool.perform op (⟨w, []⟩ : Watched ω) = (.error failure, ⟨w', [.acquired none]⟩)) ∧
    ∀ id w', Pool.acquire w = (.ok id, w') →
      let account := (Holding.account op.dialogue
        { connection := (Pool.network w').connection id }).filter fun entry => entry.1.acts
      let events := account.flatMap Prod.snd
      Pool.perform op (⟨w, []⟩ : Watched ω) = ((Pool.perform op w).1,
        ⟨(Pool.perform op w).2, .acquired (some id) :: (events.map .seen ++ [.released id])⟩) ∧
      (∀ e ∈ events, e.connection = id) ∧
      ∀ path, op = .readDirectory path →
        (∃ refusal failure, account.map Prod.fst = [.opened refusal (.error failure)]) ∨
        (∃ listing, Turn.Listing listing ∧
          account.map Prod.fst = .opened none (.ok ()) :: listing) ∧
        ∃ front last back, events = front ++ last :: back ∧ last.action.endsData = true ∧
          (∀ e ∈ front, e.action.endsData = false) ∧ ∀ e ∈ back, ∃ line, e.action = .read line := by
  constructor
  · intro failure w' hacquire
    have hnothing : Pool.perform op w = (.error failure, w') := by
      rw [perform, withConnection, bracket, hacquire]
    rw [Watched.perform_watched, Watched.usage, hacquire, hnothing]
    rfl
  · intro id w' hacquire account events
    let held : Holding := { connection := (Pool.network w').connection id }
    have hid : held.connection.id = id := Network.connection_id (Pool.network w') id
    have hrecords := Holding.records_account op.dialogue held (Holding.tied_new held.connection)
    rw [hid] at hrecords
    obtain ⟨hacts, hevents⟩ := hrecords.acts
    have hturns : account.map Prod.fst = (Holding.turns op.dialogue held).filter Turn.acts := by
      rw [← Holding.account_turns, List.filter_map]
      rfl
    refine ⟨?_, hacts.on, ?_⟩
    · rw [Watched.perform_watched, Watched.usage, hacquire]
      dsimp only
      rw [← hevents]
      rfl
    · rintro path rfl
      obtain hrefused | ⟨listing, hlisting, hopened⟩ :=
        Dialogue.acts_readDirectory (Holding.course_turns _ held)
      · rw [hturns]
        exact .inl hrefused
      · refine .inr ⟨⟨listing, hlisting, hturns.trans hopened⟩, ?_⟩
        obtain ⟨⟨t, es⟩, entries, haccount, rfl, hentries⟩ :=
          List.map_eq_cons_iff.mp (hturns.trans hopened)
        have hrecords' : Records id false account := hacts
        rw [haccount] at hrecords'
        obtain ⟨front, last, back, hseen, hlast, hfront, hback⟩ :=
          Records.of_listing hrecords'.2 hentries hlisting
        have hopening : ∀ e ∈ es, e.action.endsData = false :=
          fun e he => Turn.endsData_of_leaves (hrecords'.1.on e he).2 rfl
        refine ⟨es ++ front, last, back, ?_, hlast, ?_, hback⟩
        · have hall : events = es ++ entries.flatMap Prod.snd :=
            congrArg (List.flatMap Prod.snd) haccount
          rw [hall, hseen, List.append_assoc]
        · intro e he
          exact (List.mem_append.mp he).elim (hopening e) (hfront e)

/-- A server whose data are cut off and whose data channel fails to close, and which then falls
silent. -/
def brokenListing : Script where
  replies := [.ok "150 here"]
  transfers := [{ breaking := some (.fault (.internal "out of order")),
                  closing := some (.fault (.system .connectionReset "reset")) }]

/-- A failure of the data that is not provided for, and then one to close the data channel: the
connection is given back all the same. Without a connection there is nothing to give back. -/
theorem perform_gives_back_broken :
    (Pool.perform (.readDirectory (.plain "pub")) (ReplayPool.ofScripts [brokenListing] [])).1 =
        .error (.fault (.internal "out of order")) ∧
      (∃ events : List Event, (Pool.perform (.readDirectory (.plain "pub"))
          (⟨ReplayPool.ofScripts [brokenListing] [], []⟩ : Watched ReplayPool)).2.calls =
          .acquired (some 0) :: (events.map .seen ++ [.released 0]) ∧
        ∀ e ∈ events, e.connection = 0) ∧
      (Pool.perform (.readDirectory (.plain "pub"))
          (⟨ReplayPool.ofScripts [] [some (.reported .connection "down")], []⟩ :
            Watched ReplayPool)).2.calls = [.acquired none] := by
  obtain ⟨hcalls, hon, -⟩ := (perform_gives_back (.readDirectory (.plain "pub"))
    (ReplayPool.ofScripts [brokenListing] [])).2 0 _ rfl
  have hdown := (perform_gives_back (.readDirectory (.plain "pub"))
    (ReplayPool.ofScripts [] [some (.reported .connection "down")])).1 _ _ rfl
  exact ⟨by decide +kernel, ⟨_, congrArg (·.2.calls) hcalls, hon⟩, congrArg (·.2.calls) hdown⟩

end Pool
end FileTransfer
