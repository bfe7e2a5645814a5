import FileTransfer.Proofs.Dialogue.SingleFailure
import FileTransfer.Proofs.Pool.Lockstep

/-!
# Connections that are given up

What becomes of a connection on which a reply was not obtained. It is ended when it is broken, and
kept when it is not, whatever is still to come on it.

* `acquire_unbroken`: a connection that is handed out is in good order.
* `release_broken`, `release_kept`: giving a connection back.
* `breakage`: which failures to obtain a reply break a connection, and what follows.
* `breakage_missed`: a failure that does not, and the reply that the next holder gets.
-/

namespace FileTransfer.Pool
open FileTransfer.Session FileTransfer.Settings
set_option autoImplicit false

/-! ## Handing out and giving back -/

variable {p p' : SessionPool} {id : Id}

/-- A connection that is handed out is in good order, and so is the pool. -/
theorem acquire_unbroken (h : Quiet p) (hacquire : p.acquire = (.ok id, p')) :
    (p'.network.connection id).broken = false ∧ p'.shelf.closed = false := by
  unfold SessionPool.acquire at hacquire
  split at hacquire
  case h_1 => cases hacquire
  case h_2 id' shelf htake =>
    cases hacquire
    obtain ⟨-, hidle, hopen⟩ := Shelf.take_eq_some_iff.mp htake
    refine ⟨h.unbroken id ?_, hopen⟩
    rw [hidle]
    exact List.mem_append_right _ (List.mem_singleton.mpr rfl)
  case h_3 shelf htake =>
    obtain ⟨hopen, -, rfl⟩ := Shelf.take_eq_none_iff.mp htake
    obtain ⟨rfl, t, -, rfl⟩ := SessionPool.dialNext_ok hacquire
    have hnew : p.made ∉ p.network.dialled := fun hid => Nat.lt_irrefl _ (h.sound.made _ hid)
    have hsame := Network.connection_append_self (n := p.network)
      (c := dialled p.remote p.made p.nextScript) hnew
    exact ⟨congrArg Connection.broken hsame, hopen⟩

theorem release_broken (hs : p.Sound) (hid : id ∈ p.network.dialled)
    (hbroken : (p.network.connection id).broken = true) :
    (p.release id).2.shelf = p.shelf ∧
      (p.release id).2.network.parted id = p.network.parted id + 1 := by
  have hoffer : p.shelf.offer p.remote.maxIdle (p.network.connection id).broken id =
      .ok (false, p.shelf) := Shelf.offer_eq_false_iff.mpr ⟨.inr (.inl hbroken), rfl⟩
  rcases hclose : SessionPool.closeConnection id { p with shelf := p.shelf } with ⟨result, q⟩
  have hrelease : (p.release id).2 = q := by simp only [SessionPool.release, hoffer, hclose]
  obtain ⟨hparted, -⟩ := closeConnection_parted (p := p) hs hid hclose
  rw [hrelease]
  refine ⟨by rw [SessionPool.closeConnection_network hclose], ?_⟩
  rw [hparted, List.count_singleton_self]

theorem release_kept (hopen : p.shelf.closed = false)
    (hbroken : (p.network.connection id).broken = false)
    (hroom : p.shelf.hasRoom p.remote.maxIdle = .ok true) :
    (p.release id).2.shelf.idle = p.shelf.idle ++ [id] := by
  have hoffer : p.shelf.offer p.remote.maxIdle (p.network.connection id).broken id =
      .ok (true, { p.shelf with idle := p.shelf.idle ++ [id] }) :=
    Shelf.offer_eq_true_iff.mpr ⟨hopen, hbroken, hroom, rfl⟩
  simp only [SessionPool.release, hoffer]

/-! ## Replies that are not obtained -/

/-- Whatever operations came before, when an operation does not obtain a reply then its connection is
broken exactly for the failures that `Turn.marks` names. A broken connection is ended, and not kept;
otherwise it is kept as long as there is room. -/
theorem breakage {r : Remote} {scripts : List Script} (ops : List Operation)
    (hp : performAll ops { remote := r, scripts } = p) (hacquire : p.acquire = (.ok id, p'))
    (op : Operation) {t : Turn} {f : Fault} (ht : t ∈ turnsOf op (p'.network.connection id))
    (hf : t.FailsWith f) :
    (((Pool.perform op p).2.network.connection id).broken = true ↔ t.marks f = true) ∧
      (t.marks f = true →
        id ∉ (Pool.perform op p).2.shelf.idle ∧ (Pool.perform op p).2.network.parted id = 1) ∧
      (t.marks f = false → p'.shelf.hasRoom p'.remote.maxIdle = .ok true →
        id ∈ (Pool.perform op p).2.shelf.idle) := by
  have hquiet : Quiet p := by
    rw [← hp]
    exact Quiet.performAll (Crowd.custody_fresh r scripts 1) ops
  have hcustody := custody_acquire hquiet hacquire
  have hid := (custody_holding hcustody).1
  obtain ⟨hunbroken, hopen⟩ := acquire_unbroken hquiet hacquire
  have hcourse := Holding.course_turns op.dialogue { connection := p'.network.connection id }
  have hbreaks := any_breaks_of_failures (Dialogue.stops_operation op _ _ hcourse).1 ht
    (Turn.fails_of_failsWith hf)
  rw [Turn.breaks_of_failsWith hf] at hbreaks
  have hbroken := broken_perform hacquire hid op
  rw [hunbroken, Bool.false_or] at hbroken
  have hmarks : ((Pool.perform op p).2.network.connection id).broken = t.marks f :=
    hbroken.trans hbreaks
  -- What is left is to follow the connection back to the pool.
  have hused := hmarks
  rw [connection_perform hacquire op] at hused
  obtain ⟨hid', hidle, hparted⟩ :=
    custody_holding (custody_of_moves hcustody (.single (converse_move id op.dialogue p')))
  obtain ⟨c, t', hconverse, -⟩ := SessionPool.converse_spec id op.dialogue p'
  obtain ⟨notes, hperform⟩ := perform_acquired hacquire op
  have hquietly : Trace.On id ⟨[], notes⟩ := by simp [Trace.On]
  refine ⟨by rw [hmarks], fun hyes => ?_, fun hno hroom => ?_⟩
  · obtain ⟨hshelf, hended⟩ := release_broken
      (custody_of_moves hcustody (.single (converse_move id op.dialogue p'))).sound hid'
      (hused.trans hyes)
    rw [hperform]
    refine ⟨by rw [hshelf]; exact hidle, ?_⟩
    rw [parted_seen_on _ hquietly, hended, hparted]
  · have hopen' : (Pool.converse id op.dialogue p').2.shelf.closed = false := by
      rw [hconverse]
      exact hopen
    have hroom' : (Pool.converse id op.dialogue p').2.shelf.hasRoom
        (Pool.converse id op.dialogue p').2.remote.maxIdle = .ok true := by
      rw [hconverse]
      exact hroom
    rw [hperform, release_kept hopen' (hused.trans hno) hroom']
    exact List.mem_append_right _ (List.mem_singleton.mpr rfl)

/-- A server whose reply cannot be decoded after its first line. -/
def garbledReply : Script where
  replies := [.ok "250-first", .error (.fault (.invalid "no text")), .ok "250 stale"]

/-- A server that resets the connection after the first line of a reply. -/
def resetReply : Script where
  replies := [.ok "250-first", .error (.fault (.system .connectionReset "reset")), .ok "250 stale"]

/-- A server whose answer about a data channel cannot be parsed. -/
def garbledChannel : Script where
  transfers := [{ opening := some (.fault (.session .malformed "227 here")) }]

/-- A connection that is reset is given up; one whose reply cannot be decoded is kept. -/
theorem breakage_two_servers :
    (0 ∉ (Pool.perform (.delete (.plain "a")) (serving resetReply)).2.shelf.idle ∧
        (Pool.perform (.delete (.plain "a")) (serving resetReply)).2.network.parted 0 = 1) ∧
      0 ∈ (Pool.perform (.delete (.plain "a")) (serving garbledReply)).2.shelf.idle := by
  have hreset := breakage [] (p := serving resetReply) rfl (Prod.ext rfl rfl) (.delete (.plain "a"))
    (t := .received .opening resetReply.replies) (f := .system .connectionReset "reset")
    (List.mem_of_getElem? (i := 2) rfl) (by rw [Turn.FailsWith]; decide)
  have hgarbled := breakage [] (p := serving garbledReply) rfl (Prod.ext rfl rfl)
    (.delete (.plain "a")) (t := .received .opening garbledReply.replies) (f := .invalid "no text")
    (List.mem_of_getElem? (i := 2) rfl) (by rw [Turn.FailsWith]; decide)
  exact ⟨hreset.2.1 rfl, hgarbled.2.2 rfl rfl⟩

/-- A reply that cannot be decoded breaks nothing, and the next operation takes what is left of it for
the answer to its own command. Nor does an answer about a data channel that cannot be parsed. -/
theorem breakage_missed :
    (∃ t ∈ turnsOf (.delete (.plain "a")) ((serving garbledReply).acquire.2.network.connection 0),
        t.FailsWith (.invalid "no text")) ∧
      ((Pool.perform (.delete (.plain "a")) (serving garbledReply)).2.network.connection 0).broken =
        false ∧
      (Pool.perform (.delete (.plain "a")) (serving garbledReply)).2.shelf.idle = [0] ∧
      (Pool.perform (.delete (.plain "b"))
        (Pool.perform (.delete (.plain "a")) (serving garbledReply)).2).1 = .ok .nothing ∧
      (∃ t ∈ turnsOf (.readDirectory (.plain "a"))
          ((serving garbledChannel).acquire.2.network.connection 0),
        t.FailsWith (.session .malformed "227 here")) ∧
      (Pool.perform (.readDirectory (.plain "a")) (serving garbledChannel)).2.shelf.idle = [0] := by
  refine ⟨⟨.received .opening garbledReply.replies, List.mem_of_getElem? (i := 2) rfl, ?_⟩,
    by decide +kernel, by decide +kernel, by decide +kernel,
    ⟨.opened (some (.fault (.session .malformed "227 here"))) _, List.mem_of_getElem? (i := 0) rfl,
      rfl, rfl⟩, by decide +kernel⟩
  rw [Turn.FailsWith]
  decide

end FileTransfer.Pool
