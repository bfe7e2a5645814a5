import FileTransfer.Proofs.Pool.Custody

/-!
# How many connections a pool opens

A session is only set up for a caller that finds the shelf empty. So a pool has never more connections
open than its callers wanted at once at some time, however many it might keep.

* `outstanding`, `opened`: the acquisitions that were not given back, and the connections there are.
* `History`, `peak`: a run with all its states, and the most that was outstanding in it.
* `Step.opened_le`: what a step does to the connections that are open.
* `opened_le_peak`: the bound, for any number of callers and for one.
-/

namespace FileTransfer.Pool
open FileTransfer.Session FileTransfer.Settings Relation
set_option autoImplicit false

/-- Whether a caller has a connection, or waits for one to be set up. -/
def Caller.wants : Caller → Bool
  | dialling => true
  | holding _ => true
  | _ => false

namespace Crowd

def outstanding (s : Crowd) : Nat := s.callers.countP Caller.wants

/-- The connections held, being set up, and kept on the shelf. -/
def opened (s : Crowd) : Nat := s.outstanding + s.pool.shelf.idle.length

/-- The states of a run, the last one first. -/
inductive History (start : Crowd) : List Crowd → Prop
  | start : History start [start]
  | step {s s' : Crowd} {earlier : List Crowd} (h : History start (s :: earlier))
      (hstep : Step s s') : History start (s' :: s :: earlier)

def peak : List Crowd → Nat
  | [] => 0
  | s :: earlier => max s.outstanding (peak earlier)

theorem peak_le {states : List Crowd} {most : Nat} (h : ∀ s ∈ states, s.outstanding ≤ most) :
    peak states ≤ most := by
  induction states with
  | nil => exact Nat.zero_le _
  | cons s states ih =>
    rw [peak]
    have hrest := ih fun t ht => h t (List.mem_cons_of_mem _ ht)
    have hfirst := h s List.mem_cons_self
    omega

theorem history_of_reaches {s s' : Crowd} (h : Reaches s s') :
    ∃ earlier, History s (s' :: earlier) := by
  induction h with
  | refl => exact ⟨[], .start⟩
  | tail _ hstep ih =>
    obtain ⟨earlier, hearlier⟩ := ih
    exact ⟨_, .step hearlier hstep⟩

theorem History.reaches {start s : Crowd} {states : List Crowd} (h : History start states)
    (hs : s ∈ states) : Reaches start s := by
  induction h generalizing s with
  | start => rw [List.mem_singleton.mp hs]
  | step h hstep ih =>
    rcases List.mem_cons.mp hs with rfl | hs
    · exact (ih List.mem_cons_self).tail hstep
    · exact ih hs

/-- Every state of a run comes with the run that leads there. -/
theorem History.back {start s : Crowd} {states : List Crowd} (h : History start states)
    (hs : s ∈ states) : ∃ earlier, History start (s :: earlier) ∧ s :: earlier ⊆ states := by
  induction h with
  | start =>
    rw [List.mem_singleton.mp hs]
    exact ⟨[], .start, List.Subset.refl _⟩
  | step h hstep ih =>
    rcases List.mem_cons.mp hs with rfl | hs
    · exact ⟨_, .step h hstep, List.Subset.refl _⟩
    · obtain ⟨earlier, hearlier, hsub⟩ := ih hs
      exact ⟨earlier, hearlier, List.subset_cons_of_subset _ hsub⟩

end Crowd

/-! ## Steps -/

/-- What a caller has of the connections of its pool, with those on the shelf. -/
def claimed (p : SessionPool) (c : Caller) : Nat := p.shelf.idle.length + c.wants.toNat

variable {p p' : SessionPool} {c c' : Caller}

@[simp] theorem claimed_away : claimed p .away = p.shelf.idle.length := rfl

@[simp] theorem claimed_dialling : claimed p .dialling = p.shelf.idle.length + 1 := rfl

@[simp] theorem claimed_holding (id : Id) : claimed p (.holding id) = p.shelf.idle.length + 1 := rfl

@[simp] theorem claimed_closing (ids : List Id) : claimed p (.closing ids) = p.shelf.idle.length := rfl

/-- A caller has no more after a step than before it, unless it found the shelf empty. -/
theorem Move.claimed_le (m : Move (p, c) (p', c')) :
    (p'.shelf.idle = [] ∧ c' = .dialling) ∨
      (claimed p' c' ≤ claimed p c ∧
        claimed p' c' + c'.due.length ≤ claimed p c + c.due.length) := by
  cases m with
  | missed h =>
    obtain ⟨-, hidle, rfl⟩ := Shelf.take_eq_none_iff.mp h
    exact .inl ⟨hidle, rfl⟩
  | took h =>
    obtain ⟨-, hidle, -⟩ := Shelf.take_eq_some_iff.mp h
    simp [Caller.due, hidle]
  | dialled h =>
    obtain ⟨-, t, -, rfl⟩ := SessionPool.dialNext_ok h
    simp [Caller.due]
  | undialled h =>
    obtain ⟨t, -, rfl⟩ := SessionPool.dialNext_error h
    simp [Caller.due]
  | kept h =>
    obtain ⟨-, -, -, rfl⟩ := Shelf.offer_eq_true_iff.mp h
    simp [Caller.due]
  | turnedDown h =>
    obtain ⟨-, rfl⟩ := Shelf.offer_eq_false_iff.mp h
    simp [Caller.due]
  | parted h =>
    rw [SessionPool.closeConnection_network h]
    simp [Caller.due]
  | stranded h =>
    rw [SessionPool.closeConnection_network h]
    simp [Caller.due]
  | shut => simp [Caller.due, Shelf.shut]
  | remarked notes => exact .inr ⟨Nat.le_refl _, Nat.le_refl _⟩
  | _ => simp [Caller.due]

namespace Crowd

theorem opened_split (p : SessionPool) (c : Caller) (before after : List Caller) :
    opened ⟨p, before ++ c :: after⟩ = claimed p c + (before ++ after).countP Caller.wants := by
  simp only [opened, outstanding, claimed, List.countP_append, List.countP_cons]
  cases c.wants <;> simp <;> omega

theorem Step.opened_le {s s' : Crowd} (h : Step s s') :
    s'.opened ≤ s.opened ∨ s'.pool.shelf.idle = [] := by
  obtain ⟨before, after, m⟩ := h
  rcases m.claimed_le with ⟨hidle, -⟩ | ⟨hle, -⟩
  · exact .inr hidle
  · rw [opened_split, opened_split]
    omega

/-! ## Runs -/

theorem History.opened_le {start s : Crowd} {states : List Crowd} (hstart : start.opened = 0)
    (h : History start (s :: states)) : s.opened ≤ peak (s :: states) := by
  generalize hall : s :: states = all at h
  induction h generalizing s states with
  | start =>
    obtain rfl := (List.cons.inj hall).1
    omega
  | @step t t' earlier h hstep ih =>
    obtain ⟨rfl, -⟩ := List.cons.inj hall
    rw [peak]
    -- A caller that begins to dial found the shelf empty: then all that is open is outstanding.
    rcases hstep.opened_le with hle | hidle
    · exact Nat.le_trans (Nat.le_trans hle (ih rfl)) (Nat.le_max_right ..)
    · rw [opened, hidle]
      exact Nat.le_max_left ..

theorem alone_of_reaches {r : Remote} {scripts : List Script} {s : Crowd}
    (h : Reaches (fresh r scripts 1) s) :
    ∃ c, s.callers = [c] ∧ claimed s.pool c + c.due.length ≤ 1 := by
  induction h with
  | refl => exact ⟨.away, rfl, by simp [fresh, Caller.due]⟩
  | tail _ hstep ih =>
    obtain ⟨c, hcallers, hle⟩ := ih
    obtain @⟨p, p', d, d', before, after, m⟩ := hstep
    have hone : before = [] ∧ d = c ∧ after = [] := by
      cases before <;> simp_all
    obtain ⟨rfl, rfl, rfl⟩ := hone
    refine ⟨d', rfl, ?_⟩
    rcases m.claimed_le with ⟨hidle, rfl⟩ | ⟨-, hless⟩
    · simp [hidle, Caller.due]
    · exact Nat.le_trans hless hle

theorem opened_of_reaches {r : Remote} {scripts : List Script} {s : Crowd}
    (h : Reaches (fresh r scripts 1) s) : s.opened + s.due.length ≤ 1 := by
  obtain ⟨p, callers⟩ := s
  obtain ⟨c, rfl, hle⟩ := alone_of_reaches h
  have hopened := opened_split p c [] []
  simp only [List.nil_append, List.countP_nil, Nat.add_zero] at hopened
  simpa [due, hopened] using hle

/-- Whatever the order in which any number of callers take their steps, the connections that are open
are never more than the acquisitions that were outstanding at once at some time before. When there was
never more than one of these there is never more than one connection, whatever the limit of the shelf.
That is so in particular for a caller that is on its own, as it is when operations are done one after
the other; then a session that is about to be ended is the only one. -/
theorem opened_le_peak {r : Remote} {scripts : List Script} {n : Nat} {s : Crowd}
    {earlier : List Crowd} (h : History (fresh r scripts n) (s :: earlier)) :
    s.opened ≤ peak (s :: earlier) ∧
      ((∀ t ∈ s :: earlier, t.outstanding ≤ 1) → ∀ t ∈ s :: earlier, t.opened ≤ 1) ∧
      (n = 1 → ∀ t ∈ s :: earlier, t.opened + t.due.length ≤ 1) ∧
      ∀ ops, ∃ before,
        History (fresh r scripts 1) (⟨performAll ops { remote := r, scripts }, [.away]⟩ :: before) ∧
          ∀ t ∈ ⟨performAll ops { remote := r, scripts }, [.away]⟩ :: before,
            t.opened + t.due.length ≤ 1 := by
  have hstart : (fresh r scripts n).opened = 0 := by
    simp [opened, outstanding, fresh, Caller.wants]
  refine ⟨h.opened_le hstart, fun hone t ht => ?_, ?_, fun ops => ?_⟩
  · obtain ⟨before, hbefore, hsub⟩ := h.back ht
    calc t.opened ≤ peak (t :: before) := hbefore.opened_le hstart
      _ ≤ 1 := peak_le fun u hu => hone u (hsub hu)
  · rintro rfl t ht
    exact opened_of_reaches (h.reaches ht)
  · have hreach : Reaches (fresh r scripts 1) ⟨_, [.away]⟩ :=
      reaches_of_moves [] [] (performAll_moves ops { remote := r, scripts })
    obtain ⟨before, hbefore⟩ := history_of_reaches hreach
    exact ⟨before, hbefore, fun t ht => opened_of_reaches (hbefore.reaches ht)⟩

/-- Two callers want a connection at once and give it back, then one of them takes one again: two are
open, though only one is wanted. -/
theorem opened_le_peak_later :
    ∃ s earlier,
      History (fresh { name := .text "files", type := .text "ftp", host := .text "server" } [{}, {}] 2)
        (s :: earlier) ∧
      s.outstanding = 1 ∧ s.opened = 2 ∧ 2 ≤ peak (s :: earlier) := by
  have hstart : History
      (fresh { name := .text "files", type := .text "ftp", host := .text "server" } [{}, {}] 2) _ :=
    .start
  have hmissed := hstart.step (.move [] [.away] (Move.missed rfl))
  have hmissed' := hmissed.step (.move [.dialling] [] (Move.missed rfl))
  have hdialled := hmissed'.step (.move [] [.dialling] (Move.dialled rfl))
  have hdialled' := hdialled.step (.move [.holding 0] [] (Move.dialled rfl))
  have hkept := hdialled'.step (.move [] [.holding 1] (Move.kept rfl))
  have hkept' := hkept.step (.move [.away] [] (Move.kept rfl))
  have htook := hkept'.step (.move [] [.away] (Move.took rfl))
  obtain ⟨hopened, -⟩ := opened_le_peak htook
  exact ⟨_, _, htook, rfl, rfl, hopened⟩

end Crowd
end FileTransfer.Pool
