import FileTransfer.Proofs.Pool.Crowd

/-!
# Where the connections of a pool are

Whatever the order in which callers take their steps, no connection is in two places, the shelf keeps
only connections in good order, and a pool that is closed keeps none. As long as the limit is a number
and sessions end in one of the ways provided for, no connection is lost either.

* `share`: how often a connection is with the pool, with one caller, or gone.
* `Move.share_eq`: what a step does to that.
* `Custody`: what holds of every crowd that comes of a new pool, and `custody_of_reaches`.
* `one_place`: each connection is in exactly one place.
-/

namespace FileTransfer.Pool
open FileTransfer.Session FileTransfer.Settings Relation
set_option autoImplicit false

/-! ## Pools of sessions -/

/-- The connections of a pool have numbers of their own, given out one after the other, and run on
sessions. -/
structure SessionPool.Sound (p : SessionPool) : Prop where
  distinct : p.network.dialled.Nodup
  made : ∀ id ∈ p.network.dialled, id < p.made
  session : ∀ c ∈ p.network.connections, ∃ info, c.carrier = .session info

/-- The limit is a number, and sessions that fail to end are cut off. -/
structure SessionPool.Provided (limit : Int) (p : SessionPool) : Prop where
  limit : p.remote.maxIdle.integer? = some limit
  scripts : ∀ s ∈ p.scripts, ∀ failure, s.quitting = some failure → cutsOff failure = true
  sessions : ∀ c ∈ p.network.connections, ∀ info, c.carrier = .session info →
    ∀ failure, info.quitting = some failure → cutsOff failure = true

/-! ## What a step changes -/

variable {p p' : SessionPool} {c c' : Caller}

/-- What a step does to the connections: something is seen of them, or a holder changes its own, or
the next one is set up. -/
theorem Move.network_cases (m : Move (p, c) (p', c')) :
    p'.remote = p.remote ∧ p'.scripts = p.scripts ∧
      ((p.made ≤ p'.made ∧ ∃ t, p'.network = p.network.seen t) ∨
        (p'.made = p.made ∧ ∃ d t, c = .holding d.id ∧
          d.carrier = (p.network.connection d.id).carrier ∧
          p'.network = (p.network.withConnection d).seen t) ∨
        (p'.made = p.made + 1 ∧ ∃ t, p'.network =
          ⟨p.network.connections ++ [Pool.dialled p.remote p.made p.nextScript], t⟩)) := by
  have hsame : p.network = p.network.seen {} := by
    rw [Network.seen, Trace.append_empty]
  cases m with
  | dialled h =>
    obtain ⟨-, t, -, rfl⟩ := SessionPool.dialNext_ok h
    exact ⟨rfl, rfl, .inr (.inr ⟨rfl, _, rfl⟩)⟩
  | undialled h =>
    obtain ⟨t, -, rfl⟩ := SessionPool.dialNext_error h
    exact ⟨rfl, rfl, .inl ⟨Nat.le_succ _, t, rfl⟩⟩
  | used d t hid hcarrier ht =>
    subst hid
    exact ⟨rfl, rfl, .inr (.inl ⟨rfl, d, t, rfl, hcarrier, rfl⟩)⟩
  | parted h =>
    rw [SessionPool.closeConnection_network h]
    exact ⟨rfl, rfl, .inl ⟨Nat.le_refl _, _, rfl⟩⟩
  | stranded h =>
    rw [SessionPool.closeConnection_network h]
    exact ⟨rfl, rfl, .inl ⟨Nat.le_refl _, _, rfl⟩⟩
  | remarked notes => exact ⟨rfl, rfl, .inl ⟨Nat.le_refl _, _, rfl⟩⟩
  | _ => exact ⟨rfl, rfl, .inl ⟨Nat.le_refl _, {}, hsame⟩⟩

/-- What a step does to the shelf: nothing, or it closes the pool, or a connection leaves the shelf of
an open pool, or one in good order comes to it. -/
theorem Move.shelf_cases (m : Move (p, c) (p', c')) :
    p'.shelf = p.shelf ∨ (p'.shelf.closed = true ∧ p'.shelf.idle = []) ∨
      p.shelf.closed = false ∧ p'.shelf.closed = false ∧
        ((∃ id, p.shelf.idle = p'.shelf.idle ++ [id]) ∨
          ∃ id, p'.shelf.idle = p.shelf.idle ++ [id] ∧ p'.network = p.network ∧
            (p.network.connection id).broken = false ∧
            p.shelf.hasRoom p.remote.maxIdle = .ok true) := by
  cases m with
  | took h =>
    obtain ⟨hclosed, hshelf, hclosed'⟩ := Shelf.take_eq_some_iff.mp h
    exact .inr (.inr ⟨hclosed, hclosed', .inl ⟨_, hshelf⟩⟩)
  | missed h => exact .inl (Shelf.take_eq_none_iff.mp h).2.2
  | dialled h =>
    obtain ⟨-, t, -, rfl⟩ := SessionPool.dialNext_ok h
    exact .inl rfl
  | undialled h =>
    obtain ⟨t, -, rfl⟩ := SessionPool.dialNext_error h
    exact .inl rfl
  | kept h =>
    obtain ⟨hclosed, hbroken, hroom, rfl⟩ := Shelf.offer_eq_true_iff.mp h
    exact .inr (.inr ⟨hclosed, hclosed, .inr ⟨_, rfl, rfl, hbroken, hroom⟩⟩)
  | turnedDown h => exact .inl (Shelf.offer_eq_false_iff.mp h).2
  | shut => exact .inr (.inl ⟨rfl, rfl⟩)
  | parted h => exact .inl (by rw [SessionPool.closeConnection_network h])
  | stranded h => exact .inl (by rw [SessionPool.closeConnection_network h])
  | _ => exact .inl rfl

/-! ## The connections after a step -/

theorem Move.dialled_eq (m : Move (p, c) (p', c')) :
    (p.made ≤ p'.made ∧ p'.network.dialled = p.network.dialled) ∨
      p'.made = p.made + 1 ∧ p'.network.dialled = p.network.dialled ++ [p.made] := by
  obtain ⟨-, -, ⟨hmade, t, hseen⟩ | ⟨hmade, d, t, -, -, hused⟩ | ⟨hmade, t, hnew⟩⟩ := m.network_cases
  · exact .inl ⟨hmade, by rw [hseen]; rfl⟩
  · exact .inl ⟨Nat.le_of_eq hmade.symm, by rw [hused]; exact Network.dialled_withConnection p.network d⟩
  · exact .inr ⟨hmade, by rw [hnew]; exact List.map_append⟩

theorem Move.carriers (m : Move (p, c) (p', c')) {d : Connection}
    (hd : d ∈ p'.network.connections) :
    (∃ e ∈ p.network.connections, d.carrier = e.carrier) ∨
      d = Pool.dialled p.remote p.made p.nextScript := by
  obtain ⟨-, -, ⟨-, t, hseen⟩ | ⟨-, e, t, -, hcarrier, hused⟩ | ⟨-, t, hnew⟩⟩ := m.network_cases
  · rw [hseen] at hd
    exact .inl ⟨d, hd, rfl⟩
  · rw [hused] at hd
    exact .inl (Network.carrier_withConnection hcarrier hd)
  · rw [hnew] at hd
    rcases List.mem_append.mp hd with hd | hd
    · exact .inl ⟨d, hd, rfl⟩
    · exact .inr (List.mem_singleton.mp hd)

theorem Move.connection_eq (m : Move (p, c) (p', c')) {id : Id} (hmade : id < p.made)
    (hheld : id ∉ c.held) : p'.network.connection id = p.network.connection id := by
  obtain ⟨-, -, ⟨-, t, hseen⟩ | ⟨-, d, t, rfl, -, hused⟩ | ⟨-, t, hnew⟩⟩ := m.network_cases
  · rw [hseen]
    rfl
  · rw [hused]
    exact Network.connection_withConnection_of_ne fun hid => hheld (List.mem_singleton.mpr hid)
  · rw [hnew]
    exact Network.connection_append_of_ne (n := p.network)
      (c := Pool.dialled p.remote p.made p.nextScript) (Nat.ne_of_lt hmade)

theorem Move.sound (m : Move (p, c) (p', c')) (hs : p.Sound) : p'.Sound := by
  have hsession : ∀ d ∈ p'.network.connections, ∃ info, d.carrier = .session info := by
    intro d hd
    rcases m.carriers hd with ⟨e, he, hcarrier⟩ | rfl
    · rw [hcarrier]
      exact hs.session e he
    · exact ⟨_, rfl⟩
  rcases m.dialled_eq with ⟨hmade, hdialled⟩ | ⟨hmade, hdialled⟩
  · refine ⟨hdialled ▸ hs.distinct, fun id hid => ?_, hsession⟩
    rw [hdialled] at hid
    exact Nat.lt_of_lt_of_le (hs.made id hid) hmade
  · have hnew : p.made ∉ p.network.dialled := fun hid => Nat.lt_irrefl _ (hs.made _ hid)
    refine ⟨?_, fun id hid => ?_, hsession⟩
    · rw [hdialled, List.nodup_append]
      refine ⟨hs.distinct, List.pairwise_singleton _ _, ?_⟩
      rintro id hid _ hlast rfl
      exact hnew (List.mem_singleton.mp hlast ▸ hid)
    · rw [hmade]
      rw [hdialled] at hid
      rcases List.mem_append.mp hid with hid | hid
      · exact Nat.lt_succ_of_lt (hs.made id hid)
      · rw [List.mem_singleton.mp hid]
        exact Nat.lt_succ_self _

theorem Move.provided {limit : Int} (m : Move (p, c) (p', c')) (hp : p.Provided limit) :
    p'.Provided limit := by
  obtain ⟨hremote, hscripts, -⟩ := m.network_cases
  refine ⟨by rw [hremote]; exact hp.limit, by rw [hscripts]; exact hp.scripts, ?_⟩
  intro d hd info hinfo failure hfailure
  rcases m.carriers hd with ⟨e, he, hcarrier⟩ | rfl
  · exact hp.sessions e he info (hcarrier ▸ hinfo) failure hfailure
  · cases hinfo
    have hscript : p.nextScript ∈ p.scripts ∨ p.nextScript = Script.refused := by
      unfold SessionPool.nextScript
      rw [List.getD_eq_getElem?_getD]
      cases hget : p.scripts[p.made]? with
      | none => exact .inr rfl
      | some s => exact .inl (List.mem_of_getElem? hget)
    rcases hscript with hmem | hrefused
    · exact hp.scripts _ hmem failure hfailure
    · rw [hrefused] at hfailure
      cases hfailure

/-! ## The places of a connection -/

/-- How often a connection is with a caller, on the shelf, about to be ended by the caller, or ended. -/
def share (p : SessionPool) (c : Caller) (id : Id) : Nat :=
  c.held.count id + p.shelf.idle.count id + c.due.count id + p.network.parted id

theorem parted_seen (n : Network) (t : Trace) (id : Id) :
    (n.seen t).parted id = n.parted id + partings t id := partings_append n.trace t id

theorem parted_seen_on (n : Network) {t : Trace} {on : Id} (h : t.On on) (id : Id) :
    (n.seen t).parted id = n.parted id := by
  rw [parted_seen, partings_of_on h, Nat.add_zero]

theorem closeConnection_parted {id : Id} {result : Except Failure Unit} (hs : p.Sound)
    (hid : id ∈ p.network.dialled) (h : p.closeConnection id = (result, p')) :
    (∀ id', p'.network.parted id' = p.network.parted id' + [id].count id') ∧
      ∀ limit, p.Provided limit → result = .ok () := by
  have hmem := Network.connection_mem hid
  obtain ⟨info, hinfo⟩ := hs.session _ hmem
  obtain ⟨result', t, hclose, -, hparts, hok⟩ := p.closeConnection_spec hinfo
  rw [hclose] at h
  cases h
  refine ⟨fun id' => ?_, fun limit hp => hok (hp.sessions _ hmem info hinfo)⟩
  rw [parted_seen, hparts]

/-- A session that is ended, whatever comes of that, is gone and no longer due. -/
theorem share_closing {id : Id} (ids : List Id) {result : Except Failure Unit} (hs : p.Sound)
    (hid : id ∈ p.network.dialled) (h : p.closeConnection id = (result, p')) (id' : Id) :
    share p' (.closing ids) id' = share p (.closing (id :: ids)) id' ∧
      p'.network.dialled = p.network.dialled := by
  have hparted := (closeConnection_parted hs hid h).1 id'
  have hcons : ([id] ++ ids).count id' = [id].count id' + ids.count id' := List.count_append
  rw [List.singleton_append] at hcons
  rw [SessionPool.closeConnection_network h] at hparted ⊢
  refine ⟨?_, rfl⟩
  simp only [share, Caller.held, Caller.due, hparted]
  omega

/-- A step moves a connection from one place to another, or sets up a new one. It loses none as long
as the limit is a number and sessions end in one of the ways provided for. -/
theorem Move.share_eq (m : Move (p, c) (p', c')) (hs : p.Sound)
    (hdue : ∀ id ∈ c.due, id ∈ p.network.dialled) :
    ∃ lost : List Id,
      (∀ id, share p' c' id + lost.count id + p.network.dialled.count id =
        share p c id + p'.network.dialled.count id) ∧
      ∀ limit, p.Provided limit → lost = [] := by
  cases m with
  | refused h => exact ⟨[], fun _ => rfl, fun _ _ => rfl⟩
  | took h =>
    obtain ⟨-, hidle, -⟩ := Shelf.take_eq_some_iff.mp h
    refine ⟨[], fun id => ?_, fun _ _ => rfl⟩
    simp only [share, Caller.held, Caller.due, hidle, List.count_append, List.count_nil]
    omega
  | missed h =>
    obtain ⟨-, -, rfl⟩ := Shelf.take_eq_none_iff.mp h
    exact ⟨[], fun _ => rfl, fun _ _ => rfl⟩
  | dialled h =>
    obtain ⟨rfl, t, ht, rfl⟩ := SessionPool.dialNext_ok h
    refine ⟨[], fun id => ?_, fun _ _ => rfl⟩
    have hparted := parted_seen_on p.network ht.on id
    simp only [Network.parted, Network.seen] at hparted
    simp only [share, Caller.held, Caller.due, Network.parted, hparted, Network.dialled,
      List.map_append, List.map_cons, List.map_nil, List.count_append, List.count_nil,
      Pool.dialled]
    omega
  | undialled h =>
    obtain ⟨t, ht, rfl⟩ := SessionPool.dialNext_error h
    refine ⟨[], fun id => ?_, fun _ _ => rfl⟩
    simp only [share, Caller.held, Caller.due, parted_seen_on _ ht.on, List.count_nil]
    rfl
  | used d t hid hcarrier ht =>
    refine ⟨[], fun id => ?_, fun _ _ => rfl⟩
    have hdialled : ((p.network.withConnection d).seen t).dialled = p.network.dialled :=
      Network.dialled_withConnection p.network d
    simp only [share, Caller.held, Caller.due, parted_seen_on _ ht, hdialled, List.count_nil]
    rfl
  | kept h =>
    obtain ⟨-, -, -, rfl⟩ := Shelf.offer_eq_true_iff.mp h
    refine ⟨[], fun id => ?_, fun _ _ => rfl⟩
    simp only [share, Caller.held, Caller.due, List.count_append, List.count_nil]
    omega
  | turnedDown h =>
    obtain ⟨-, rfl⟩ := Shelf.offer_eq_false_iff.mp h
    refine ⟨[], fun id => ?_, fun _ _ => rfl⟩
    simp only [share, Caller.held, Caller.due, List.count_nil]
    omega
  | @unoffered _ id failure h =>
    refine ⟨[id], fun id' => ?_, fun limit hp => ?_⟩
    · simp only [share, Caller.held, Caller.due, List.count_nil]
      omega
    · obtain ⟨-, -, hroom⟩ := Shelf.offer_eq_error_iff.mp h
      rw [p.shelf.hasRoom_integer hp.limit] at hroom
      cases hroom
  | shut =>
    refine ⟨[], fun id => ?_, fun _ _ => rfl⟩
    simp only [share, Caller.held, Caller.due, Shelf.shut, List.count_nil]
    omega
  | @parted _ _ id ids h =>
    refine ⟨[], fun id' => ?_, fun _ _ => rfl⟩
    obtain ⟨hshare, hdialled⟩ := share_closing ids hs (hdue id List.mem_cons_self) h id'
    rw [hshare, hdialled, List.count_nil, Nat.add_zero]
  | @stranded _ _ id ids failure h =>
    have hid := hdue id List.mem_cons_self
    refine ⟨ids, fun id' => ?_, fun limit hp => nomatch (closeConnection_parted hs hid h).2 limit hp⟩
    obtain ⟨hshare, hdialled⟩ := share_closing ids hs hid h id'
    rw [← hshare, hdialled]
    simp only [share, Caller.held, Caller.due, List.count_nil]
    omega
  | finished => exact ⟨[], fun _ => rfl, fun _ _ => rfl⟩
  | remarked notes =>
    refine ⟨[], fun id => ?_, fun _ _ => rfl⟩
    have hquiet : Trace.On id ⟨[], notes⟩ := by simp [Trace.On]
    simp only [share, parted_seen_on _ hquiet]
    rfl

/-! ## The shelf after a step -/

/-- A step keeps the connections on the shelf in good order, when they are not held as well. -/
theorem Move.unbroken (m : Move (p, c) (p', c'))
    (hmade : ∀ id ∈ p.shelf.idle, id < p.made) (hheld : ∀ id ∈ c.held, id ∉ p.shelf.idle)
    (hidle : ∀ id ∈ p.shelf.idle, (p.network.connection id).broken = false) :
    ∀ id ∈ p'.shelf.idle, (p'.network.connection id).broken = false := by
  have hstill : ∀ id ∈ p.shelf.idle, (p'.network.connection id).broken = false := by
    intro id hid
    rw [m.connection_eq (hmade id hid) fun hid' => hheld id hid' hid]
    exact hidle id hid
  intro id hid
  rcases m.shelf_cases with hsame | ⟨-, hnil⟩ | ⟨-, -, ⟨last, hshelf⟩ | ⟨last, hshelf, hnetwork, hlast, -⟩⟩
  · rw [hsame] at hid
    exact hstill id hid
  · rw [hnil] at hid
    cases hid
  · exact hstill id (by rw [hshelf]; exact List.mem_append_left _ hid)
  · rw [hshelf] at hid
    rcases List.mem_append.mp hid with hid | hid
    · exact hstill id hid
    · rw [List.mem_singleton.mp hid, hnetwork]
      exact hlast

theorem Move.room {limit : Int} (m : Move (p, c) (p', c'))
    (hlimit : p.remote.maxIdle.integer? = some limit) (hroom : (p.shelf.idle.length : Int) ≤ limit) :
    (p'.shelf.idle.length : Int) ≤ limit := by
  rcases m.shelf_cases with hsame | ⟨-, hnil⟩ | ⟨-, -, ⟨last, hshelf⟩ | ⟨last, hshelf, -, -, hfree⟩⟩
  · rw [hsame]
    exact hroom
  · rw [hnil, List.length_nil]
    omega
  · rw [hshelf, List.length_append, List.length_singleton] at hroom
    omega
  · rw [p.shelf.hasRoom_integer hlimit] at hfree
    have hlt := of_decide_eq_true (Except.ok.inj hfree)
    rw [hshelf, List.length_append, List.length_singleton]
    omega

/-! ## Crowds -/

namespace Crowd

def held (s : Crowd) : List Id := s.callers.flatMap Caller.held

def due (s : Crowd) : List Id := s.callers.flatMap Caller.due

/-- In how many places a connection is, and how often: with those who hold it, on the shelf, with
those who are about to end it, and gone. -/
def places (s : Crowd) (id : Id) : Nat :=
  s.held.count id + s.pool.shelf.idle.count id + s.due.count id + s.pool.network.parted id

/-- The places of a connection, as far as they are with one caller or the pool, and the rest. -/
theorem places_split (p : SessionPool) (c : Caller) (before after : List Caller) (id : Id) :
    places ⟨p, before ++ c :: after⟩ id =
      share p c id + ((before ++ after).flatMap Caller.held).count id +
        ((before ++ after).flatMap Caller.due).count id := by
  simp only [places, held, due, share, List.flatMap_append, List.flatMap_cons, List.count_append]
  omega

/-- What holds of every crowd that comes of a new pool. -/
structure Custody (s : Crowd) : Prop where
  sound : s.pool.Sound
  places_le : ∀ id, s.places id ≤ s.pool.network.dialled.count id
  unbroken : ∀ id ∈ s.pool.shelf.idle, (s.pool.network.connection id).broken = false
  shut : s.pool.shelf.closed = true → s.pool.shelf.idle = []

theorem custody_fresh (r : Remote) (scripts : List Script) (n : Nat) :
    Custody (fresh r scripts n) where
  sound := ⟨List.nodup_nil, by simp [fresh, Network.dialled], by simp [fresh]⟩
  places_le := by
    intro id
    have hheld : (fresh r scripts n).held = [] := by simp [held, fresh, Caller.held]
    have hdue : (fresh r scripts n).due = [] := by simp [due, fresh, Caller.due]
    rw [places, hheld, hdue]
    simp [fresh, Network.parted, partings]
  unbroken := by simp [fresh]
  shut := by simp [fresh]

theorem Custody.places_le_one {s : Crowd} (h : Custody s) (id : Id) : s.places id ≤ 1 :=
  Nat.le_trans (h.places_le id) (List.nodup_iff_count.mp h.sound.distinct id)

theorem Custody.dialled_of_place {s : Crowd} (h : Custody s) {id : Id} (hplace : 0 < s.places id) :
    id ∈ s.pool.network.dialled :=
  List.count_pos_iff.mp (Nat.lt_of_lt_of_le hplace (h.places_le id))

theorem Custody.dialled_of_idle {s : Crowd} (h : Custody s) {id : Id}
    (hid : id ∈ s.pool.shelf.idle) : id ∈ s.pool.network.dialled := by
  have hcount := List.count_pos_iff.mpr hid
  refine h.dialled_of_place ?_
  rw [places]
  omega

theorem Custody.nodup_idle {s : Crowd} (h : Custody s) : s.pool.shelf.idle.Nodup := by
  refine List.nodup_iff_count.mpr fun id => ?_
  have hone := h.places_le_one id
  rw [places] at hone
  omega

theorem Custody.step {s s' : Crowd} (h : Custody s) (hstep : Step s s') : Custody s' := by
  obtain @⟨p, p', c, c', before, after, m⟩ := hstep
  have hplace : ∀ id, share p c id ≤ places ⟨p, before ++ c :: after⟩ id := by
    intro id
    rw [places_split]
    omega
  have hdue : ∀ id ∈ c.due, id ∈ p.network.dialled := by
    intro id hid
    have hcount := List.count_pos_iff.mpr hid
    exact h.dialled_of_place (Nat.lt_of_lt_of_le (by rw [share]; omega) (hplace id))
  have hmade : ∀ id ∈ p.shelf.idle, id < p.made :=
    fun id hid => h.sound.made id (h.dialled_of_idle hid)
  -- That a connection is in one place at most is what keeps a held one off the shelf.
  have hheld : ∀ id ∈ c.held, id ∉ p.shelf.idle := by
    intro id hid hid'
    have hcount := List.count_pos_iff.mpr hid
    have hcount' := List.count_pos_iff.mpr hid'
    have hone := Nat.le_trans (hplace id) (h.places_le_one id)
    rw [share] at hone
    omega
  refine ⟨m.sound h.sound, fun id => ?_, m.unbroken hmade hheld h.unbroken, fun hclosed => ?_⟩
  · obtain ⟨lost, hshare, -⟩ := m.share_eq h.sound hdue
    have hle := h.places_le id
    have heq := hshare id
    rw [places_split] at hle ⊢
    dsimp only at hle ⊢
    omega
  · rcases m.shelf_cases with hsame | ⟨-, hnil⟩ | ⟨-, hopen, -⟩
    · dsimp only at hclosed ⊢
      rw [hsame] at hclosed ⊢
      exact h.shut hclosed
    · exact hnil
    · exact absurd hclosed (by simp [hopen])

theorem custody_of_reaches {s s' : Crowd} (h : Custody s) (hreach : Reaches s s') : Custody s' := by
  induction hreach with
  | refl => exact h
  | tail _ hstep ih => exact ih.step hstep

/-! ## Nothing lost -/

/-- What holds besides, as long as the limit is a number and sessions end in one of the ways provided
for. -/
structure Accounted (limit : Int) (s : Crowd) : Prop where
  provided : s.pool.Provided limit
  room : (s.pool.shelf.idle.length : Int) ≤ limit
  places_eq : ∀ id, s.places id = s.pool.network.dialled.count id

theorem accounted_fresh {r : Remote} {scripts : List Script} {limit : Int} (n : Nat)
    (hlimit : r.maxIdle.integer? = some limit) (hpositive : 0 ≤ limit)
    (hquit : ∀ script ∈ scripts, ∀ failure,
      script.quitting = some failure → cutsOff failure = true) :
    Accounted limit (fresh r scripts n) where
  provided := ⟨hlimit, hquit, by simp [fresh]⟩
  room := hpositive
  places_eq := fun id => Nat.le_antisymm ((custody_fresh r scripts n).places_le id) (Nat.zero_le _)

theorem Accounted.step {limit : Int} {s s' : Crowd} (h : Accounted limit s) (hc : Custody s)
    (hstep : Step s s') : Accounted limit s' := by
  obtain @⟨p, p', c, c', before, after, m⟩ := hstep
  refine ⟨m.provided h.provided, m.room h.provided.limit h.room, fun id => ?_⟩
  have hdue : ∀ id ∈ c.due, id ∈ p.network.dialled := by
    intro id hid
    have hcount := List.count_pos_iff.mpr hid
    refine hc.dialled_of_place ?_
    rw [places_split, share]
    omega
  obtain ⟨lost, hshare, hlost⟩ := m.share_eq hc.sound hdue
  have hplaces := h.places_eq id
  have heq := hshare id
  rw [hlost limit h.provided, List.count_nil] at heq
  rw [places_split] at hplaces ⊢
  dsimp only at hplaces ⊢
  omega

theorem accounted_of_reaches {limit : Int} {s s' : Crowd} (h : Accounted limit s) (hc : Custody s)
    (hreach : Reaches s s') : Accounted limit s' := by
  induction hreach with
  | refl => exact h
  | tail hreach hstep ih => exact ih.step (custody_of_reaches hc hreach) hstep

/-- A pool that is closed stays closed. -/
theorem closed_of_reaches {s s' : Crowd} (hclosed : s.pool.shelf.closed = true)
    (hreach : Reaches s s') : s'.pool.shelf.closed = true := by
  induction hreach with
  | refl => exact hclosed
  | tail _ hstep ih =>
    obtain @⟨p, p', c, c', before, after, m⟩ := hstep
    rcases m.shelf_cases with hsame | ⟨hclosed', -⟩ | ⟨hopen, -⟩
    · exact (congrArg Shelf.closed hsame).trans ih
    · exact hclosed'
    · exact absurd ih (by simp [hopen])

theorem parted_of_away {s : Crowd} (haway : ∀ c ∈ s.callers, c = .away)
    (hempty : s.pool.shelf.idle = []) (id : Id) : s.pool.network.parted id = s.places id := by
  have hheld : s.held = [] := by
    rw [held, List.flatMap_eq_nil_iff]
    intro c hc
    rw [haway c hc]
    rfl
  have hdue : s.due = [] := by
    rw [due, List.flatMap_eq_nil_iff]
    intro c hc
    rw [haway c hc]
    rfl
  rw [places, hheld, hdue, hempty]
  simp

/-- Closing a pool that nobody uses ends every session that was set up, and ends it once. -/
theorem parted_after_close {r : Remote} {scripts : List Script} {limit : Int}
    (hlimit : r.maxIdle.integer? = some limit) (hpositive : 0 ≤ limit)
    (hquit : ∀ script ∈ scripts, ∀ failure,
      script.quitting = some failure → cutsOff failure = true)
    (ops : List Operation) {id : Id}
    (hid : id ∈ (performAll ops { remote := r, scripts }).close.2.network.dialled) :
    (performAll ops { remote := r, scripts }).close.2.network.parted id = 1 := by
  have hmoves := (performAll_moves ops { remote := r, scripts }).trans (close_moves _)
  have hreach : Reaches (fresh r scripts 1) ⟨_, [.away]⟩ := reaches_of_moves [] [] hmoves
  have hcustody := custody_of_reaches (custody_fresh r scripts 1) hreach
  have haccounted := accounted_of_reaches (accounted_fresh 1 hlimit hpositive hquit)
    (custody_fresh r scripts 1) hreach
  have hempty := congrArg Shelf.idle (performAll ops { remote := r, scripts }).shelf_close
  have haway : ∀ c ∈ [Caller.away], c = .away := by simp
  have hparted := parted_of_away (s := ⟨_, [.away]⟩) haway hempty id
  rw [haccounted.places_eq] at hparted
  exact hparted.trans (hcustody.sound.distinct.count.trans (if_pos hid))

/-- Whatever the order in which any number of callers take their steps, every connection that was set
up is in one place, and there once: one caller holds it, it is on the shelf, one caller is about to
end it, or it was ended. The shelf keeps no more than its limit, none of them broken; once the pool is
closed the shelf is empty for good, and when no caller is in the middle of anything then every
connection was ended once. -/
theorem one_place {r : Remote} {scripts : List Script} {limit : Int} {n : Nat} {s : Crowd}
    (hlimit : r.maxIdle.integer? = some limit) (hpositive : 0 ≤ limit)
    (hquit : ∀ script ∈ scripts, ∀ failure,
      script.quitting = some failure → cutsOff failure = true)
    (hreach : Reaches (fresh r scripts n) s) :
    (∀ id, s.held.count id + s.pool.shelf.idle.count id + s.due.count id + s.pool.network.parted id =
        if id ∈ s.pool.network.dialled then 1 else 0) ∧
      (s.pool.shelf.idle.length : Int) ≤ limit ∧
      (∀ id ∈ s.pool.shelf.idle, (s.pool.network.connection id).broken = false) ∧
      (s.pool.shelf.closed = true → ∀ s', Reaches s s' →
        s'.pool.shelf.closed = true ∧ s'.pool.shelf.idle = []) ∧
      (s.pool.shelf.closed = true → (∀ c ∈ s.callers, c = .away) →
        ∀ id ∈ s.pool.network.dialled, s.pool.network.parted id = 1) := by
  have hcustody := custody_of_reaches (custody_fresh r scripts n) hreach
  have haccounted := accounted_of_reaches (accounted_fresh n hlimit hpositive hquit)
    (custody_fresh r scripts n) hreach
  have hcount : ∀ id, s.pool.network.dialled.count id =
      if id ∈ s.pool.network.dialled then 1 else 0 :=
    fun id => hcustody.sound.distinct.count
  refine ⟨fun id => (haccounted.places_eq id).trans (hcount id), haccounted.room, hcustody.unbroken,
    fun hclosed s' hreach' => ?_, fun hclosed haway id hid => ?_⟩
  · have hclosed' := closed_of_reaches hclosed hreach'
    exact ⟨hclosed', (custody_of_reaches hcustody hreach').shut hclosed'⟩
  · rw [parted_of_away haway (hcustody.shut hclosed), haccounted.places_eq, hcount, if_pos hid]

/-- One caller sets up a session while another closes the pool: the session is ended when it is given
back. -/
theorem one_place_closed_meanwhile :
    ∃ s : Crowd,
      Reaches (fresh { name := .text "files", type := .text "ftp", host := .text "server" } [{}] 2) s ∧
        s.pool.shelf.closed = true ∧ s.callers = [.away, .away] ∧ s.pool.network.dialled = [0] ∧
        s.pool.network.parted 0 = 1 ∧ s.places 0 = 1 := by
  have hmissed : Reaches (fresh { name := .text "files", type := .text "ftp", host := .text "server" }
      [{}] 2) _ := .single (.move [] [.away] (Move.missed rfl))
  have hshut := hmissed.tail (.move [.dialling] [] Move.shut)
  have hdialled := hshut.tail (.move [] [.closing []] (Move.dialled rfl))
  have hoffered := hdialled.tail (.move [] [.closing []] (Move.turnedDown rfl))
  have hclosed := hoffered.tail (.move [.closing [0]] [] Move.finished)
  have hparted := hclosed.tail (.move [] [.away] (Move.parted rfl))
  have hreach := hparted.tail (.move [] [.away] Move.finished)
  obtain ⟨hplaces, -, -, -, hended⟩ :=
    one_place rfl (show (0 : Int) ≤ 4 by decide) (by simp) hreach
  exact ⟨_, hreach, rfl, rfl, rfl, hended rfl (by simp) 0 (by decide), hplaces 0⟩

end Crowd
end FileTransfer.Pool
