import FileTransfer.Proofs.Session.DataChannel

/-!
# What a holder does

Carrying out a dialogue on a connection takes the turns of one of its courses. What the turns leave
behind is all that later holders of the connection can meet with: its state, and what was seen of it.

* `Holding.turns`, `course_turns`: the turns that a dialogue takes on a connection.
* `Connection.Orderly`, `Holding.Orderly`: the failures laid down are of the classes provided for.
* `Holding.Advances`, `advances_run`: what the turns of a dialogue leave behind.
-/

namespace FileTransfer.Session
open FileTransfer.Reply
set_option autoImplicit false

/-! ## Failures that are provided for -/

/-- Sending fails with the channel, reading with the channel or the session. -/
structure Connection.Orderly (c : Connection) : Prop where
  replies : ∀ failure, .error failure ∈ c.replies →
    failure.isFault (fun f => f.isOutage || f.isSession) = true
  sends : ∀ failure, some failure ∈ c.sends → failure.isFault Fault.isOutage = true
  transfers : ∀ t ∈ c.transfers, t.Orderly

theorem Connection.Orderly.nextTransfer {c : Connection} (h : c.Orderly) :
    c.nextTransfer.Orderly := by
  unfold Connection.nextTransfer
  cases htransfers : c.transfers with
  | nil => exact .empty
  | cons t ts => exact h.transfers t (by rw [htransfers]; exact List.mem_cons_self)

namespace Holding
variable {α β : Type}

/-! ## The turns of a dialogue -/

/-- The failure with which a server refuses the next data channel; only a session asks for one. -/
def refusal (c : Connection) : Option Failure :=
  match c.carrier with
  | .direct => none
  | .session _ => c.nextTransfer.opening

/-- The turns that a dialogue takes on a connection. -/
def turns : Dialogue α → Holding → List Turn
  | .done _, _ => []
  | .send line next, h => .sent line (h.send line).1 :: turns (next (h.send line).1) (h.send line).2
  | .receive reader next, h =>
    .received reader h.connection.replies ::
      turns (next (h.receive reader).1) (h.receive reader).2
  | .openData next, h =>
    .opened (refusal h.connection) h.openData.1 :: turns (next h.openData.1) h.openData.2
  | .readData next, h => .drained h.readData.1 :: turns (next h.readData.1) h.readData.2
  | .closeData next, h => .closed h.closeData.1 :: turns (next h.closeData.1) h.closeData.2
  | .note text next, h => .noted text :: turns next (h.note text)

theorem openData_refused (h : Holding) (hrefused : (refusal h.connection).isSome) :
    h.openData.1 ≠ .ok () := by
  cases hcarrier : h.connection.carrier with
  | direct => simp [refusal, hcarrier] at hrefused
  | session info =>
    rw [refusal, hcarrier] at hrefused
    obtain ⟨failure, hopening⟩ := Option.isSome_iff_exists.mp hrefused
    have hfailure : h.connection.nextTransfer.opening = some failure := hopening
    simp [openData, hcarrier, hfailure]

/-- A dialogue takes the turns of one of its courses, and comes to its result. -/
theorem course_turns (d : Dialogue α) (h : Holding) : d.Course (turns d h) (run d h).1 := by
  induction d generalizing h with
  | done result => exact .done result
  | send line next ih => exact .send _ (ih _ _)
  | receive reader next ih => exact .receive _ (ih _ _)
  | openData next ih => exact .openData _ _ (openData_refused h) (ih _ _)
  | readData next ih => exact .readData _ (ih _ _)
  | closeData next ih => exact .closeData _ (ih _ _)
  | note text next ih => exact .note (ih _)

/-! ## What the turns leave behind -/

/-- The data channel open on a connection is one of its own. -/
def Tied (h : Holding) : Prop := ∀ s, h.stream = some s → s.connection = h.connection.id

theorem tied_new (c : Connection) : Tied { connection := c } := by simp [Tied]

/-- The failures laid down for a connection and for the data channel open on it are provided for. -/
structure Orderly (h : Holding) : Prop where
  connection : h.connection.Orderly
  stream : ∀ s, h.stream = some s → s.transfer.Orderly

/-- What the turns `ts` leave behind of a holding: the same connection, broken if a turn broke it,
and seen to have done what passed in the turns. -/
structure Advances (h : Holding) (ts : List Turn) (h' : Holding) : Prop where
  id_eq : h'.connection.id = h.connection.id
  carrier_eq : h'.connection.carrier = h.connection.carrier
  broken_eq : h'.connection.broken = (h.connection.broken || ts.any Turn.breaks)
  tied : h'.Tied
  traced : ∃ added : Trace, h'.trace = h.trace ++ added ∧ added.On h.connection.id ∧
    added.control = ts.flatMap Turn.control
  orderly : h.Orderly → h'.Orderly ∧ ∀ t ∈ ts, t.Orderly

namespace Advances

theorem refl {h : Holding} (htied : h.Tied) : h.Advances [] h where
  id_eq := rfl
  carrier_eq := rfl
  broken_eq := by simp
  tied := htied
  traced := ⟨{}, (Trace.append_empty _).symm, (Trace.Aside.empty _).on, rfl⟩
  orderly := fun ho => ⟨ho, by simp⟩

theorem trans {h h' h'' : Holding} {ts us : List Turn} (h₁ : h.Advances ts h')
    (h₂ : h'.Advances us h'') : h.Advances (ts ++ us) h'' where
  id_eq := h₂.id_eq.trans h₁.id_eq
  carrier_eq := h₂.carrier_eq.trans h₁.carrier_eq
  broken_eq := by rw [h₂.broken_eq, h₁.broken_eq, List.any_append, Bool.or_assoc]
  tied := h₂.tied
  traced := by
    obtain ⟨a, ha, hon, hcontrol⟩ := h₁.traced
    obtain ⟨b, hb, hon', hcontrol'⟩ := h₂.traced
    rw [h₁.id_eq] at hon'
    refine ⟨a ++ b, by rw [hb, ha, Trace.append_assoc], hon.append hon', ?_⟩
    rw [Trace.control_append, hcontrol, hcontrol', List.flatMap_append]
  orderly := fun ho => by
    obtain ⟨ho', hts⟩ := h₁.orderly ho
    obtain ⟨ho'', hus⟩ := h₂.orderly ho'
    exact ⟨ho'', fun t ht => (List.mem_append.mp ht).elim (hts t) (hus t)⟩

end Advances

theorem advances_note (h : Holding) (htied : h.Tied) (text : String) :
    h.Advances [.noted text] (h.note text) where
  id_eq := rfl
  carrier_eq := rfl
  broken_eq := by simp [note, seen, Turn.breaks]
  tied := htied
  traced := ⟨⟨[], _⟩, rfl, by simp [Trace.On], rfl⟩
  orderly := fun ho => ⟨⟨ho.connection, ho.stream⟩, by simp [Turn.Orderly]⟩

theorem advances_send (h : Holding) (htied : h.Tied) (line : String) :
    h.Advances [.sent line (h.send line).1] (h.send line).2 where
  id_eq := rfl
  carrier_eq := rfl
  broken_eq := by
    simp only [send, did, seen, Connection.breakIf, List.any_cons, List.any_nil, Bool.or_false]
    cases h.connection.sends.headD none <;> rfl
  tied := htied
  traced := ⟨⟨[h.connection.event (.send line)], []⟩, rfl, by simp [Trace.On, Connection.event], rfl⟩
  orderly := fun ho => by
    have hsends := ho.connection.sends
    refine ⟨⟨⟨ho.connection.replies, ?_, ho.connection.transfers⟩, ho.stream⟩, ?_⟩
    · exact fun failure hmem => hsends failure (List.mem_of_mem_drop hmem)
    · intro t ht
      rw [List.mem_singleton.mp ht]
      intro failure hfailure
      have hhead : h.connection.sends.headD none = some failure := outcome_eq_error_iff.mp hfailure
      cases hqueue : h.connection.sends with
      | nil => simp [hqueue] at hhead
      | cons failure? queue =>
        rw [hqueue, List.headD_cons] at hhead
        exact hsends failure (by rw [hqueue, hhead]; exact List.mem_cons_self)

theorem advances_receive (h : Holding) (htied : h.Tied) (reader : Reader) :
    h.Advances [.received reader h.connection.replies] (h.receive reader).2 where
  id_eq := rfl
  carrier_eq := rfl
  broken_eq := by
    simp only [receive, seen, Connection.breakIf, List.any_cons, List.any_nil, Bool.or_false]
    rfl
  tied := htied
  traced := by
    refine ⟨readTrace h.connection (reader.run h.connection.replies).seen, rfl, ?_, ?_⟩
    · intro e he
      obtain ⟨line, -, rfl⟩ := List.mem_map.mp he
      exact ⟨rfl, nofun⟩
    · simp only [Trace.control, readTrace, List.filterMap_map, Turn.control, List.flatMap_cons,
        List.flatMap_nil, List.append_nil]
      congr 1
      funext incoming
      cases incoming <;> rfl
  orderly := fun ho => by
    have hreplies := ho.connection.replies
    refine ⟨⟨⟨?_, ho.connection.sends, ho.connection.transfers⟩, ho.stream⟩, ?_⟩
    · exact fun failure hmem => hreplies failure ((rest_suffix _ _).mem hmem)
    · intro t ht
      rw [List.mem_singleton.mp ht]
      exact hreplies

theorem openData_spec (h : Holding) :
    h.openData.2.connection =
        { h.connection with
          transfers := h.connection.transfers.drop 1
          broken := h.connection.broken || (refusal h.connection).any (·.isFault Fault.isOutage) } ∧
      (h.openData.2.stream = h.stream ∨ ∃ socket,
        h.openData.2.stream = some ⟨h.connection.id, h.connection.nextTransfer, socket⟩) ∧
      ∃ added : Trace, h.openData.2.trace = h.trace ++ added ∧ added.Aside h.connection.id := by
  cases hcarrier : h.connection.carrier with
  | direct =>
    have hevent : Trace.Aside h.connection.id ⟨[h.connection.event .openData], []⟩ :=
      .single [] nofun rfl
    cases hopening : h.connection.nextTransfer.opening with
    | some failure =>
      simp only [openData, hcarrier, hopening, refusal, Option.any_none, Bool.or_false]
      exact ⟨trivial, .inl rfl, _, rfl, hevent⟩
    | none =>
      simp only [openData, hcarrier, hopening, refusal, Option.any_none, Bool.or_false]
      exact ⟨trivial, .inr ⟨none, rfl⟩, _, rfl, hevent⟩
  | session info =>
    have hask : Trace.Aside h.connection.id ⟨[h.connection.event .askPassive], []⟩ :=
      .single [] nofun rfl
    cases hopening : h.connection.nextTransfer.opening with
    | some failure =>
      simp only [openData, hcarrier, hopening, refusal, Option.any_some]
      exact ⟨rfl, .inl rfl, _, rfl, hask⟩
    | none =>
      have hconnect : Trace.Aside h.connection.id ⟨[h.connection.event (.connectData
          (dataAddress h.connection.id).1 (dataAddress h.connection.id).2 info.timeout)], []⟩ :=
        .single [] nofun rfl
      have hevents := hask.append hconnect
      cases hconnecting : h.connection.nextTransfer.connecting with
      | some failure =>
        simp only [openData, hcarrier, hopening, hconnecting, refusal, Option.any_none,
          Bool.or_false]
        exact ⟨rfl, .inl rfl, _, Trace.append_assoc .., hevents⟩
      | none =>
        simp only [openData, hcarrier, hopening, hconnecting, refusal, Option.any_none,
          Bool.or_false]
        exact ⟨rfl, .inr ⟨_, rfl⟩, _, Trace.append_assoc .., hevents⟩

theorem advances_openData (h : Holding) (htied : h.Tied) :
    h.Advances [.opened (refusal h.connection) h.openData.1] h.openData.2 := by
  obtain ⟨hconnection, hstream, added, htrace, haside⟩ := h.openData_spec
  refine ⟨by rw [hconnection], by rw [hconnection], ?_, ?_, ⟨added, htrace, haside.on, haside.control⟩, ?_⟩
  · rw [hconnection, List.any_cons, List.any_nil, Bool.or_false, Turn.breaks]
  · intro s hs
    rw [hconnection]
    rcases hstream with hsame | ⟨socket, hnew⟩
    · exact htied s (hsame ▸ hs)
    · rw [hnew] at hs
      cases hs
      rfl
  · intro ho
    have htransfers := ho.connection.transfers
    refine ⟨⟨?_, ?_⟩, by simp [Turn.Orderly]⟩
    · rw [hconnection]
      exact ⟨ho.connection.replies, ho.connection.sends,
        fun t ht => htransfers t (List.mem_of_mem_drop ht)⟩
    · intro s hs
      rcases hstream with hsame | ⟨socket, hnew⟩
      · exact ho.stream s (hsame ▸ hs)
      · rw [hnew] at hs
        cases hs
        exact ho.connection.nextTransfer

theorem advances_readData (h : Holding) (htied : h.Tied) :
    h.Advances [.drained h.readData.1] h.readData.2 := by
  cases hstream : h.stream with
  | none =>
    have hread : h.readData = (([], none), h) := by simp only [readData, hstream]
    rw [hread]
    refine ⟨rfl, rfl, by simp [Turn.breaks], htied, ?_, fun ho => ⟨ho, by simp [Turn.Orderly]⟩⟩
    exact ⟨{}, (Trace.append_empty _).symm, (Trace.Aside.empty _).on, rfl⟩
  | some s =>
    obtain ⟨hid, haside, horderly⟩ := s.read_spec
    rw [htied s hstream] at hid haside
    have hread : h.readData = (s.read.1, { h.seen s.read.2.2 with stream := some s.read.2.1 }) := by
      simp only [readData, hstream]
    rw [hread]
    refine ⟨rfl, rfl, by simp [seen, Turn.breaks], ?_, ⟨_, rfl, haside.on, haside.control⟩, ?_⟩
    · rintro _ ⟨⟩
      exact hid
    · intro ho
      obtain ⟨hrest, hturn⟩ := horderly (ho.stream s hstream)
      refine ⟨⟨ho.connection, ?_⟩, by simpa using hturn⟩
      rintro _ ⟨⟩
      exact hrest

theorem advances_closeData (h : Holding) (htied : h.Tied) :
    h.Advances [.closed h.closeData.1] h.closeData.2 := by
  cases hstream : h.stream with
  | none =>
    have hclose : h.closeData = (.ok (), h) := by simp only [closeData, hstream]
    rw [hclose]
    refine ⟨rfl, rfl, by simp [Turn.breaks], htied, ?_, fun ho => ⟨ho, by simp [Turn.Orderly]⟩⟩
    exact ⟨{}, (Trace.append_empty _).symm, (Trace.Aside.empty _).on, rfl⟩
  | some s =>
    obtain ⟨hid, haside, horderly⟩ := s.close_spec
    rw [htied s hstream] at hid haside
    have hclose : h.closeData =
        (s.close.1, { h.seen s.close.2.2 with stream := some s.close.2.1 }) := by
      simp only [closeData, hstream]
    rw [hclose]
    refine ⟨rfl, rfl, by simp [seen, Turn.breaks], ?_, ⟨_, rfl, haside.on, haside.control⟩, ?_⟩
    · rintro _ ⟨⟩
      exact hid
    · intro ho
      obtain ⟨hrest, hturn⟩ := horderly (ho.stream s hstream)
      refine ⟨⟨ho.connection, ?_⟩, by simpa using hturn⟩
      rintro _ ⟨⟩
      exact hrest

/-- What a dialogue leaves behind is what its turns leave behind, one after the other. -/
theorem advances_run (d : Dialogue α) (h : Holding) (htied : h.Tied) :
    h.Advances (turns d h) (run d h).2 := by
  -- Each turn keeps the holding tied, which is what the next turn asks for.
  induction d generalizing h with
  | done result => exact .refl htied
  | send line next ih =>
    have hstep := advances_send h htied line
    exact hstep.trans (ih _ _ hstep.tied)
  | receive reader next ih =>
    have hstep := advances_receive h htied reader
    exact hstep.trans (ih _ _ hstep.tied)
  | openData next ih =>
    have hstep := advances_openData h htied
    exact hstep.trans (ih _ _ hstep.tied)
  | readData next ih =>
    have hstep := advances_readData h htied
    exact hstep.trans (ih _ _ hstep.tied)
  | closeData next ih =>
    have hstep := advances_closeData h htied
    exact hstep.trans (ih _ _ hstep.tied)
  | note text next ih =>
    have hstep := advances_note h htied text
    exact hstep.trans (ih _ hstep.tied)

end Holding
end FileTransfer.Session
