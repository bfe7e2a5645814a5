import FileTransfer.Proofs.Session.Conduct

/-!
# One request at a time

A dialogue can be carried out one request at a time, and a reply one line at a time, by a holder that
lets go of its connection in between. Nothing is lost by that: the rest of the dialogue on what is left
of the connection comes to what the whole dialogue would have come to.

* `Holding.readOn`: one line of a reply.
* `Holding.advance`: one request, and the rest of the dialogue.
* `Holding.after`: what was seen before a holding was taken up again.
* `run_advance`, `advance_after`, `strides_advance`: a step loses nothing, does not depend on what was
  seen before it, and does something to its own connection only.
* `advance_induction`: every dialogue comes to its end.
-/

namespace FileTransfer
open FileTransfer.Reply
set_option autoImplicit false

/-- What a dialogue has come to, if it is at its end. -/
def Dialogue.result? {α : Type} : Dialogue α → Option (Except Failure α)
  | .done result => some result
  | _ => none

theorem Dialogue.result?_eq_some {α : Type} {d : Dialogue α} {result : Except Failure α} :
    d.result? = some result ↔ d = .done result := by
  cases d <;> simp [result?]

namespace Session.Holding

variable {α : Type}

/-! ## One line of a reply -/

/-- Reads one more line of a reply. -/
def readOn (h : Holding) (reader : Reader) : Progress × Holding :=
  match h.readLine with
  | (.error failure, h) => (.failed failure, h)
  | (.ok line, h) =>
    match reader.feed line with
    | .failed failure =>
      (.failed failure, { h with connection := h.connection.breakIf (breaksExchange failure) })
    | progress => (progress, h)

/-- Reading a reply is reading it line by line. -/
theorem receive_eq_readOn (h : Holding) (reader : Reader) :
    h.receive reader =
      match h.readOn reader with
      | (.more reader', h') => h'.receive reader'
      | (.complete r, h') => (.ok r, h')
      | (.failed failure, h') => (.error failure, h') := by
  obtain ⟨⟨id, carrier, replies, sends, transfers, broken⟩, stream, trace⟩ := h
  cases replies with
  | nil => rfl
  | cons incoming rest =>
    cases incoming with
    | error failure => rfl
    | ok line =>
      cases hfeed : reader.feed line with
      | failed failure =>
        simp only [receive, readOn, readLine, Reader.run, List.headD_cons, hfeed, seen,
          Connection.breakIf, Bool.or_false]
        rfl
      | complete r =>
        simp only [receive, readOn, readLine, Reader.run, List.headD_cons, hfeed]
        rfl
      | more reader' =>
        simp only [receive, readOn, readLine, Reader.run, List.headD_cons, hfeed, seen,
          Connection.breakIf, Bool.or_false, Trace.append_assoc]
        rfl

/-! ## One request of a dialogue -/

/-- Carries out the next request of a dialogue, or reads the next line of the reply it waits for. -/
def advance : Dialogue α → Holding → Dialogue α × Holding
  | .done result, h => (.done result, h)
  | .send line next, h => let (r, h) := h.send line; (next r, h)
  | .receive reader next, h =>
    match h.readOn reader with
    | (.more reader', h) => (.receive reader' next, h)
    | (.complete r, h) => (next (.ok r), h)
    | (.failed failure, h) => (next (.error failure), h)
  | .openData next, h => let (r, h) := h.openData; (next r, h)
  | .readData next, h => let (r, h) := h.readData; (next r, h)
  | .closeData next, h => let (r, h) := h.closeData; (next r, h)
  | .note text next, h => (next, h.note text)

/-- What is left of a dialogue comes to what the dialogue comes to. -/
theorem run_advance (d : Dialogue α) (h : Holding) : run (advance d h).1 (advance d h).2 = run d h := by
  cases d with
  | receive reader next =>
    rw [run, receive_eq_readOn, advance]
    rcases h.readOn reader with ⟨reader' | r | failure, h'⟩
    · rw [run]
    · rfl
    · rfl
  | _ => rfl

/-- What holds at the end of a dialogue, and before a step whenever it holds after it, holds of every
dialogue: each step takes a request away, or a line that is still to come. -/
theorem advance_induction {P : Dialogue α → Holding → Prop}
    (done : ∀ (result : Except Failure α) (h : Holding), P (.done result) h)
    (step : ∀ (d : Dialogue α) (h : Holding), d.result? = none →
      P (advance d h).1 (advance d h).2 → P d h) (d : Dialogue α) (h : Holding) : P d h := by
  induction d generalizing h with
  | done result => exact done result h
  | send line next ih => exact step _ h rfl (ih _ _)
  | openData next ih => exact step _ h rfl (ih _ _)
  | readData next ih => exact step _ h rfl (ih _ _)
  | closeData next ih => exact step _ h rfl (ih _ _)
  | note text next ih => exact step _ h rfl (ih _)
  | receive reader next ih =>
    -- The inner induction is on the lines that are still to come.
    generalize hreplies : h.connection.replies = replies
    induction replies generalizing h reader with
    | nil =>
      refine step _ h rfl ?_
      rw [advance, readOn, readLine, hreplies]
      exact ih _ _
    | cons incoming rest ih' =>
      refine step _ h rfl ?_
      rw [advance, readOn, readLine, hreplies, List.headD_cons]
      cases incoming with
      | error failure => exact ih _ _
      | ok line =>
        dsimp only
        cases reader.feed line with
        | more reader' => exact ih' _ _ rfl
        | complete r => exact ih _ _
        | failed failure => exact ih _ _

/-! ## What was seen before -/

/-- The holding as if a stretch of time had been seen before it. -/
def after (h : Holding) (t : Trace) : Holding := { h with trace := t ++ h.trace }

section After
variable (h : Holding) (t : Trace)

theorem seen_after (u : Trace) : (h.after t).seen u = (h.seen u).after t := by
  rw [seen, seen, after, after, Trace.append_assoc]

theorem note_after (text : String) : (h.after t).note text = (h.note text).after t :=
  seen_after h t _

theorem send_after (line : String) :
    (h.after t).send line = ((h.send line).1, (h.send line).2.after t) := by
  simp only [send, did, seen_after]
  rfl

theorem readLine_after : (h.after t).readLine = (h.readLine.1, h.readLine.2.after t) := by
  simp only [readLine, seen_after]
  rfl

theorem readOn_after (reader : Reader) :
    (h.after t).readOn reader = ((h.readOn reader).1, (h.readOn reader).2.after t) := by
  rw [readOn, readOn, readLine_after]
  rcases h.readLine with ⟨failure | line, h'⟩
  · rfl
  · dsimp only
    rcases reader.feed line with reader' | r | failure <;> rfl

theorem openData_after : (h.after t).openData = (h.openData.1, h.openData.2.after t) := by
  cases hcarrier : h.connection.carrier with
  | direct =>
    cases hopening : h.connection.nextTransfer.opening with
    | some failure => simp only [openData, hcarrier, hopening, did, seen, after, Trace.append_assoc]
    | none => simp only [openData, hcarrier, hopening, did, seen, after, Trace.append_assoc]
  | session info =>
    cases hopening : h.connection.nextTransfer.opening with
    | some failure => simp only [openData, hcarrier, hopening, did, seen, after, Trace.append_assoc]
    | none =>
      cases hconnecting : h.connection.nextTransfer.connecting with
      | some failure =>
        simp only [openData, hcarrier, hopening, hconnecting, did, seen, after, Trace.append_assoc]
      | none =>
        simp only [openData, hcarrier, hopening, hconnecting, did, seen, after, Trace.append_assoc]

theorem readData_after : (h.after t).readData = (h.readData.1, h.readData.2.after t) := by
  have hstream : (h.after t).stream = h.stream := rfl
  rw [readData, readData, hstream]
  cases h.stream with
  | none => rfl
  | some s =>
    simp only [seen_after]
    rfl

theorem closeData_after : (h.after t).closeData = (h.closeData.1, h.closeData.2.after t) := by
  have hstream : (h.after t).stream = h.stream := rfl
  rw [closeData, closeData, hstream]
  cases h.stream with
  | none => rfl
  | some s =>
    simp only [seen_after]
    rfl

/-- A step does not depend on what was seen before it. -/
theorem advance_after (d : Dialogue α) :
    advance d (h.after t) = ((advance d h).1, (advance d h).2.after t) := by
  cases d with
  | done result => rfl
  | send line next => rw [advance, advance, send_after]
  | receive reader next =>
    rw [advance, advance, readOn_after]
    rcases h.readOn reader with ⟨reader' | r | failure, h'⟩ <;> rfl
  | openData next => rw [advance, advance, openData_after]
  | readData next => rw [advance, advance, readData_after]
  | closeData next => rw [advance, advance, closeData_after]
  | note text next => rw [advance, advance, note_after]

theorem run_after (d : Dialogue α) :
    run d (h.after t) = ((run d h).1, (run d h).2.after t) := by
  induction d, h using advance_induction with
  | done result h => rfl
  | step d h hleft ih => rw [← run_advance d h, ← ih, ← run_advance d (h.after t), advance_after]

end After

/-- The holding as if nothing had been seen before. -/
def bare (h : Holding) : Holding := { connection := h.connection, stream := h.stream }

theorem bare_after (h : Holding) : h.bare.after h.trace = h := by
  have htrace : h.trace ++ {} = h.trace := Trace.append_empty h.trace
  exact congrArg (Holding.mk h.connection h.stream) htrace

theorem advance_bare (d : Dialogue α) (h : Holding) :
    advance d h = ((advance d h.bare).1, (advance d h.bare).2.after h.trace) := by
  rw [← advance_after, bare_after]

theorem run_bare (d : Dialogue α) (h : Holding) :
    run d h = ((run d h.bare).1, (run d h.bare).2.after h.trace) := by
  rw [← run_after, bare_after]

/-! ## What a step leaves behind -/

/-- What a step makes of a holding: the same connection, and something seen of it and of no other. -/
structure Strides (h h' : Holding) : Prop where
  id_eq : h'.connection.id = h.connection.id
  carrier_eq : h'.connection.carrier = h.connection.carrier
  tied : h'.Tied
  traced : ∃ added : Trace, h'.trace = h.trace ++ added ∧ added.On h.connection.id

theorem Advances.strides {h h' : Holding} {ts : List Turn} (ha : h.Advances ts h') : h.Strides h' where
  id_eq := ha.id_eq
  carrier_eq := ha.carrier_eq
  tied := ha.tied
  traced := by
    obtain ⟨added, htrace, hon, -⟩ := ha.traced
    exact ⟨added, htrace, hon⟩

theorem strides_readOn (h : Holding) (htied : h.Tied) (reader : Reader) :
    h.Strides (h.readOn reader).2 := by
  have hline : h.Strides h.readLine.2 := by
    refine ⟨rfl, rfl, htied, _, rfl, fun e he => ?_⟩
    obtain ⟨line, -, rfl⟩ := List.mem_map.mp he
    exact ⟨rfl, nofun⟩
  rw [readOn]
  rcases hread : h.readLine with ⟨failure | line, h'⟩
  · rw [hread] at hline
    exact hline
  · rw [hread] at hline
    dsimp only
    split
    · exact ⟨hline.id_eq, hline.carrier_eq, hline.tied, hline.traced⟩
    · exact hline

theorem strides_advance (d : Dialogue α) (h : Holding) (htied : h.Tied) :
    h.Strides (advance d h).2 := by
  cases d with
  | done result => exact (Advances.refl htied).strides
  | send line next => exact (advances_send h htied line).strides
  | receive reader next =>
    have hread := strides_readOn h htied reader
    rw [advance]
    rcases hstep : h.readOn reader with ⟨reader' | r | failure, h'⟩ <;> rw [hstep] at hread <;>
      exact hread
  | openData next => exact (advances_openData h htied).strides
  | readData next => exact (advances_readData h htied).strides
  | closeData next => exact (advances_closeData h htied).strides
  | note text next => exact (advances_note h htied text).strides

end Session.Holding
end FileTransfer
