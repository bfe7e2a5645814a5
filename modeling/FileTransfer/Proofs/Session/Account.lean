import FileTransfer.Proofs.Session.Passage

/-!
# The account of a dialogue

Each turn that a dialogue takes on a connection, with what was seen of it. The turns tell what the
holder asked for, and in which order; the events tell what became of that on the connection.

* `Holding.account`: the turns of a dialogue and the events of each.
* `Turn.leaves`, `Turn.Leaves`: the events that a turn can leave.
* `account_turns`, `account_events`: an account is of all the turns, and of all that was seen.
* `records_account`: each turn leaves events of its own kind, and a data channel that was opened is
  ended by its closing, and only by that.
-/

namespace FileTransfer
open FileTransfer.Session
set_option autoImplicit false

/-! ## What a turn leaves -/

/-- Whether an action ends a data channel. -/
def Session.Action.endsData : Action → Bool
  | .closeData | .closeSocket => true
  | _ => false

namespace Turn

/-- The actions that a turn can be seen by. -/
def leaves : Turn → Action → Prop
  | .sent line _, a => a = .send line
  | .received .., a => ∃ line, a = .read line
  | .opened .., a =>
    a = .openData ∨ a = .askPassive ∨ ∃ host port timeout, a = .connectData host port timeout
  | .drained _, a => (∃ host, a = .wrap host) ∨ ∃ encoding, a = .openReader encoding
  | .closed _, a => a = .closeReader ∨ a = .unwrap ∨ a.endsData = true
  | .noted _, _ => False

def opensData : Turn → Bool
  | .opened _ (.ok _) => true
  | _ => false

def closesData : Turn → Bool
  | .closed _ => true
  | _ => false

/-- The events `es` are what a turn on a connection leaves, on which a data channel is or is not
`opened` already. The last event of closing an open channel is the only one that ends it. -/
structure Leaves (id : Id) (opened : Bool) (t : Turn) (es : List Event) : Prop where
  on : ∀ e ∈ es, e.connection = id ∧ t.leaves e.action
  ends : t.closesData = true → opened = true → ∃ front last, es = front ++ [last] ∧
    last.action.endsData = true ∧ ∀ e ∈ front, e.action.endsData = false

/-- A turn that closes no data channel ends none. -/
theorem Leaves.of_open {id : Id} {opened : Bool} {t : Turn} {es : List Event}
    (hclosed : t.closesData = false) (hon : ∀ e ∈ es, e.connection = id ∧ t.leaves e.action) :
    Leaves id opened t es :=
  ⟨hon, fun h => Bool.noConfusion (h.symm.trans hclosed)⟩

theorem endsData_of_leaves {t : Turn} {a : Action} (h : t.leaves a)
    (hclosed : t.closesData = false) : a.endsData = false := by
  cases t with
  | sent line answer =>
    obtain rfl : a = .send line := h
    rfl
  | received reader queue =>
    obtain ⟨line, rfl⟩ := h
    rfl
  | opened refusal answer =>
    obtain rfl | rfl | ⟨host, port, timeout, rfl⟩ := h <;> rfl
  | drained answer => obtain ⟨host, rfl⟩ | ⟨encoding, rfl⟩ := h <;> rfl
  | closed answer => cases hclosed
  | noted text => cases h

end Turn

/-- Every turn of an account leaves events of its own kind. -/
def Records (id : Id) : Bool → List (Turn × List Event) → Prop
  | _, [] => True
  | opened, (t, es) :: entries => t.Leaves id opened es ∧ Records id (opened || t.opensData) entries

/-! ## Data channels -/

namespace Session.Stream

theorem read_leaves (s : Stream) (answer : Drained) :
    ∀ e ∈ s.read.2.2.events, e.connection = s.connection ∧ (Turn.drained answer).leaves e.action := by
  have hsecure : ∀ socket, ∀ e ∈ (s.secure socket).2.events,
      e.connection = s.connection ∧ (Turn.drained answer).leaves e.action := by
    intro socket e he
    unfold secure at he
    split at he
    · split at he <;> rw [List.mem_singleton.mp he] <;> exact ⟨rfl, .inl ⟨_, rfl⟩⟩
    · cases he
  unfold read
  split
  case h_1 => simp
  case h_2 socket hsocket =>
    split
    case h_1 decoder hreader => simp
    case h_2 hreader =>
      have hsecured := hsecure socket
      split
      case h_1 failure trace heq =>
        rw [heq] at hsecured
        exact hsecured
      case h_2 socket' trace heq =>
        rw [heq] at hsecured
        have hopened : ∀ e ∈ (trace ++ s.event (.openReader socket'.encoding)).events,
            e.connection = s.connection ∧ (Turn.drained answer).leaves e.action := by
          intro e he
          rcases List.mem_append.mp he with he | he
          · exact hsecured e he
          · rw [List.mem_singleton.mp he]
            exact ⟨rfl, .inr ⟨_, rfl⟩⟩
        dsimp only
        split <;> exact hopened

theorem closeUpper_leaves (s : Stream) (socket : Socket) :
    ∀ e ∈ (s.closeUpper socket).2.2.events,
      e.connection = s.connection ∧ (e.action = .closeReader ∨ e.action = .unwrap) := by
  have hreader : ∀ e ∈ (s.closeReader socket).2.events,
      e.connection = s.connection ∧ e.action = .closeReader := by
    intro e he
    unfold closeReader at he
    split at he
    · split at he <;> rw [List.mem_singleton.mp he] <;> exact ⟨rfl, rfl⟩
    · cases he
  have hsecurity : ∀ socket', ∀ e ∈ (s.unsecure socket').2.events,
      e.connection = s.connection ∧ e.action = .unwrap := by
    intro socket' e he
    unfold unsecure at he
    split at he
    · rw [List.mem_singleton.mp he]
      exact ⟨rfl, rfl⟩
    · cases he
  unfold closeUpper
  split
  case h_1 failure trace heq =>
    rw [heq] at hreader
    exact fun e he => ⟨(hreader e he).1, .inl (hreader e he).2⟩
  case h_2 socket' trace heq =>
    rw [heq] at hreader
    intro e he
    rcases List.mem_append.mp he with he | he
    · exact ⟨(hreader e he).1, .inl (hreader e he).2⟩
    · exact ⟨(hsecurity socket' e he).1, .inr (hsecurity socket' e he).2⟩

theorem close_leaves (s : Stream) (answer : Except Failure Unit) :
    (Turn.closed answer).Leaves s.connection true s.close.2.2.events := by
  -- The channel itself is closed last, after the reader and the security on top of it.
  have hends : ∃ front last, s.close.2.2.events = front ++ [last] ∧
      (last.connection = s.connection ∧ last.action.endsData = true) ∧
      ∀ e ∈ front, e.connection = s.connection ∧ (e.action = .closeReader ∨ e.action = .unwrap) := by
    unfold close
    split
    · exact ⟨[], _, rfl, ⟨rfl, rfl⟩, by simp⟩
    · next socket _ => exact ⟨_, _, rfl, ⟨rfl, rfl⟩, s.closeUpper_leaves socket⟩
  obtain ⟨front, last, hevents, ⟨hon, hlast⟩, hfront⟩ := hends
  constructor
  · intro e he
    rw [hevents] at he
    rcases List.mem_append.mp he with he | he
    · exact ⟨(hfront e he).1, (hfront e he).2.imp_right .inl⟩
    · rw [List.mem_singleton.mp he]
      exact ⟨hon, .inr (.inr hlast)⟩
  · intro _ _
    refine ⟨front, last, hevents, hlast, fun e he => ?_⟩
    obtain hreader | hsecurity := (hfront e he).2
    · rw [hreader]
      rfl
    · rw [hsecurity]
      rfl

end Session.Stream

/-! ## Accounts -/

namespace Session.Holding
variable {α : Type}

/-- What was seen of a holding since it was `h`. -/
def since (h h' : Holding) : List Event := h'.trace.events.drop h.trace.events.length

/-- The turns that a dialogue takes on a connection, with what was seen of each. -/
def account : Dialogue α → Holding → List (Turn × List Event)
  | .done _, _ => []
  | .send line next, h =>
    (.sent line (h.send line).1, h.since (h.send line).2) ::
      account (next (h.send line).1) (h.send line).2
  | .receive reader next, h =>
    (.received reader h.connection.replies, h.since (h.receive reader).2) ::
      account (next (h.receive reader).1) (h.receive reader).2
  | .openData next, h =>
    (.opened (refusal h.connection) h.openData.1, h.since h.openData.2) ::
      account (next h.openData.1) h.openData.2
  | .readData next, h =>
    (.drained h.readData.1, h.since h.readData.2) :: account (next h.readData.1) h.readData.2
  | .closeData next, h =>
    (.closed h.closeData.1, h.since h.closeData.2) :: account (next h.closeData.1) h.closeData.2
  | .note text next, h => (.noted text, h.since (h.note text)) :: account next (h.note text)

theorem account_turns (d : Dialogue α) (h : Holding) :
    (account d h).map Prod.fst = turns d h := by
  induction d generalizing h with
  | done result => rfl
  | send line next ih => exact congrArg (_ :: ·) (ih _ _)
  | receive reader next ih => exact congrArg (_ :: ·) (ih _ _)
  | openData next ih => exact congrArg (_ :: ·) (ih _ _)
  | readData next ih => exact congrArg (_ :: ·) (ih _ _)
  | closeData next ih => exact congrArg (_ :: ·) (ih _ _)
  | note text next ih => exact congrArg (_ :: ·) (ih _)

theorem since_of_trace {h h' : Holding} {t : Trace} (htrace : h'.trace = h.trace ++ t) :
    h.since h' = t.events := by
  rw [since, htrace]
  exact List.drop_left

/-- What one turn makes of a holding, as far as the account of it goes. -/
structure Accounts (h : Holding) (t : Turn) (h' : Holding) : Prop where
  advances : h.Advances [t] h'
  opened_eq : h'.stream.isSome = (h.stream.isSome || t.opensData)
  leaves : t.Leaves h.connection.id h.stream.isSome (h.since h')

theorem Accounts.events_eq {h h' : Holding} {t : Turn} (ha : h.Accounts t h') :
    h'.trace.events = h.trace.events ++ h.since h' := by
  obtain ⟨added, htrace, -⟩ := ha.advances.traced
  rw [since_of_trace htrace, htrace]
  rfl

theorem accounts_note (h : Holding) (htied : h.Tied) (text : String) :
    h.Accounts (.noted text) (h.note text) where
  advances := advances_note h htied text
  opened_eq := (Bool.or_false _).symm
  leaves := by
    rw [since_of_trace (t := ⟨[], [h.connection.shownNote text]⟩) rfl]
    exact .of_open rfl (by simp)

theorem accounts_send (h : Holding) (htied : h.Tied) (line : String) :
    h.Accounts (.sent line (h.send line).1) (h.send line).2 where
  advances := advances_send h htied line
  opened_eq := (Bool.or_false _).symm
  leaves := by
    rw [since_of_trace (t := ⟨[h.connection.event (.send line)], []⟩) rfl]
    refine .of_open rfl fun e he => ?_
    rw [List.mem_singleton.mp he]
    exact ⟨rfl, rfl⟩

theorem accounts_receive (h : Holding) (htied : h.Tied) (reader : Reply.Reader) :
    h.Accounts (.received reader h.connection.replies) (h.receive reader).2 where
  advances := advances_receive h htied reader
  opened_eq := (Bool.or_false _).symm
  leaves := by
    rw [since_of_trace (t := readTrace h.connection (reader.run h.connection.replies).seen) rfl]
    refine .of_open rfl fun e he => ?_
    obtain ⟨line, -, rfl⟩ := List.mem_map.mp he
    exact ⟨rfl, _, rfl⟩

theorem accounts_openData (h : Holding) (htied : h.Tied) :
    h.Accounts (.opened (refusal h.connection) h.openData.1) h.openData.2 := by
  have hspec : h.openData.2.stream.isSome =
        (h.stream.isSome || (Turn.opened (refusal h.connection) h.openData.1).opensData) ∧
      ∃ added : Trace, h.openData.2.trace = h.trace ++ added ∧ ∀ e ∈ added.events,
        e.connection = h.connection.id ∧ (Turn.opened none (.ok ())).leaves e.action := by
    let c := h.connection
    let address := dataAddress c.id
    have hopen : ∀ e ∈ [c.event .openData], e.connection = c.id ∧
        (Turn.opened none (.ok ())).leaves e.action := by
      simp [Turn.leaves, Connection.event]
    have hask : ∀ e ∈ [c.event .askPassive], e.connection = c.id ∧
        (Turn.opened none (.ok ())).leaves e.action := by
      simp [Turn.leaves, Connection.event]
    have hconnect : ∀ timeout, ∀ e ∈ [c.event .askPassive] ++
        [c.event (.connectData address.1 address.2 timeout)], e.connection = c.id ∧
          (Turn.opened none (.ok ())).leaves e.action := by
      simp [Turn.leaves, Connection.event]
    cases hcarrier : h.connection.carrier with
    | direct =>
      cases hopening : h.connection.nextTransfer.opening with
      | some failure =>
        simp only [openData, hcarrier, hopening]
        exact ⟨(Bool.or_false _).symm, _, rfl, hopen⟩
      | none =>
        simp only [openData, hcarrier, hopening]
        exact ⟨(Bool.or_true _).symm, _, rfl, hopen⟩
    | session info =>
      cases hopening : h.connection.nextTransfer.opening with
      | some failure =>
        simp only [openData, hcarrier, hopening]
        exact ⟨(Bool.or_false _).symm, _, rfl, hask⟩
      | none =>
        cases hconnecting : h.connection.nextTransfer.connecting with
        | some failure =>
          simp only [openData, hcarrier, hopening, hconnecting]
          exact ⟨(Bool.or_false _).symm, _, Trace.append_assoc .., hconnect info.timeout⟩
        | none =>
          simp only [openData, hcarrier, hopening, hconnecting]
          exact ⟨(Bool.or_true _).symm, _, Trace.append_assoc .., hconnect info.timeout⟩
  obtain ⟨hopened, added, htrace, hadded⟩ := hspec
  refine ⟨advances_openData h htied, hopened, ?_⟩
  rw [since_of_trace htrace]
  exact .of_open rfl hadded

theorem accounts_readData (h : Holding) (htied : h.Tied) :
    h.Accounts (.drained h.readData.1) h.readData.2 := by
  refine ⟨advances_readData h htied, ?_, ?_⟩
  · cases hstream : h.stream with
    | none => simp [readData, hstream, Turn.opensData]
    | some s => simp [readData, hstream, Turn.opensData]
  · cases hstream : h.stream with
    | none =>
      have hread : h.readData.2 = h := by simp only [readData, hstream]
      rw [hread, since_of_trace (Trace.append_empty _).symm]
      exact .of_open rfl (by simp)
    | some s =>
      have hread : h.readData.2.trace = h.trace ++ s.read.2.2 := by
        simp only [readData, hstream]
        rfl
      rw [since_of_trace hread, ← htied s hstream]
      exact .of_open rfl (s.read_leaves _)

theorem accounts_closeData (h : Holding) (htied : h.Tied) :
    h.Accounts (.closed h.closeData.1) h.closeData.2 := by
  refine ⟨advances_closeData h htied, ?_, ?_⟩
  · cases hstream : h.stream with
    | none => simp [closeData, hstream, Turn.opensData]
    | some s => simp [closeData, hstream, Turn.opensData]
  · cases hstream : h.stream with
    | none =>
      have hclose : h.closeData.2 = h := by simp only [closeData, hstream]
      rw [hclose, since_of_trace (Trace.append_empty _).symm]
      exact ⟨by simp, fun _ hopened => Bool.noConfusion hopened⟩
    | some s =>
      have hclose : h.closeData.2.trace = h.trace ++ s.close.2.2 := by
        simp only [closeData, hstream]
        rfl
      rw [since_of_trace hclose, ← htied s hstream]
      exact s.close_leaves _

/-! ## The account of a whole dialogue -/

section Dialogues
variable {h h' : Holding} {t : Turn}

theorem Accounts.records {entries : List (Turn × List Event)} (ha : h.Accounts t h')
    (hentries : Records h'.connection.id h'.stream.isSome entries) :
    Records h.connection.id h.stream.isSome ((t, h.since h') :: entries) := by
  rw [ha.advances.id_eq, ha.opened_eq] at hentries
  exact ⟨ha.leaves, hentries⟩

theorem records_account (d : Dialogue α) (h : Holding) (htied : h.Tied) :
    Records h.connection.id h.stream.isSome (account d h) := by
  induction d generalizing h with
  | done result => trivial
  | send line next ih =>
    have hstep := accounts_send h htied line
    exact hstep.records (ih _ _ hstep.advances.tied)
  | receive reader next ih =>
    have hstep := accounts_receive h htied reader
    exact hstep.records (ih _ _ hstep.advances.tied)
  | openData next ih =>
    have hstep := accounts_openData h htied
    exact hstep.records (ih _ _ hstep.advances.tied)
  | readData next ih =>
    have hstep := accounts_readData h htied
    exact hstep.records (ih _ _ hstep.advances.tied)
  | closeData next ih =>
    have hstep := accounts_closeData h htied
    exact hstep.records (ih _ _ hstep.advances.tied)
  | note text next ih =>
    have hstep := accounts_note h htied text
    exact hstep.records (ih _ hstep.advances.tied)

theorem Accounts.events_append {entries : List (Turn × List Event)} {events : List Event}
    (ha : h.Accounts t h') (hevents : events = h'.trace.events ++ entries.flatMap Prod.snd) :
    events = h.trace.events ++ ((t, h.since h') :: entries).flatMap Prod.snd := by
  rw [hevents, ha.events_eq, List.append_assoc, List.flatMap_cons]

theorem account_events (d : Dialogue α) (h : Holding) (htied : h.Tied) :
    (run d h).2.trace.events = h.trace.events ++ (account d h).flatMap Prod.snd := by
  induction d generalizing h with
  | done result => exact (List.append_nil _).symm
  | send line next ih =>
    have hstep := accounts_send h htied line
    exact hstep.events_append (ih _ _ hstep.advances.tied)
  | receive reader next ih =>
    have hstep := accounts_receive h htied reader
    exact hstep.events_append (ih _ _ hstep.advances.tied)
  | openData next ih =>
    have hstep := accounts_openData h htied
    exact hstep.events_append (ih _ _ hstep.advances.tied)
  | readData next ih =>
    have hstep := accounts_readData h htied
    exact hstep.events_append (ih _ _ hstep.advances.tied)
  | closeData next ih =>
    have hstep := accounts_closeData h htied
    exact hstep.events_append (ih _ _ hstep.advances.tied)
  | note text next ih =>
    have hstep := accounts_note h htied text
    exact hstep.events_append (ih _ hstep.advances.tied)

end Dialogues

end Session.Holding
end FileTransfer
