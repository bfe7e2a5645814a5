import FileTransfer.Proofs.Dialogue.Exchange

/-!
# What a data channel leaves behind

Reading and closing a data channel is seen on its own connection only, and nothing of it passes on
the control channel.

* `Action.control?`, `Trace.control`: what was seen of a control channel.
* `Trace.On`, `Trace.Aside`: the events of one connection, without its end; besides, without anything
  on its control channel.
* `Transfer.Orderly`: the failures laid down for a data channel are of the classes provided for.
* `Stream.read_spec`, `Stream.close_spec`: what reading and closing leave behind.
-/

namespace FileTransfer.Session
open FileTransfer.Text
set_option autoImplicit false

/-! ## What is seen -/

/-- What an action lets pass on a control channel. -/
def Action.control? : Action → Option Control
  | .send line => some (.sent line)
  | .read (some line) => some (.got line)
  | _ => none

namespace Trace

/-- What passed on the control channels. -/
def control (t : Trace) : List Control := t.events.filterMap fun e => e.action.control?

/-- Nothing was done to other connections, and none took its leave. -/
def On (id : Id) (t : Trace) : Prop := ∀ e ∈ t.events, e.connection = id ∧ e.action ≠ .quit

/-- Besides, nothing passed on the control channel. -/
def Aside (id : Id) (t : Trace) : Prop :=
  ∀ e ∈ t.events, (e.connection = id ∧ e.action ≠ .quit) ∧ e.action.control? = none

theorem append_assoc (a b c : Trace) : a ++ b ++ c = a ++ (b ++ c) :=
  congrArg₂ Trace.mk (List.append_assoc ..) (List.append_assoc ..)

theorem append_empty (t : Trace) : t ++ {} = t :=
  congrArg₂ Trace.mk (List.append_nil _) (List.append_nil _)

theorem control_append (a b : Trace) : (a ++ b).control = a.control ++ b.control :=
  List.filterMap_append

theorem On.append {id : Id} {a b : Trace} (ha : a.On id) (hb : b.On id) : (a ++ b).On id := by
  intro e he
  exact (List.mem_append.mp he).elim (ha e) (hb e)

theorem Aside.empty (id : Id) : Aside id {} := by simp [Aside]

theorem Aside.single {id : Id} {action : Action} (notes : List String) (hquit : action ≠ .quit)
    (hcontrol : action.control? = none) : Aside id ⟨[⟨id, action⟩], notes⟩ := by
  simp [Aside, hquit, hcontrol]

theorem Aside.append {id : Id} {a b : Trace} (ha : a.Aside id) (hb : b.Aside id) :
    (a ++ b).Aside id := by
  intro e he
  exact (List.mem_append.mp he).elim (ha e) (hb e)

theorem Aside.on {id : Id} {t : Trace} (h : t.Aside id) : t.On id := fun e he => (h e he).1

theorem Aside.control {id : Id} {t : Trace} (h : t.Aside id) : t.control = [] :=
  List.filterMap_eq_nil_iff.mpr fun e he => (h e he).2

end Trace

/-! ## Failures that are provided for -/

theorem outcome_eq_error_iff {failure? : Option Failure} {failure : Failure} :
    outcome failure? = .error failure ↔ failure? = some failure := by
  cases failure? <;> simp [outcome]

/-- Reading a data channel fails with the channel or by form, and closing it with the system. -/
structure Transfer.Orderly (t : Transfer) : Prop where
  reading : ∀ failure, t.securing = some failure ∨ t.openingReader = some failure ∨
    t.breaking = some failure → failure.isFault (fun f => f.isOutage || f.isInvalid) = true
  closing : ∀ failure, t.closingReader = some failure ∨ t.unsecuring = some failure ∨
    t.closing = some failure → failure.isFault Fault.isSystem = true

theorem Transfer.Orderly.empty : Orderly {} := ⟨by simp, by simp⟩

/-! ## Data channels -/

namespace Stream

theorem aside_event (s : Stream) {action : Action} (hquit : action ≠ .quit)
    (hcontrol : action.control? = none) : (s.event action).Aside s.connection :=
  .single [] hquit hcontrol

theorem readWith_spec (s : Stream) (socket : Socket) (decoder : Decoder) :
    (s.readWith socket decoder).2.connection = s.connection ∧
      (s.transfer.Orderly → (s.readWith socket decoder).2.transfer.Orderly ∧
        (Turn.drained (s.readWith socket decoder).1).Orderly) := by
  unfold readWith
  split
  case isTrue => exact ⟨rfl, fun ho => ⟨ho, by simp [Turn.Orderly, Failure.isFault, Fault.isInvalid]⟩⟩
  case isFalse =>
    refine ⟨rfl, fun ho => ⟨⟨ho.reading, ho.closing⟩, ?_⟩⟩
    intro failure hfailure
    dsimp only [endingFailure?] at hfailure
    split at hfailure
    · cases hfailure
    · exact ho.reading failure (.inr (.inr hfailure))
    · cases hfailure
      rfl

theorem secure_spec (s : Stream) (socket : Socket) :
    (s.secure socket).2.Aside s.connection ∧
      ∀ failure, (s.secure socket).1 = .error failure → s.transfer.securing = some failure := by
  unfold secure
  split
  case isTrue =>
    split
    case h_1 failure hsecuring =>
      refine ⟨s.aside_event nofun rfl, ?_⟩
      rintro _ ⟨⟩
      exact hsecuring
    case h_2 => exact ⟨s.aside_event nofun rfl, by simp⟩
  case isFalse => exact ⟨.empty _, by simp⟩

theorem read_spec (s : Stream) :
    s.read.2.1.connection = s.connection ∧ s.read.2.2.Aside s.connection ∧
      (s.transfer.Orderly → s.read.2.1.transfer.Orderly ∧ (Turn.drained s.read.1).Orderly) := by
  unfold read
  split
  case h_1 =>
    exact ⟨rfl, .empty _, fun ho => ⟨ho, fun failure h => ho.reading failure (.inr (.inr h))⟩⟩
  case h_2 socket hsocket =>
    split
    case h_1 decoder hreader =>
      obtain ⟨hid, horderly⟩ := s.readWith_spec socket decoder
      exact ⟨hid, .empty _, horderly⟩
    case h_2 hreader =>
      obtain ⟨haside, hsecuring⟩ := s.secure_spec socket
      split
      case h_1 failure trace hsecure =>
        rw [hsecure] at haside hsecuring
        have hfailure := hsecuring failure rfl
        refine ⟨rfl, haside, fun ho => ⟨ho, ?_⟩⟩
        rintro _ ⟨⟩
        exact ho.reading failure (.inl hfailure)
      case h_2 socket' trace hsecure =>
        rw [hsecure] at haside
        have hreader : (s.event (.openReader socket'.encoding)).Aside s.connection :=
          s.aside_event nofun rfl
        have hopened := haside.append hreader
        dsimp only
        split
        case h_1 failure hfailure =>
          refine ⟨rfl, hopened, fun ho => ⟨⟨ho.reading, ho.closing⟩, ?_⟩⟩
          rintro _ ⟨⟩
          exact ho.reading failure (.inr (.inl hfailure))
        case h_2 =>
          obtain ⟨hid, horderly⟩ := s.readWith_spec socket' { encoding := socket'.encoding }
          exact ⟨hid, hopened, horderly⟩

theorem closeUpper_spec (s : Stream) (socket : Socket) :
    (s.closeUpper socket).2.1.connection = s.connection ∧
      (s.closeUpper socket).2.1.transfer = s.transfer ∧
      (s.closeUpper socket).2.2.Aside s.connection ∧
      ∀ failure, (s.closeUpper socket).1 = .error failure →
        s.transfer.closingReader = some failure ∨ s.transfer.unsecuring = some failure := by
  have hreader : (s.closeReader socket).2.Aside s.connection ∧
      ∀ failure, (s.closeReader socket).1 = .error failure →
        s.transfer.closingReader = some failure := by
    unfold closeReader
    split
    case isTrue =>
      split
      case h_1 failure hclosing =>
        refine ⟨s.aside_event nofun rfl, ?_⟩
        rintro _ ⟨⟩
        exact hclosing
      case h_2 => exact ⟨s.aside_event nofun rfl, by simp⟩
    case isFalse => exact ⟨.empty _, by simp⟩
  have hsecurity : ∀ socket', (s.unsecure socket').2.Aside s.connection ∧
      ∀ failure, (s.unsecure socket').1 = .error failure →
        s.transfer.unsecuring = some failure := by
    intro socket'
    unfold unsecure
    split
    case isTrue => exact ⟨s.aside_event nofun rfl, fun failure h => outcome_eq_error_iff.mp h⟩
    case isFalse => exact ⟨.empty _, by simp⟩
  unfold closeUpper
  split
  case h_1 failure trace hclose =>
    rw [hclose] at hreader
    refine ⟨rfl, rfl, hreader.1, ?_⟩
    rintro _ ⟨⟩
    exact .inl (hreader.2 failure rfl)
  case h_2 socket' trace hclose =>
    rw [hclose] at hreader
    obtain ⟨haside, hunsecuring⟩ := hsecurity socket'
    exact ⟨rfl, rfl, hreader.1.append haside, fun failure h => .inr (hunsecuring failure h)⟩

theorem close_spec (s : Stream) :
    s.close.2.1.connection = s.connection ∧ s.close.2.2.Aside s.connection ∧
      (s.transfer.Orderly → s.close.2.1.transfer.Orderly ∧ (Turn.closed s.close.1).Orderly) := by
  unfold close
  split
  case h_1 =>
    refine ⟨rfl, s.aside_event nofun rfl, fun ho => ⟨ho, fun failure h => ?_⟩⟩
    exact ho.closing failure (.inr (.inr (outcome_eq_error_iff.mp h)))
  case h_2 socket hsocket =>
    obtain ⟨hid, htransfer, haside, hfailure⟩ := s.closeUpper_spec socket
    refine ⟨hid, haside.append (s.aside_event nofun rfl), fun ho => ?_⟩
    refine ⟨by rw [← htransfer] at ho; exact ho, fun failure h => ho.closing failure ?_⟩
    dsimp only at h
    split at h
    case h_1 failure' hclosing =>
      cases h
      exact .inr (.inr hclosing)
    case h_2 =>
      rcases hfailure failure h with hreader | hsecurity
      · exact .inl hreader
      · exact .inr (.inl hsecurity)

end Stream

end FileTransfer.Session
