import FileTransfer.Dialogue.Basic
import FileTransfer.Session.Stream
import FileTransfer.Text.Digit

/-!
# Connections

One control connection: what is still to come on it, and whether it may be used again.

* `Carrier`: a connection that hands over lines as such, or one of a session with a server.
* `Connection`: a connection, which is broken once an exchange on it failed part-way.
* `Holding`: a connection in the hands of its one holder, the data channel open on it, and what was
  seen of it.
* `Holding.run`: a dialogue carried out from its beginning to its end.
-/

namespace FileTransfer.Session
open FileTransfer.Text
set_option autoImplicit false

/-! ## Connections -/

structure SessionInfo where
  host : Value
  timeout : Value
  /-- Data channels have to be secured. -/
  secureData : Bool
  encoding : Encoding
  quitting : Option Failure

inductive Carrier where
  /-- Lines are handed over as such. -/
  | direct
  | session (info : SessionInfo)

structure Connection where
  id : Id
  carrier : Carrier := .direct
  replies : List Reply.Incoming := []
  sends : List (Option Failure) := []
  transfers : List Transfer := []
  /-- An exchange failed part-way: the next line to come may belong to it. -/
  broken : Bool := false
  deriving Inhabited

/-- Whether a failure on the control channel leaves an exchange half done. -/
def breaksExchange : Failure → Bool
  | .fault f => f.isOutage || f.isSession
  | .undecodable _ => true
  | _ => false

/-- Whether a failure to send leaves an exchange half done. -/
def breaksSending (failure : Failure) : Bool := failure.isFault Fault.isOutage

namespace Connection

def event (c : Connection) (action : Action) : Event := ⟨c.id, action⟩

def breakIf (c : Connection) (broken : Bool) : Connection := { c with broken := c.broken || broken }

/-- The next transfer; where none is laid down, one without content or failure. -/
def nextTransfer (c : Connection) : Transfer := c.transfers.headD {}

/-- A note as those who watch see it: a session's tells the host. -/
def shownNote (c : Connection) (text : String) : String :=
  match c.carrier with
  | .direct => text
  | .session info => s!"{info.host.shown}: {text}"

end Connection

/-! ## Rejected data channels -/

/-- The reply in the text of a refusal: the first three characters are its code, when they are
digits, and the text starts at the fifth. Digits that are not decimal make no number. -/
def refusalReply (text : String) : Except Fault (Nat × String) :=
  let front := text.toList.take 3
  let rest := String.ofList (text.toList.drop 4)
  if front.isEmpty || !front.all Text.isDigit then .ok (0, rest)
  else match front.mapM decimalValue? with
    | some digits => .ok (digits.foldl (fun n d => n * 10 + d) 0, rest)
    | none => .error (.notDecimal (String.ofList front))

/-- The failure of a request for a data channel: a refusal counts as the reply it tells. -/
def passiveFailure (failure : Failure) : Failure :=
  match failure with
  | .fault f =>
    if f.isRefusal then
      match refusalReply f.message with
      | .ok (code, reply) => .protocol code reply (some "PASV") (some f)
      | .error reason => .fault reason
    else failure
  | _ => failure

/-! ## Holding a connection -/

/-- A connection in the hands of its holder. -/
structure Holding where
  connection : Connection
  stream : Option Stream := none
  trace : Trace := {}

namespace Holding

def seen (h : Holding) (trace : Trace) : Holding := { h with trace := h.trace ++ trace }

def did (h : Holding) (action : Action) : Holding := h.seen ⟨[h.connection.event action], []⟩

def note (h : Holding) (text : String) : Holding := h.seen ⟨[], [h.connection.shownNote text]⟩

def send (h : Holding) (line : String) : Except Failure Unit × Holding :=
  let h := h.did (.send line)
  let failure? := h.connection.sends.headD none
  let c := { h.connection with sends := h.connection.sends.drop 1 }
  (outcome failure?, { h with connection := c.breakIf (failure?.any breaksSending) })

/-- The events of reading lines. -/
def readTrace (c : Connection) (lines : List Reply.Incoming) : Trace :=
  ⟨lines.map fun line => c.event (.read line.toOption), []⟩

def receive (h : Holding) (reader : Reply.Reader) : Except Failure Reply × Holding :=
  let r := reader.run h.connection.replies
  let broken := match r.outcome with
    | .ok _ => false
    | .error failure => breaksExchange failure
  let c := { h.connection with replies := r.rest }
  (r.outcome,
    { h.seen (readTrace h.connection r.seen) with connection := c.breakIf broken })

def readLine (h : Holding) : Except Failure String × Holding :=
  let line := h.connection.replies.headD (.error Reply.Reader.exhausted)
  let broken := match line with
    | .ok _ => false
    | .error failure => breaksExchange failure
  let c := { h.connection with replies := h.connection.replies.drop 1 }
  (line, { h.seen (readTrace h.connection [line]) with connection := c.breakIf broken })

/-- The host and port that a server gives for a data channel of a connection. -/
def dataAddress (id : Id) : String × Nat := (s!"10.0.0.{id}", 2000 + id)

def openData (h : Holding) : Except Failure Unit × Holding :=
  let transfer := h.connection.nextTransfer
  let c := { h.connection with transfers := h.connection.transfers.drop 1 }
  match c.carrier with
  | .direct =>
    let h := { h.did .openData with connection := c }
    match transfer.opening with
    | some failure => (.error failure, h)
    | none => (.ok (), { h with stream := some ⟨c.id, transfer, none⟩ })
  | .session info =>
    let h := { h.did .askPassive with connection := c }
    match transfer.opening with
    | some failure =>
      let c := c.breakIf (failure.isFault Fault.isOutage)
      (.error (passiveFailure failure), { h with connection := c })
    | none =>
      let (host, port) := dataAddress c.id
      let h := h.did (.connectData host port info.timeout)
      match transfer.connecting with
      | some failure => (.error failure, h)
      | none =>
        let socket : Socket := ⟨info.host, info.encoding, info.secureData, false, none, false⟩
        (.ok (), { h with stream := some ⟨c.id, transfer, some socket⟩ })

/-- Reads the data channel to its end; without one there is nothing to read. -/
def readData (h : Holding) : Drained × Holding :=
  match h.stream with
  | none => (([], none), h)
  | some s =>
    let (drained, s, trace) := s.read
    (drained, { h.seen trace with stream := some s })

def closeData (h : Holding) : Except Failure Unit × Holding :=
  match h.stream with
  | none => (.ok (), h)
  | some s =>
    let (result, s, trace) := s.close
    (result, { h.seen trace with stream := some s })

def run {α : Type} : Dialogue α → Holding → Except Failure α × Holding
  | .done result, h => (result, h)
  | .send line next, h => let (r, h) := h.send line; run (next r) h
  | .receive reader next, h => let (r, h) := h.receive reader; run (next r) h
  | .openData next, h => let (r, h) := h.openData; run (next r) h
  | .readData next, h => let (r, h) := h.readData; run (next r) h
  | .closeData next, h => let (r, h) := h.closeData; run (next r) h
  | .note text next, h => run next (h.note text)

end Holding
end FileTransfer.Session
