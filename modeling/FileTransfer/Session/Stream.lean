import FileTransfer.Session.Script

/-!
# Data streams

The reading end of a data channel. A stream of lines hands out what it is given. A stream over a
socket secures the socket when it is first read, if it has to, and then decodes what arrives.

* `Socket`: how far a stream over a socket has come.
* `Stream`: a data channel and what is still to come on it.
* `Stream.read`, `Stream.close`: all lines to the end, or to a failure; the end of the stream.
-/

namespace FileTransfer.Session
open FileTransfer.Text
set_option autoImplicit false

/-- How far a stream over a socket has come. -/
structure Socket where
  /-- The name by which the server is known when the channel is secured. -/
  host : Value
  encoding : Encoding
  /-- The socket has to be secured before it is read. -/
  toSecure : Bool
  secured : Bool := false
  reader : Option Decoder := none
  readerClosed : Bool := false

structure Stream where
  connection : Id
  transfer : Transfer
  /-- The socket below, unless lines come as such. -/
  socket : Option Socket := none

/-- The lines of a reading and the failure that ended it, if one did. -/
abbrev Drained := List String × Option Failure

namespace Stream

def event (s : Stream) (action : Action) : Trace := ⟨[⟨s.connection, action⟩], []⟩

/-- The failure that ends a reading of pieces. -/
def endingFailure? (transfer : Transfer) : Ending → Option Failure
  | .finished => none
  | .cutOff => transfer.breaking
  | .undecodable reason => some (.fault (.undecodable reason))

/-- Reads what is still to come with a reader. -/
def readWith (s : Stream) (socket : Socket) (decoder : Decoder) : Drained × Stream :=
  if socket.readerClosed then (([], some (.fault .readerClosed)), s)
  else
    let r := readPieces s.transfer.breaking.isSome decoder [] s.transfer.pieces
    let drained := (r.lines.map String.ofList, endingFailure? s.transfer r.ending)
    (drained,
      { s with
        transfer := { s.transfer with pieces := r.rest }
        socket := some { socket with reader := some r.decoder } })

/-- The socket after it was secured, if it has to be, or the failure to do so. -/
def secure (s : Stream) (socket : Socket) : Except Failure Socket × Trace :=
  if socket.toSecure then
    match s.transfer.securing with
    | some failure => (.error failure, s.event (.wrap socket.host))
    | none => (.ok { socket with toSecure := false, secured := true }, s.event (.wrap socket.host))
  else (.ok socket, {})

/-- All lines up to the end of the stream, or up to a failure. -/
def read (s : Stream) : Drained × Stream × Trace :=
  match s.socket with
  | none => ((s.transfer.lines, s.transfer.breaking), s, {})
  | some socket =>
    match socket.reader with
    | some decoder =>
      let (drained, s) := s.readWith socket decoder
      (drained, s, {})
    | none =>
      match s.secure socket with
      | (.error failure, trace) => (([], some failure), s, trace)
      | (.ok socket, trace) =>
        let trace := trace ++ s.event (.openReader socket.encoding)
        match s.transfer.openingReader with
        | some failure => (([], some failure), { s with socket := some socket }, trace)
        | none =>
          let (drained, s) := s.readWith socket { encoding := socket.encoding }
          (drained, s, trace)

/-- Closes the reader, if there is one. -/
def closeReader (s : Stream) (socket : Socket) : Except Failure Socket × Trace :=
  if socket.reader.isSome then
    match s.transfer.closingReader with
    | some failure => (.error failure, s.event .closeReader)
    | none => (.ok { socket with readerClosed := true }, s.event .closeReader)
  else (.ok socket, {})

/-- Winds up the security of the socket, if it is secured. -/
def unsecure (s : Stream) (socket : Socket) : Except Failure Unit × Trace :=
  if socket.secured then (outcome s.transfer.unsecuring, s.event .unwrap) else (.ok (), {})

/-- Closes what was put on top of the socket: the reader, then the security. -/
def closeUpper (s : Stream) (socket : Socket) : Except Failure Unit × Stream × Trace :=
  match s.closeReader socket with
  | (.error failure, trace) => (.error failure, s, trace)
  | (.ok socket, trace) =>
    let (result, later) := s.unsecure socket
    (result, { s with socket := some socket }, trace ++ later)

/-- Closes a stream. The socket is closed whatever became of what was put on top of it; the later
failure counts. -/
def close (s : Stream) : Except Failure Unit × Stream × Trace :=
  match s.socket with
  | none => (outcome s.transfer.closing, s, s.event .closeData)
  | some socket =>
    let (upper, s', trace) := s.closeUpper socket
    let result := match s.transfer.closing with
      | some failure => .error failure
      | none => upper
    (result, s', trace ++ s.event .closeSocket)

end Stream
end FileTransfer.Session
