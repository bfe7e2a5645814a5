import FileTransfer.Listing.Mode
import FileTransfer.Text.Lines
import FileTransfer.Value.Template

/-!
# Failures

What can go wrong while files are worked on, as causes; the wording is in one place per type.

* `Fault`: a failure as the lower layers report it: the system, the session, a value.
* `Undecodable`: what a server said that cannot be understood.
* `Failure`: a failure as a caller meets it; most carry the fault they come from.
* `Fault.isOutage`, `Fault.isSession`, `Fault.isRefusal`, `Fault.isInvalid`: the classes by which
  the client decides what to do next.
-/

namespace FileTransfer
open FileTransfer.Text FileTransfer.Calendar FileTransfer.Listing
set_option autoImplicit false

/-! ## Faults -/

inductive SystemKind where
  | general | connectionReset | brokenPipe | connectionRefused | timedOut | isDirectory
  deriving DecidableEq, Repr

/-- The kinds of failure that the keeper of a control session reports: a negative answer, an answer
out of place, one that is no answer, or something else. -/
inductive SessionKind where
  | general | unexpected | temporary | permanent | malformed
  deriving DecidableEq, Repr

/-- A failure as the lower layers report it. -/
inductive Fault where
  | system (kind : SystemKind) (text : String)
  /-- The other side ended the data. -/
  | endOfData (text : String)
  | session (kind : SessionKind) (text : String)
  /-- A value that a lower layer refuses. -/
  | invalid (text : String)
  | internal (text : String)
  | lineBreak
  | codeOutOfRange (code : Int)
  | longNumeral (digits : Nat)
  /-- A text of digits, not all of them decimal. -/
  | notDecimal (text : String)
  | template (reason : Template.Fault)
  | undecodable (reason : Utf8.Malformed)
  /-- Reading from a data channel whose reader is closed. -/
  | readerClosed
  | mode (reason : Mode.Fault)
  | outOfRange (field : RangeFault)
  /-- A limit that is no number, where a count is compared with it. -/
  | limitNotNumber (kind : Value.Kind)
  deriving DecidableEq, Repr

namespace Fault

def undecodableMessage (m : Utf8.Malformed) : String :=
  let reason := m.fault.message
  if m.count = 1 then
    let number := String.ofList (padZeros 2 (writeNumeral 16 m.byte.toNat))
    s!"'utf-8' codec can't decode byte 0x{number} in position {m.place}: {reason}"
  else
    s!"'utf-8' codec can't decode bytes in position {m.place}-{m.place + m.count - 1}: {reason}"

def longNumeralMessage (digits : Nat) : String :=
  s!"Exceeds the limit ({longestNumeral} digits) for integer string conversion: " ++
    s!"value has {digits} digits; use sys.set_int_max_str_digits() to increase the limit"

def message : Fault → String
  | .system _ text => text
  | .endOfData text => text
  | .session _ text => text
  | .invalid text => text
  | .internal text => text
  | .lineBreak => "an illegal newline character should not be contained"
  | .codeOutOfRange code => s!"reply code out of range: {code}"
  | .longNumeral digits => longNumeralMessage digits
  | .notDecimal text => s!"invalid literal for int() with base 10: {quoted text}"
  | .template reason => reason.message
  | .undecodable reason => undecodableMessage reason
  | .readerClosed => "I/O operation on closed file."
  | .mode reason => reason.message
  | .outOfRange field => field.message
  | .limitNotNumber kind =>
    s!"'<' not supported between instances of 'int' and '{kind.label}'"

/-- The channel is gone: the system failed, or the other side ended the data. -/
def isOutage : Fault → Bool
  | .system .. => true
  | .endOfData _ => true
  | _ => false

def isSession : Fault → Bool
  | .session .. => true
  | _ => false

/-- The server answered, with a refusal or out of place. -/
def isRefusal : Fault → Bool
  | .session .permanent _ => true
  | .session .temporary _ => true
  | .session .unexpected _ => true
  | _ => false

def isSystem : Fault → Bool
  | .system .. => true
  | _ => false

/-- A value, or bytes that should be text, broke a rule of form. -/
def isInvalid : Fault → Bool
  | .invalid _ | .lineBreak | .codeOutOfRange _ | .longNumeral _ | .notDecimal _ => true
  | .undecodable _ | .readerClosed | .outOfRange _ => true
  | .template reason =>
    match reason with
    | .incomplete | .unknown .. | .notFinite false => true
    | _ => false
  | _ => false

end Fault

/-! ## What cannot be understood -/

inductive Undecodable where
  | replyLine (line : String)
  | malformedEntry (entry : String)
  | incompleteEntry (entry : String)
  | directoryName (message : String)
  /-- A reply about one entry that does not have three lines. -/
  | entryReply (lines : List String)
  deriving DecidableEq, Repr

/-- Whether something is left out, as opposed to wrong. -/
def Undecodable.isIncomplete : Undecodable → Bool
  | .incompleteEntry _ => true
  | _ => false

def Undecodable.message : Undecodable → String
  | .replyLine line => s!"invalid reply line: {quoted line}"
  | .malformedEntry entry => s!"failed parsing MLST entry: {entry}"
  | .incompleteEntry entry => s!"MLST entry incomplete: {entry}"
  | .directoryName message => s!"failed parsing directory name: {message}"
  | .entryReply lines =>
    let shown := joined ", " (lines.map quoted)
    s!"unexpected MLST response: expected 3 lines, got {lines.length}: [{shown}]"

/-! ## Failures -/

/-- The kinds of failure that another layer reports in the client's own terms. -/
inductive ReportKind where
  | connection | authentication | transient
  deriving DecidableEq, Repr

/-- A failure as a caller meets it. -/
inductive Failure where
  | fault (fault : Fault)
  /-- The server answered with another code than the one needed. -/
  | protocol (code : Int) (reply : String) (command : Option String) (cause : Option Fault)
  | undecodable (what : Undecodable)
  /-- The data channel broke while the data of a command came in. -/
  | dataBroken (command : String) (cause : Fault)
  | poolClosed
  | notAuthenticated (cause : Fault)
  | sessionRefused (cause : Fault)
  | unreachable (host : String) (cause : Fault)
  | reported (kind : ReportKind) (text : String)
  deriving DecidableEq, Repr

namespace Failure

def message : Failure → String
  | .fault f => f.message
  | .protocol code reply command _ =>
    match command with
    | none => s!"unexpected response: {code}-{reply}"
    | some c =>
      if c.isEmpty then s!"unexpected response: {code}-{reply}"
      else s!"unexpected response to {c}: {code}-{reply}"
  | .undecodable what => what.message
  | .dataBroken command cause => s!"error reading {command} data: {cause.message}"
  | .poolClosed => "connection pool is closed"
  | .notAuthenticated cause => s!"Authentication failed: {cause.message}"
  | .sessionRefused cause => s!"FTP error: {cause.message}"
  | .unreachable host cause => s!"Failed to connect to {host}: {cause.message}"
  | .reported _ text => text

def cause? : Failure → Option Fault
  | .protocol _ _ _ cause => cause
  | .dataBroken _ cause => some cause
  | .notAuthenticated cause => some cause
  | .sessionRefused cause => some cause
  | .unreachable _ cause => some cause
  | _ => none

/-- Whether a failure is one of a transaction with the server, as opposed to reaching it. -/
def isTransaction : Failure → Bool
  | .protocol .. | .undecodable _ | .dataBroken .. | .reported .transient _ => true
  | _ => false

/-- Whether a retry on a fresh connection may succeed: a reply with a transient negative code, or a
broken data channel. -/
def isTemporary : Failure → Bool
  | .protocol code .. => 400 ≤ code && code < 500
  | .dataBroken .. | .reported .transient _ => true
  | _ => false

def isFault (p : Fault → Bool) : Failure → Bool
  | .fault f => p f
  | _ => false

def ofFault {α : Type} (f : Fault) : Except Failure α := .error (.fault f)

end Failure
end FileTransfer
