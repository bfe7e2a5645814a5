import FileTransfer.Reply.Reader

/-!
# Dialogues

What the holder of one connection does with it, as data: a request to the connection, and what is
done next for each answer. A dialogue says nothing about how a connection carries out a request, so
the same dialogue runs on any connection, in one go or one line at a time.

* `Dialogue`: a result, or a request and its continuation.
* `Dialogue.bind`, `Dialogue.attempt`: sequences, and failures as values.
* `Dialogue.sendLine`, `Dialogue.reply`, …: the requests by themselves.
-/

namespace FileTransfer
set_option autoImplicit false

/-- What the holder of a connection does with it. A dialogue has at most one data channel open. -/
inductive Dialogue (α : Type) where
  | done (result : Except Failure α)
  | send (line : String) (next : Except Failure Unit → Dialogue α)
  /-- Reads the rest of a reply, of which the reader knows the beginning. -/
  | receive (reader : Reply.Reader) (next : Except Failure Reply → Dialogue α)
  | openData (next : Except Failure Unit → Dialogue α)
  /-- Reads the lines of the data channel up to its end, or up to a failure. -/
  | readData (next : List String × Option Failure → Dialogue α)
  | closeData (next : Except Failure Unit → Dialogue α)
  | note (text : String) (next : Dialogue α)

namespace Dialogue
variable {α β : Type}

protected def bind (d : Dialogue α) (f : α → Dialogue β) : Dialogue β :=
  match d with
  | .done (.ok a) => f a
  | .done (.error failure) => .done (.error failure)
  | .send line next => .send line fun r => (next r).bind f
  | .receive reader next => .receive reader fun r => (next r).bind f
  | .openData next => .openData fun r => (next r).bind f
  | .readData next => .readData fun r => (next r).bind f
  | .closeData next => .closeData fun r => (next r).bind f
  | .note text next => .note text (next.bind f)

instance : Monad Dialogue where
  pure a := .done (.ok a)
  bind := Dialogue.bind

/-- A dialogue that always comes to a value: the result, failure or not. -/
def attempt (d : Dialogue α) : Dialogue (Except Failure α) :=
  match d with
  | .done result => .done (.ok result)
  | .send line next => .send line fun r => (next r).attempt
  | .receive reader next => .receive reader fun r => (next r).attempt
  | .openData next => .openData fun r => (next r).attempt
  | .readData next => .readData fun r => (next r).attempt
  | .closeData next => .closeData fun r => (next r).attempt
  | .note text next => .note text next.attempt

def fail (failure : Failure) : Dialogue α := .done (.error failure)

def sendLine (line : String) : Dialogue Unit := .send line .done

def reply : Dialogue Reply :=
  .receive .opening fun
    | .error failure => .done (.error failure)
    | .ok reply => .note s!"got {reply.code}-{reply.message}" (.done (.ok reply))

def openChannel : Dialogue Unit := .openData .done

/-- The lines of the data channel, and the failure that ended it, if one did. -/
def dataLines : Dialogue (List String × Option Failure) := .readData fun r => .done (.ok r)

def closeChannel : Dialogue Unit := .closeData .done

def say (text : String) : Dialogue Unit := .note text (.done (.ok ()))

end Dialogue
end FileTransfer
