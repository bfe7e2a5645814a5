import FileTransfer.Pool.Basic

/-!
# Scenarios

What callers do with a pool, step by step: operations on remote files, and direct use of
connections and data channels.

* `Step`: one thing a caller does; some steps hold a connection, or the pool, around others.
* `Scene`: a pool, the data channels opened by steps, and the connections handed to callers.
* `Step.run`, `runAll`: what a step comes to; a step that fails does not end the scenario.
-/

namespace FileTransfer.Scenario
open FileTransfer.Session FileTransfer.Pool
set_option autoImplicit false

/-- One thing a caller does. Steps that concern a connection may leave it open which one: then it is
the one held by the innermost scope around them. -/
inductive Step where
  | operate (op : Operation)
  /-- Operations that are started together; each comes to its own result. -/
  | gather (ops : List Operation)
  | name
  | acquire
  | release (id : Option Id)
  | closePool
  | closeConnection (id : Option Id)
  /-- Steps after which the pool is closed. -/
  | context (steps : List Step)
  /-- Steps around which a connection is held. -/
  | scope (steps : List Step)
  | fail (failure : Failure)
  | command (id : Option Id) (template : String) (arguments : List Value)
  | expect (id : Option Id) (expected : Expected) (template : String) (arguments : List Value)
  | readReply (id : Option Id)
  | sendLine (id : Option Id) (line : String)
  | readLine (id : Option Id)
  | openData (id : Option Id)
  | readData (stream : Nat)
  | closeData (stream : Nat)

/-- What a step comes to when it does not fail. -/
inductive Outcome where
  | nothing
  | number (n : Nat)
  | text (text : String)
  | lines (lines : List String)
  | answer (answer : Answer)
  | exchange (reply : Reply)
  | reply (reply : Reply)
  | results (results : List (Except Failure Answer))
  | outcomes (outcomes : List Outcome)

structure Scene (ω : Type) where
  pool : ω
  name : String := ""
  streams : List Stream := []
  handed : List Id := []

variable {ω : Type} [Pool ω]

/-- What a step comes to, and the scene after it. -/
abbrev Run (ω α : Type) := Scene ω → Except Failure α × Scene ω

namespace Scene

/-- Lets the pool of a scene do something. -/
def onPool {α : Type} (f : ω → α × ω) (s : Scene ω) : α × Scene ω :=
  let (a, pool) := f s.pool
  (a, { s with pool })

def converse {α : Type} (id : Id) (d : Dialogue α) : Run ω α := onPool (Pool.converse id d)

def acquire : Run ω Id := fun s =>
  match s.onPool Pool.acquire with
  | (.ok id, s) => (.ok id, { s with handed := s.handed ++ [id] })
  | (.error failure, s) => (.error failure, s)

def openStream (id : Id) : Run ω Nat := fun s =>
  let (result, stream, pool) := Pool.use id none Holding.openData s.pool
  let s := { s with pool }
  match result, stream with
  | .ok (), some stream => (.ok s.streams.length, { s with streams := s.streams ++ [stream] })
  | .ok (), none => (.ok s.streams.length, s)
  | .error failure, _ => (.error failure, s)

def onStream {α : Type} (number : Nat) (missing : α) (f : Holding → α × Holding) (s : Scene ω) :
    α × Scene ω :=
  match s.streams[number]? with
  | none => (missing, s)
  | some stream =>
    let (a, stream?, pool) := Pool.use stream.connection (some stream) f s.pool
    (a, { s with pool, streams := s.streams.set number (stream?.getD stream) })

def readStream (number : Nat) : Run ω (List String) := fun s =>
  match s.onStream number ([], none) Holding.readData with
  | ((lines, none), s) => (.ok lines, s)
  | ((_, some failure), s) => (.error failure, s)

def closeStream (number : Nat) : Run ω Unit := onStream number (.ok ()) Holding.closeData

/-- Operations in the order in which they were started. -/
def gather : List Operation → Scene ω → List (Except Failure Answer) × Scene ω
  | [], s => ([], s)
  | op :: ops, s =>
    let (result, s) := s.onPool (perform op)
    let (results, s) := gather ops s
    (result :: results, s)

/-- The line of a template, sent as a command; what follows depends on `d`. -/
def commanding {α : Type} (template : String) (arguments : List Value)
    (d : String → Dialogue α) : Dialogue α := do d (← Dialogue.filled template arguments)

end Scene

/-- What a step comes to, given as the text of its outcome. -/
def reporting {α : Type} (f : α → Outcome) (run : Run ω α) : Run ω Outcome := fun s =>
  let (result, s) := run s
  (result.map f, s)

namespace Step
open Scene

mutual

def run (held : Id) : Step → Run ω Outcome
  | .operate op => reporting .answer (onPool (perform op))
  | .gather ops => fun s =>
    let (results, s) := Scene.gather ops s
    (.ok (.results results), s)
  | .name => fun s => (.ok (.text s.name), s)
  | .acquire => reporting .number Scene.acquire
  | .release id => reporting (fun _ => .nothing) (onPool (Pool.release (id.getD held)))
  | .closePool => reporting (fun _ => .nothing) (onPool Pool.close)
  | .closeConnection id =>
    reporting (fun _ => .nothing) (onPool (Pool.closeConnection (id.getD held)))
  | .context steps => fun s =>
    let (result, s) := runInOrder held steps s
    let (closed, s) := s.onPool Pool.close
    (unlessFails (result.map .outcomes) closed, s)
  | .scope steps => fun s =>
    match Scene.acquire s with
    | (.error failure, s) => (.error failure, s)
    | (.ok id, s) =>
      let (result, s) := runInOrder id steps s
      let (released, s) := s.onPool (Pool.release id)
      (unlessFails (result.map .outcomes) released, s)
  | .fail failure => fun s => (.error failure, s)
  | .command id template arguments =>
    reporting .exchange
      (Scene.converse (id.getD held) (commanding template arguments Dialogue.command))
  | .expect id expected template arguments =>
    reporting (fun _ => .nothing)
      (Scene.converse (id.getD held) (commanding template arguments (Dialogue.expect expected)))
  | .readReply id => reporting .reply (Scene.converse (id.getD held) Dialogue.reply)
  | .sendLine id line =>
    reporting (fun _ => .nothing) (Scene.converse (id.getD held) (Dialogue.sendLine line))
  | .readLine id => reporting .text fun s =>
    let (result, _, pool) := Pool.use (id.getD held) none Holding.readLine s.pool
    (result, { s with pool })
  | .openData id => reporting .number (openStream (id.getD held))
  | .readData stream => reporting .lines (readStream stream)
  | .closeData stream => reporting (fun _ => .nothing) (closeStream stream)

/-- Carries out steps up to the first that fails. -/
def runInOrder (held : Id) : List Step → Run ω (List Outcome)
  | [], s => (.ok [], s)
  | step :: steps, s =>
    match run held step s with
    | (.error failure, s) => (.error failure, s)
    | (.ok outcome, s) =>
      let (result, s) := runInOrder held steps s
      (result.map (outcome :: ·), s)

end

end Step

structure Record (ω : Type) where
  result : Except Failure Outcome
  trace : Trace
  scene : Scene ω

/-- Carries out all steps of a scenario, each whatever became of those before it. -/
def runAll (s : Scene ω) : List Step → List (Record ω)
  | [] => []
  | step :: steps =>
    let n := Pool.network s.pool
    let fresh := { s with pool := Pool.withNetwork s.pool { n with trace := {} } }
    let (result, after) := step.run 0 fresh
    ⟨result, (Pool.network after.pool).trace, after⟩ :: runAll after steps

end FileTransfer.Scenario
