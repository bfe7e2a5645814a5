import FileTransfer.Session.Connection

/-!
# The life of a data stream

A stream over a socket is iterated any number of times and then closed, and each step on the way may
fail. What is done below the stream is told deed by deed, with the socket that each is done to.

* `Deed`: one thing done below a stream.
* `Footing`: what a stream stands on, and what it does from there.
* `Stands`, `Stands.read`, `Stands.close`: a stream does below it what its footing says.
* `Course`: all that can have been done below a stream that is not closed yet.
* `life_cycle`: what holds of the deeds of every life.
-/

namespace FileTransfer.Session
open FileTransfer.Text
set_option autoImplicit false

/-! ## Deeds -/

/-- The socket below a stream: the one that it was given, or the secured one that was made of it. -/
inductive Wire where
  | given
  | secured
  deriving DecidableEq, Repr

/-- One thing done below a stream, with the failure that it met, if any. -/
inductive Deed where
  | secure (failure? : Option Failure)
  | openReader (wire : Wire) (failure? : Option Failure)
  /-- Data are drawn through the reader. -/
  | draw
  | closeReader (failure? : Option Failure)
  | unwrap (failure? : Option Failure)
  | closeSocket (wire : Wire) (failure? : Option Failure)
  deriving DecidableEq, Repr

namespace Deed

def failure? : Deed → Option Failure
  | secure failure? | openReader _ failure? | closeReader failure? => failure?
  | unwrap failure? | closeSocket _ failure? => failure?
  | draw => none

/-- What is seen of a deed. Drawing data is not seen, and neither is the socket of a deed. -/
def action? (host : Value) (encoding : Encoding) : Deed → Option Action
  | secure _ => some (.wrap host)
  | openReader _ _ => some (.openReader encoding)
  | draw => none
  | closeReader _ => some .closeReader
  | unwrap _ => some .unwrap
  | closeSocket _ _ => some .closeSocket

/-- What is seen of deeds done on a connection. -/
def told (id : Id) (host : Value) (encoding : Encoding) (deeds : List Deed) : Trace :=
  ⟨(deeds.filterMap (action? host encoding)).map (Event.mk id), []⟩

theorem told_append (id : Id) (host : Value) (encoding : Encoding) (deeds later : List Deed) :
    told id host encoding (deeds ++ later) =
      told id host encoding deeds ++ told id host encoding later := by
  rw [told, List.filterMap_append, List.map_append]
  rfl

end Deed

/-! ## Footings -/

/-- What a stream stands on: its socket, whether that is still to be secured, and whether there is a
reader. -/
structure Footing where
  wire : Wire
  toSecure : Bool
  reading : Bool
  deriving DecidableEq, Repr

namespace Footing

/-- A reader is opened on the socket as it is, and data are drawn through it. -/
def openReader (f : Footing) (t : Transfer) : Footing × List Deed :=
  match t.openingReader with
  | some failure => (f, [.openReader f.wire (some failure)])
  | none => ({ f with reading := true }, [.openReader f.wire none, .draw])

/-- An iteration draws data through the reader. Where there is none yet the socket is secured first, if
it has to be. -/
def iterate (f : Footing) (t : Transfer) : Footing × List Deed :=
  if f.reading then (f, [.draw])
  else if f.toSecure then
    match t.securing with
    | some failure => (f, [.secure (some failure)])
    | none =>
      let (f, deeds) := openReader { f with wire := .secured, toSecure := false } t
      (f, .secure none :: deeds)
  else f.openReader t

/-- The reader is closed, then the security, unless the reader failed to, then the socket. -/
def close (f : Footing) (t : Transfer) : List Deed :=
  let readerFails := f.reading && t.closingReader.isSome
  (if f.reading then [.closeReader t.closingReader] else []) ++
    (if f.wire = .secured ∧ readerFails = false then [.unwrap t.unsecuring] else []) ++
    [.closeSocket f.wire t.closing]

/-- Iterations one after another, each with what it meets. -/
def iterated (f : Footing) : List Transfer → Footing × List Deed
  | [] => (f, [])
  | t :: ts =>
    let (f, deeds) := f.iterate t
    let (f, later) := f.iterated ts
    (f, deeds ++ later)

end Footing

/-! ## Streams -/

namespace Stream

/-- A stream as it is made over a socket. -/
def made (id : Id) (host : Value) (encoding : Encoding) (toSecure : Bool) : Stream :=
  { connection := id, transfer := {}, socket := some { host, encoding, toSecure } }

/-- The stream when `t` is what it meets from here on. -/
def meeting (s : Stream) (t : Transfer) : Stream := { s with transfer := t }

/-- Iterations one after another. What each meets is its own, the data as well: one that is broken off
by its reader meets just the data that were read. -/
def iterated (s : Stream) : List Transfer → Stream × Trace
  | [] => (s, {})
  | t :: ts =>
    let (_, s, trace) := (s.meeting t).read
    let (s, later) := s.iterated ts
    (s, trace ++ later)

end Stream

/-- The streams over sockets are those of the data channels that sessions open. -/
theorem openData_made {h h' : Holding} {info : SessionInfo}
    (hcarrier : h.connection.carrier = .session info) (hopen : h.openData = (.ok (), h')) :
    ∃ t, h'.stream =
      some ((Stream.made h.connection.id info.host info.encoding info.secureData).meeting t) := by
  simp only [Holding.openData, hcarrier] at hopen
  split at hopen
  · cases hopen
  · split at hopen
    · cases hopen
    · cases hopen
      exact ⟨h.connection.nextTransfer, rfl⟩

section Stands
variable {id : Id} {host : Value} {encoding : Encoding}

/-- A stream over an open socket stands on a footing. -/
inductive Stands (id : Id) (host : Value) (encoding : Encoding) : Footing → Stream → Prop
  | intro (transfer : Transfer) (toSecure secured : Bool) (reader : Option Decoder) :
      Stands id host encoding ⟨if secured then .secured else .given, toSecure, reader.isSome⟩
        ⟨id, transfer, some ⟨host, encoding, toSecure, secured, reader, false⟩⟩

theorem stands_made (toSecure : Bool) :
    Stands id host encoding ⟨.given, toSecure, false⟩ (.made id host encoding toSecure) :=
  .intro {} toSecure false none

/-- What an iteration comes to when it does what a footing says. It gives nothing and uses up nothing
unless data are drawn, and fails with what keeps it from drawing. -/
structure Keeps (id : Id) (host : Value) (encoding : Encoding) (t : Transfer)
    (result : Drained × Stream × Trace) (next : Footing × List Deed) : Prop where
  stands : Stands id host encoding next.1 result.2.1
  told : result.2.2 = Deed.told id host encoding next.2
  undrawn : .draw ∉ next.2 → result.1.1 = [] ∧ result.2.1.transfer = t
  fails : ∀ deed ∈ next.2, ∀ failure, deed.failure? = some failure → result.1 = ([], some failure)

theorem readWith_open (s : Stream) (socket : Socket) (hopen : socket.readerClosed = false)
    (decoder : Decoder) : ∃ drained transfer decoder', s.readWith socket decoder =
      (drained, ⟨s.connection, transfer, some { socket with reader := some decoder' }⟩) :=
  ⟨_, _, _, if_neg (Bool.eq_false_iff.mp hopen)⟩

section Iterations
variable (toSecure secured : Bool) (t : Transfer)

theorem keeps_reader (decoder : Decoder) :
    Keeps id host encoding t
      (Stream.read ⟨id, t, some ⟨host, encoding, toSecure, secured, some decoder, false⟩⟩)
      (Footing.iterate ⟨if secured then .secured else .given, toSecure, true⟩ t) := by
  let socket : Socket := ⟨host, encoding, toSecure, secured, some decoder, false⟩
  obtain ⟨drained, transfer, decoder', hread⟩ := readWith_open ⟨id, t, some socket⟩ socket rfl decoder
  unfold Stream.read
  dsimp only
  rw [hread]
  refine ⟨.intro transfer toSecure secured (some decoder'), rfl, ?_, ?_⟩
  · exact fun hundrawn => absurd List.mem_cons_self hundrawn
  · intro deed hdeed failure hfailure
    rw [List.mem_singleton.mp hdeed] at hfailure
    cases hfailure

theorem keeps_openReader :
    Keeps id host encoding t
      (Stream.read ⟨id, t, some ⟨host, encoding, false, secured, none, false⟩⟩)
      (Footing.iterate ⟨if secured then .secured else .given, false, false⟩ t) := by
  let socket : Socket := ⟨host, encoding, false, secured, none, false⟩
  show Keeps id host encoding t _ (Footing.openReader _ t)
  unfold Stream.read Footing.openReader
  dsimp only [Stream.secure]
  rw [if_neg Bool.false_ne_true]
  dsimp only
  cases t.openingReader with
  | some failure =>
    refine ⟨.intro t false secured none, rfl, fun _ => ⟨rfl, rfl⟩, ?_⟩
    intro deed hdeed failure' hfailure
    rw [List.mem_singleton.mp hdeed] at hfailure
    cases hfailure
    rfl
  | none =>
    obtain ⟨drained, transfer, decoder', hread⟩ :=
      readWith_open ⟨id, t, some socket⟩ socket rfl { encoding := encoding }
    dsimp only
    rw [hread]
    refine ⟨.intro transfer false secured (some decoder'), rfl, ?_, ?_⟩
    · exact fun hundrawn => absurd (List.mem_cons_of_mem _ List.mem_cons_self) hundrawn
    · simp [Deed.failure?]

/-- Once the socket is secured, an iteration goes on as over any other. -/
theorem read_of_secured (hsecuring : t.securing = none) :
    Stream.read ⟨id, t, some ⟨host, encoding, true, secured, none, false⟩⟩ =
      let result := Stream.read ⟨id, t, some ⟨host, encoding, false, true, none, false⟩⟩
      (result.1, result.2.1, Deed.told id host encoding [.secure none] ++ result.2.2) := by
  unfold Stream.read
  dsimp only [Stream.secure]
  rw [if_pos rfl, if_neg Bool.false_ne_true, hsecuring]
  cases t.openingReader <;> rfl

theorem keeps_secure :
    Keeps id host encoding t
      (Stream.read ⟨id, t, some ⟨host, encoding, true, secured, none, false⟩⟩)
      (Footing.iterate ⟨if secured then .secured else .given, true, false⟩ t) := by
  cases hsecuring : t.securing with
  | some failure =>
    unfold Stream.read Footing.iterate
    dsimp only [Stream.secure]
    simp only [hsecuring, if_true, Bool.false_eq_true, if_false]
    refine ⟨.intro t true secured none, rfl, fun _ => ⟨rfl, rfl⟩, ?_⟩
    intro deed hdeed failure' hfailure
    rw [List.mem_singleton.mp hdeed] at hfailure
    cases hfailure
    rfl
  | none =>
    have hkeeps : Keeps id host encoding t _ _ := keeps_openReader true t
    obtain ⟨hstands, htold, hundrawn, hfails⟩ := hkeeps
    have hnext : Footing.iterate ⟨if secured then .secured else .given, true, false⟩ t =
        let next := Footing.iterate ⟨.secured, false, false⟩ t
        (next.1, .secure none :: next.2) := by
      simp [Footing.iterate, hsecuring]
    rw [read_of_secured secured t hsecuring, hnext]
    refine ⟨hstands, ?_, fun h => hundrawn (List.not_mem_of_not_mem_cons h), ?_⟩
    · dsimp only
      rw [htold, ← Deed.told_append]
      rfl
    · intro deed hdeed failure hfailure
      rcases List.mem_cons.mp hdeed with rfl | hdeed
      · cases hfailure
      · exact hfails deed hdeed failure hfailure

end Iterations

theorem Stands.read {f : Footing} {s : Stream} (h : Stands id host encoding f s) (t : Transfer) :
    Keeps id host encoding t (s.meeting t).read (f.iterate t) := by
  obtain ⟨transfer, toSecure, secured, reader⟩ := h
  cases reader with
  | some decoder => exact keeps_reader toSecure secured t decoder
  | none =>
    cases toSecure with
    | false => exact keeps_openReader secured t
    | true => exact keeps_secure secured t

/-- Closing does what the footing says, and passes on the last failure that it met. -/
theorem Stands.close {f : Footing} {s : Stream} (h : Stands id host encoding f s) (t : Transfer) :
    (s.meeting t).close.1 = outcome ((f.close t).reverse.findSome? Deed.failure?) ∧
      (s.meeting t).close.2.2 = Deed.told id host encoding (f.close t) := by
  obtain ⟨transfer, toSecure, secured, reader⟩ := h
  unfold Stream.close Stream.closeUpper Stream.closeReader Stream.unsecure Footing.close
  dsimp only [Stream.meeting]
  cases reader <;> cases secured <;> cases t.closingReader <;> cases t.unsecuring <;> cases t.closing
  all_goals exact ⟨rfl, rfl⟩

end Stands

/-! ## The course of a life -/

/-- The socket that data are read from. -/
def Wire.needed (toSecure : Bool) : Wire := if toSecure then .secured else .given

/-- What was done to secure a socket, where it had to be, up to the time when it was. -/
inductive Ready : Bool → List Deed → Prop
  | given : Ready false []
  | secured (failures : List Failure) :
      Ready true (failures.map (fun failure => .secure (some failure)) ++ [.secure none])

/-- What can have been done below a stream, and what it stands on then: securing the socket may fail any
number of times, then opening the reader; from the time when it is open data are drawn through it. -/
inductive Course (toSecure : Bool) : Footing → List Deed → Prop
  | securing (hneeded : toSecure = true) (failures : List Failure) :
      Course toSecure ⟨.given, true, false⟩ (failures.map fun failure => .secure (some failure))
  | opening {start : List Deed} (hready : Ready toSecure start) (failures : List Failure) :
      Course toSecure ⟨.needed toSecure, false, false⟩
        (start ++ failures.map fun failure => .openReader (.needed toSecure) (some failure))
  | reading {start : List Deed} (hready : Ready toSecure start) (failures : List Failure) (draws : Nat) :
      Course toSecure ⟨.needed toSecure, false, true⟩
        (start ++ failures.map (fun failure => .openReader (.needed toSecure) (some failure)) ++
          .openReader (.needed toSecure) none :: List.replicate draws .draw)

theorem course_start (toSecure : Bool) : Course toSecure ⟨.given, toSecure, false⟩ [] := by
  cases toSecure with
  | false => exact .opening .given []
  | true => exact .securing rfl []

section Course
variable {toSecure : Bool} {f : Footing} {deeds : List Deed}

/-- A reader is opened on the socket that is ready for it, or fails to be. -/
theorem Course.openReader {start : List Deed} (hready : Ready toSecure start) (failures : List Failure)
    (t : Transfer) :
    let next := Footing.openReader ⟨.needed toSecure, false, false⟩ t
    Course toSecure next.1
      (start ++ failures.map (fun failure => .openReader (.needed toSecure) (some failure)) ++ next.2) := by
  unfold Footing.openReader
  cases t.openingReader with
  | some failure =>
    have hlonger := Course.opening hready (failures ++ [failure])
    rwa [List.map_append, ← List.append_assoc] at hlonger
  | none => exact .reading hready failures 1

theorem Course.iterate (h : Course toSecure f deeds) (t : Transfer) :
    Course toSecure (f.iterate t).1 (deeds ++ (f.iterate t).2) := by
  cases h with
  | securing hneeded failures =>
    subst hneeded
    cases hsecuring : t.securing with
    | some failure =>
      have hlonger : Course true _ _ := .securing rfl (failures ++ [failure])
      rw [List.map_append] at hlonger
      simpa [Footing.iterate, hsecuring] using hlonger
    | none =>
      have hopened := Course.openReader (.secured failures) [] t
      simpa [Footing.iterate, hsecuring, Wire.needed] using hopened
  | opening hready failures => exact .openReader hready failures t
  | reading hready failures draws =>
    have hlonger := Course.reading hready failures (draws + 1)
    rw [List.replicate_succ', ← List.cons_append, ← List.append_assoc] at hlonger
    exact hlonger

/-- A stream goes the course that its footing says, whatever its iterations meet. -/
theorem Course.iterated {id : Id} {host : Value} {encoding : Encoding} {s : Stream}
    (h : Course toSecure f deeds) (hstands : Stands id host encoding f s) (ts : List Transfer) :
    Course toSecure (f.iterated ts).1 (deeds ++ (f.iterated ts).2) ∧
      Stands id host encoding (f.iterated ts).1 (s.iterated ts).1 ∧
      (s.iterated ts).2 = Deed.told id host encoding (f.iterated ts).2 := by
  induction ts generalizing f deeds s with
  | nil =>
    refine ⟨?_, hstands, rfl⟩
    rw [Footing.iterated, List.append_nil]
    exact h
  | cons t ts ih =>
    have hkeeps := hstands.read t
    obtain ⟨hcourse, hlater, htold⟩ := ih (h.iterate t) hkeeps.stands
    refine ⟨?_, hlater, ?_⟩
    · rw [List.append_assoc] at hcourse
      exact hcourse
    · rw [Stream.iterated, Footing.iterated]
      dsimp only
      rw [hkeeps.told, htold, Deed.told_append]

theorem Ready.mem (h : Ready toSecure deeds) {deed : Deed} (hdeed : deed ∈ deeds) :
    toSecure = true ∧ ∃ failure?, deed = .secure failure? := by
  cases h with
  | given => cases hdeed
  | secured failures =>
    rcases List.mem_append.mp hdeed with hfailed | hlast
    · obtain ⟨failure, -, rfl⟩ := List.mem_map.mp hfailed
      exact ⟨rfl, _, rfl⟩
    · exact ⟨rfl, _, List.mem_singleton.mp hlast⟩

theorem Ready.count (h : Ready toSecure deeds) :
    deeds.count (.secure none) = if toSecure then 1 else 0 := by
  cases h with
  | given => rfl
  | secured failures => simp [List.count_append, List.count_eq_zero]

/-- Securing succeeds once at most, and the stream stands on the secured socket from then on. -/
theorem Course.count (h : Course toSecure f deeds) :
    deeds.count (.secure none) = if f.wire = .secured then 1 else 0 := by
  have hwire : (if Wire.needed toSecure = .secured then 1 else 0) = if toSecure then 1 else 0 := by
    cases toSecure <;> rfl
  cases h with
  | securing => simp [List.count_eq_zero]
  | opening hready => simp [List.count_append, List.count_eq_zero, hready.count, hwire]
  | reading hready => simp [List.count_append, List.count_eq_zero, hready.count, hwire]

theorem Course.wire_eq (h : Course toSecure f deeds) :
    f.wire = if .secure none ∈ deeds then .secured else .given := by
  have hmem : .secure none ∈ deeds ↔ f.wire = .secured := by
    rw [← List.count_pos_iff, h.count]
    split <;> simp_all
  simp only [hmem]
  cases f.wire <;> rfl

/-- Before a reader is open there are failures to open one and what was done to secure the socket; after
that data are drawn, and nothing else is done. -/
theorem Course.split (h : Course toSecure f deeds) : ∃ before after, deeds = before ++ after ∧
    (∀ deed ∈ before, (toSecure = true ∧ ∃ failure?, deed = .secure failure?) ∨
      ∃ failure, deed = .openReader (.needed toSecure) (some failure)) ∧
    (after = [] ∨ ∃ draws, after = .openReader (.needed toSecure) none :: List.replicate draws .draw) := by
  have hopening {start : List Deed} (hready : Ready toSecure start) (failures : List Failure) :
      ∀ deed ∈ start ++ failures.map fun failure => .openReader (.needed toSecure) (some failure),
        (toSecure = true ∧ ∃ failure?, deed = .secure failure?) ∨
          ∃ failure, deed = .openReader (.needed toSecure) (some failure) := by
    intro deed hdeed
    rcases List.mem_append.mp hdeed with hstart | hfailed
    · exact .inl (hready.mem hstart)
    · obtain ⟨failure, -, rfl⟩ := List.mem_map.mp hfailed
      exact .inr ⟨failure, rfl⟩
  cases h with
  | securing hneeded failures =>
    refine ⟨_, [], (List.append_nil _).symm, fun deed hdeed => ?_, .inl rfl⟩
    obtain ⟨failure, -, rfl⟩ := List.mem_map.mp hdeed
    exact .inl ⟨hneeded, _, rfl⟩
  | opening hready failures =>
    exact ⟨_, [], (List.append_nil _).symm, hopening hready failures, .inl rfl⟩
  | reading hready failures draws => exact ⟨_, _, rfl, hopening hready failures, .inr ⟨draws, rfl⟩⟩

end Course

/-! ## Closing -/

section Closing
variable (f : Footing) (t : Transfer)

/-- The socket is closed last, whatever became of what was put on top of it. -/
theorem close_eq : ∃ upper, f.close t = upper ++ [.closeSocket f.wire t.closing] ∧
    ∀ deed ∈ upper, (∃ failure?, deed = .closeReader failure?) ∨ ∃ failure?, deed = .unwrap failure? := by
  refine ⟨_, rfl, fun deed hdeed => ?_⟩
  rcases List.mem_append.mp hdeed with hreader | hsecurity
  · exact .inl ⟨_, List.mem_singleton.mp (List.mem_ite_nil_right.mp hreader).2⟩
  · exact .inr ⟨_, List.mem_singleton.mp (List.mem_ite_nil_right.mp hsecurity).2⟩

/-- A failure above the socket is the last one when the socket itself is closed without one: once the
reader has failed to close, the security is left alone. -/
theorem last_failure (hsocket : t.closing = none) {deed : Deed} (hdeed : deed ∈ f.close t)
    {failure : Failure} (hfailure : deed.failure? = some failure) :
    (f.close t).reverse.findSome? Deed.failure? = some failure := by
  rcases List.mem_append.mp hdeed with hupper | hlast
  · rcases List.mem_append.mp hupper with hreader | hsecurity
    · obtain ⟨hreading, hreader⟩ := List.mem_ite_nil_right.mp hreader
      rw [List.mem_singleton.mp hreader] at hfailure
      have hfails : t.closingReader = some failure := hfailure
      rw [Footing.close, hreading, hfails, hsocket]
      simp only [Option.isSome_some, Bool.and_true, Bool.true_eq_false, and_false, if_true, if_false]
      rfl
    · obtain ⟨hsecured, hsecurity⟩ := List.mem_ite_nil_right.mp hsecurity
      rw [List.mem_singleton.mp hsecurity] at hfailure
      have hfails : t.unsecuring = some failure := hfailure
      rw [Footing.close, if_pos hsecured, hfails, hsocket, List.reverse_append, List.reverse_append]
      rfl
  · rw [List.mem_singleton.mp hlast, Deed.failure?, hsocket] at hfailure
    cases hfailure

end Closing

/-- What is done below a stream in iterations of any number, and then to close it, whichever steps fail.
Data are drawn only through a reader, which is the only one to be opened and is opened on the secured
socket where the socket had to be secured; securing succeeds once at most, and never while closing. The
socket that the stream stands on is closed last of all, and only there, and closing passes on the
failure to close what was on top of it. -/
theorem life_cycle (id : Id) (host : Value) (encoding : Encoding) (toSecure : Bool)
    (starts : List Transfer) (t : Transfer) :
    let s := (Stream.made id host encoding toSecure).iterated starts
    let f := (Footing.mk .given toSecure false).iterated starts
    let iteration := (s.1.meeting t).read
    let ending := (s.1.meeting t).close
    let deeds := f.2
    let next := (f.1.iterate t).2
    let closing := f.1.close t
    (Stands id host encoding f.1 s.1 ∧ s.2 = Deed.told id host encoding deeds ∧
      iteration.2.2 = Deed.told id host encoding next ∧
      ending.2.2 = Deed.told id host encoding closing) ∧
    ((∃ before after, deeds = before ++ after ∧
        (∀ deed ∈ before, (toSecure = true ∧ ∃ failure?, deed = .secure failure?) ∨
          ∃ failure, deed = .openReader (.needed toSecure) (some failure)) ∧
        (after = [] ∨
          ∃ draws, after = .openReader (.needed toSecure) none :: List.replicate draws .draw)) ∧
      (.draw ∉ next → iteration.1.1 = [] ∧ iteration.2.1.transfer = t) ∧
      ∀ deed ∈ next, ∀ failure, deed.failure? = some failure → iteration.1 = ([], some failure)) ∧
    (deeds.count (.secure none) ≤ 1 ∧ ∀ failure?, .secure failure? ∉ closing) ∧
    (∃ upper, closing = upper ++
        [.closeSocket (if .secure none ∈ deeds then .secured else .given) t.closing] ∧
      ∀ deed ∈ upper, (∃ failure?, deed = .closeReader failure?) ∨ ∃ failure?, deed = .unwrap failure?) ∧
    ending.1 = outcome (closing.reverse.findSome? Deed.failure?) ∧
    (t.closing = none → ∀ deed ∈ closing, ∀ failure, deed.failure? = some failure →
      ending.1 = .error failure) := by
  intro s f iteration ending deeds next closing
  have hmade : Stands id host encoding _ _ := stands_made toSecure
  obtain ⟨hcourse, hstands, htold⟩ := (course_start toSecure).iterated hmade starts
  rw [List.nil_append] at hcourse
  have hkeeps := hstands.read t
  obtain ⟨hpassed, hended⟩ := hstands.close t
  obtain ⟨upper, hclosing, hupper⟩ := close_eq f.1 t
  have honce : deeds.count (.secure none) ≤ 1 := by
    rw [hcourse.count]
    split <;> decide
  refine ⟨⟨hstands, htold, hkeeps.told, hended⟩, ⟨hcourse.split, hkeeps.undrawn, hkeeps.fails⟩,
    ⟨honce, fun failure? hsecure => ?_⟩, ⟨upper, ?_, hupper⟩, hpassed,
    fun hsocket deed hdeed failure hfailure => ?_⟩
  · rw [show closing = _ from hclosing] at hsecure
    rcases List.mem_append.mp hsecure with hmem | hmem
    · obtain ⟨_, hdeed⟩ | ⟨_, hdeed⟩ := hupper _ hmem <;> cases hdeed
    · cases List.mem_singleton.mp hmem
  · rw [← hcourse.wire_eq]
    exact hclosing
  · rw [show ending.1 = _ from hpassed, last_failure f.1 t hsocket hdeed hfailure]
    rfl

/-- The socket is secured at the second attempt, the reader opened at the third; the reader fails to
close, so that the socket is closed without winding up its security. -/
example (failure : Failure) :
    let f := (Footing.mk .given true false).iterated
      [{ securing := some failure }, { openingReader := some failure }, {}, {}]
    f.2 ++ f.1.close { closingReader := some failure } =
      [.secure (some failure), .secure none, .openReader .secured (some failure),
        .openReader .secured none, .draw, .draw, .closeReader (some failure),
        .closeSocket .secured none] :=
  rfl

end FileTransfer.Session
