import FileTransfer.Proofs.Pool.CommandLines
import FileTransfer.Proofs.Pool.Lockstep
import FileTransfer.Proofs.Text.PathForm

/-!
# Paths with line breaks

A path with a line break is refused where its command line would be sent. Only a renaming has sent a
line before that, when the path it comes to first has no line break.

* `Operation.paths`, `Operation.sentFirst?`: the paths of an operation, and the line that it sends before
  it comes to one with a line break.
* `takes_refusedLine`, `takes_refusedListing`: the refusal of a line.
* `refused_at_once`, `refused_half_way`: an operation before it has sent anything, and a renaming when
  its first line is out.
* `refused_path`: what an operation with such a path does, and what it comes to.
* `refused_path_half_done`: a renaming that leaves its first line pending.
-/

namespace FileTransfer
open FileTransfer.Reply FileTransfer.Session
set_option autoImplicit false

/-! ## Paths of operations -/

namespace Operation

/-- The paths that an operation is given. -/
def paths : Operation → List RemotePath
  | .delete path => [path]
  | .rename source target => [source, target]
  | .makeDirectory path => [path]
  | .removeDirectory path => [path]
  | .workingDirectory => []
  | .readDirectory path => [path]
  | .status path => [path]

/-- The line that an operation sends before it comes to a path with a line break, when it has one. -/
def sentFirst? : Operation → Option String
  | .rename source _ =>
    if hasLineBreak source.text then none else some ("RNFR " ++ source.wire)
  | _ => none

theorem sentFirst?_eq_some_iff {op : Operation} {line : String} :
    op.sentFirst? = some line ↔ ∃ source target, op = .rename source target ∧
      hasLineBreak source.text = false ∧ "RNFR " ++ source.wire = line := by
  cases op with
  | rename source target =>
    rw [sentFirst?, Option.ite_none_left_eq_some, Bool.not_eq_true, Option.some.injEq]
    constructor
    · rintro ⟨hsource, hline⟩
      exact ⟨source, target, rfl, hsource, hline⟩
    · rintro ⟨_, _, ⟨⟩, hsource, hline⟩
      exact ⟨hsource, hline⟩
  | _ => simp [sentFirst?]

end Operation

theorem hasLineBreak_line {word : String} (hword : hasLineBreak word = false) (path : RemotePath) :
    hasLineBreak (word ++ path.wire) = hasLineBreak path.text := by
  rw [hasLineBreak_append, RemotePath.hasLineBreak_wire, hword, Bool.false_or]

/-! ## Refusals -/

/-- What becomes of closing a data channel: that the system fails to is only noted. -/
def Session.Stream.ending (s : Stream) : Except Failure Unit :=
  match s.close.1 with
  | .ok () => .ok ()
  | .error failure => if failure.isFault Fault.isSystem then .ok () else .error failure

theorem control_acts (ts : List Turn) :
    (ts.filter Turn.acts).flatMap Turn.control = ts.flatMap Turn.control := by
  induction ts with
  | nil => rfl
  | cons t ts ih =>
    cases t with
    | noted text => exact ih
    | _ => exact congrArg (_ ++ ·) ih

theorem breaks_acts (ts : List Turn) :
    (ts.filter Turn.acts).any Turn.breaks = ts.any Turn.breaks := by
  induction ts with
  | nil => rfl
  | cons t ts ih =>
    cases t with
    | noted text => exact ih
    | _ => exact congrArg (_ || ·) ih

/-- A reply that is there in full is read line by line, and nothing breaks. -/
theorem received_frame {f : Frame} {replies later : List Incoming} (hf : f.WellFormed)
    (hreplies : replies = f.lines.map .ok ++ later) :
    (Turn.received .opening replies).control = f.lines.map .got ∧
      (Turn.received .opening replies).breaks = false := by
  have hread : (Reader.opening.run replies).outcome = .ok f.reply := by
    rw [hreplies]
    exact congrArg Reading.outcome (read_frame hf later)
  refine ⟨(control_received hread).2, ?_⟩
  rw [Turn.breaks, hread]

namespace Session.Holding
open Dialogue
variable {h : Holding} {path : RemotePath} (hbreak : hasLineBreak path.text = true)
include hbreak

theorem takes_refusedCommand {word : String} (hword : hasLineBreak word = false) (h : Holding) :
    Takes (command (word ++ path.wire)) h [] (.error (.fault .lineBreak)) h := by
  rw [command, hasLineBreak_line hword, hbreak]
  exact .done _ h

/-- An operation that comes to a path with a line break first of all does nothing. -/
theorem takes_refusedLine {op : Operation} (hpath : path ∈ op.paths) (hfirst : op.sentFirst? = none)
    (hdata : ∀ p, op ≠ .readDirectory p) (h : Holding) :
    Takes op.dialogue h [] (.error (.fault .lineBreak)) h := by
  cases op with
  | delete p =>
    obtain rfl := List.mem_singleton.mp hpath
    exact ((takes_refusedCommand hbreak (by decide) h).bind_error _).bind_error _
  | rename source target =>
    have hsource : hasLineBreak source.text = true := by simpa [Operation.sentFirst?] using hfirst
    exact ((takes_refusedCommand hsource (by decide) h).bind_error _).bind_error _
  | makeDirectory p =>
    obtain rfl := List.mem_singleton.mp hpath
    exact (takes_refusedCommand hbreak (by decide) h).bind_error _
  | removeDirectory p =>
    obtain rfl := List.mem_singleton.mp hpath
    exact ((takes_refusedCommand hbreak (by decide) h).bind_error _).bind_error _
  | workingDirectory => cases hpath
  | readDirectory p => exact absurd rfl (hdata p)
  | status p =>
    obtain rfl := List.mem_singleton.mp hpath
    exact ((takes_refusedCommand hbreak (by decide) h).bind_error _).map Told.about

omit hbreak in
theorem takes_closeQuietly_ending {s : Stream} (hstream : h.stream = some s) :
    ∃ h', Takes closeQuietly h [.closed s.close.1] s.ending h' ∧ h'.connection = h.connection := by
  obtain ⟨h₁, hclosed, hconnection⟩ := takes_closeChannel hstream
  by_cases hsystem : ∀ failure, s.close.1 = .error failure → failure.isFault Fault.isSystem = true
  · obtain ⟨h', hquiet, hconnection'⟩ := takes_closeQuietly hstream hsystem
    have hending : s.ending = .ok () := by
      unfold Stream.ending
      split
      case h_1 => rfl
      case h_2 failure hclose => exact if_pos (hsystem failure hclose)
    rw [hending]
    exact ⟨h', hquiet, hconnection'⟩
  · -- a failure that is not of the system goes past the place where it would be noted
    obtain ⟨failure, hclose, hother⟩ : ∃ failure, s.close.1 = .error failure ∧
        ¬ failure.isFault Fault.isSystem = true := by
      simpa using hsystem
    have hending : s.ending = .error failure := by
      rw [Stream.ending, hclose]
      exact if_neg hother
    rw [hclose] at hclosed
    rw [hending, hclose]
    refine ⟨h₁, hclosed.attempt.bind_quiet ?_, hconnection⟩
    dsimp only
    rw [if_neg hother]
    exact .done _ h₁

/-- A listing of a path with a line break opens its data channel and closes it. -/
theorem takes_refusedListing (htied : h.Tied) (hopen : h.openData.1 = .ok ()) :
    ∃ s h', h.openData.2.stream = some s ∧
      Takes (Operation.readDirectory path).dialogue h [.opened none (.ok ()), .closed s.close.1]
        (Pool.unlessFails (.error (.fault .lineBreak)) s.ending) h' ∧
      h'.connection = h.openData.2.connection := by
  have hopened : h.openData = (.ok (), h.openData.2) := Prod.ext hopen rfl
  obtain ⟨s, hstream⟩ : ∃ s, h.openData.2.stream = some s := by
    have hsome := (accounts_openData h htied).opened_eq
    rw [hopen, Turn.opensData, Bool.or_true] at hsome
    exact Option.isSome_iff_exists.mp hsome
  have hrefused : Takes (command ("MLSD " ++ path.wire)) h.openData.2 [] _ h.openData.2 :=
    takes_refusedCommand hbreak (by decide) _
  have htransfer : Takes (expect (.category .positivePreliminary) ("MLSD " ++ path.wire) >>=
      fun _ => collect ("MLSD " ++ path.wire)) h.openData.2 [] (.error (.fault .lineBreak))
      h.openData.2 :=
    (hrefused.bind_error _).bind_error _
  obtain ⟨h', hclosed, hconnection⟩ := takes_closeQuietly_ending hstream
  refine ⟨s, h', hstream, ?_, hconnection⟩
  cases hending : s.ending with
  | ok _ =>
    rw [hending] at hclosed
    exact (takes_dataCommand_error hopened htransfer hclosed).map Told.listing
  | error failure =>
    rw [hending] at hclosed
    have hfailed : Takes (dataCommand ("MLSD " ++ path.wire)) h
        [.opened none (.ok ()), .closed s.close.1] (.error failure) h' :=
      (takes_openChannel hopened).bind (htransfer.attempt.bind (hclosed.bind_error _))
    exact hfailed.map Told.listing

end Session.Holding

/-! ## A line sent before -/

namespace Dialogue

theorem linesSent_expect {e : Expected} {line : String} {ts : List Turn} {r : Except Failure Unit}
    (hline : hasLineBreak line = false) (h : Course (expect e line) ts r) :
    linesSent (ts.flatMap Turn.control) = [line] := by
  obtain ⟨q, hcommand⟩ : ∃ q, Course (command line) ts q := by
    obtain ⟨failure, hcommand, -⟩ | ⟨a, hcommand, -⟩ := course_expect h
    · exact ⟨_, hcommand⟩
    · exact ⟨_, hcommand⟩
  obtain ⟨hbreak, -⟩ | ⟨-, ⟨note, failure, -, rfl⟩ | ⟨note, us, hreply, rfl⟩⟩ :=
    course_command hcommand
  · rw [hline] at hbreak
    cases hbreak
  · rfl
  · have hsent : linesSent ((Turn.noted note :: .sent line (.ok ()) :: us).flatMap Turn.control) =
        [line] ++ linesSent (us.flatMap Turn.control) := linesSent_append [.sent line] _
    rw [hsent, List.prefix_nil.mp (sends_reply us q hreply).front]
    rfl

/-- A renaming to a path with a line break sends its first line, and no other. -/
theorem linesSent_renaming {source target : RemotePath} {ts : List Turn} {r : Except Failure Told}
    (hsource : hasLineBreak source.text = false) (htarget : hasLineBreak target.text = true)
    (h : Course (Operation.rename source target).dialogue ts r) :
    linesSent (ts.flatMap Turn.control) = ["RNFR " ++ source.wire] := by
  have hline : hasLineBreak ("RNFR " ++ source.wire) = false :=
    (hasLineBreak_line (by decide) source).trans hsource
  obtain ⟨hfront, hsingle, -⟩ := sends_operation _ ts r h
  obtain ⟨_, us, vs, hfirst, -, rfl⟩ | ⟨failure, hfirst, -⟩ := course_bind h
  · have hus := linesSent_expect hline hfirst
    rw [List.flatMap_append, linesSent_append, hus] at hfront hsingle ⊢
    have hvs := (List.prefix_append_right_inj ["RNFR " ++ source.wire]).mp hfront
    -- the only line that could follow has a line break
    have hnone : linesSent (vs.flatMap Turn.control) = [] := by
      refine List.eq_nil_iff_forall_not_mem.mpr fun line hmem => ?_
      have hone := hsingle line (List.mem_append_right _ hmem)
      rw [List.mem_singleton.mp (hvs.subset hmem), hasLineBreak_line (by decide), htarget] at hone
      cases hone
    rw [hnone]
    rfl
  · exact linesSent_expect hline hfirst

end Dialogue

namespace Session.Holding
open Dialogue

theorem takes_renaming {h : Holding} {source target : RemotePath} {f : Frame}
    {later : List Incoming} (hsource : hasLineBreak source.text = false)
    (htarget : hasLineBreak target.text = true) (hsends : h.connection.sends.headD none = none)
    (hf : f.WellFormed) (hreplies : h.connection.replies = f.lines.map .ok ++ later) :
    ∃ h', Takes (Operation.rename source target).dialogue h
        [.sent ("RNFR " ++ source.wire) (.ok ()), .received .opening h.connection.replies]
        (.error (if f.code = 350 then .fault .lineBreak
          else .protocol f.code f.reply.message (some ("RNFR " ++ source.wire)) none)) h' ∧
      h'.connection.replies = later := by
  have hline : hasLineBreak ("RNFR " ++ source.wire) = false :=
    (hasLineBreak_line (by decide) source).trans hsource
  have hadmits : (coded .fileActionPending).admits f.code = .ok (decide (f.code = 350)) := by
    refine congrArg Except.ok (decide_eq_decide.mpr ?_)
    show (350 : Int) = f.code ↔ f.code = 350
    omega
  obtain ⟨h', hfirst, hlater, -⟩ := takes_expect hadmits hline hsends hf hreplies
  refine ⟨h', ?_, hlater⟩
  rw [Pool.censored_of_word (by decide) (by decide)] at hfirst
  by_cases hcode : f.code = 350
  · rw [decide_eq_true hcode] at hfirst
    rw [if_pos hcode]
    have hsecond : Takes (command ("RNTO " ++ target.wire)) h' [] _ h' :=
      takes_refusedCommand htarget (by decide) h'
    exact hfirst.bind_quiet ((hsecond.bind_error _).bind_error _)
  · rw [decide_eq_false hcode] at hfirst
    rw [if_neg hcode]
    exact hfirst.bind_error _

end Session.Holding

/-! ## Refused paths -/

namespace Pool
variable {ω : Type} [Pool ω] {w w' : ω} {id : Id}

/-- What is seen of an operation whose way through its dialogue is known. -/
theorem perform_of_takes (hacquire : Pool.acquire w = (.ok id, w')) {op : Operation}
    {ts : List Turn} {told : Except Failure Told} {h : Holding}
    (htakes : Holding.Takes op.dialogue { connection := (Pool.network w').connection id } ts told h) :
    let held : Holding := { connection := (Pool.network w').connection id }
    let left := (Holding.run op.dialogue held).2.connection
    (Pool.perform op (⟨w, []⟩ : Watched ω)).2.calls.filterMap Call.control? =
        (ts.flatMap Turn.control).map (Prod.mk id) ∧
      left = h.connection ∧
      left.broken = (held.connection.broken || ts.any Turn.breaks) ∧
      (Pool.perform op w).1 = unlessFails (told >>= Told.answer)
        (Pool.release id (Pool.converse id op.dialogue w').2).1 := by
  intro held left
  have hbroken := (Holding.advances_run op.dialogue held (Holding.tied_new held.connection)).broken_eq
  rw [← breaks_acts, htakes.turns_eq] at hbroken
  refine ⟨?_, congrArg (·.2.connection) htakes.run_eq, hbroken,
    perform_eq hacquire op (congrArg Prod.fst htakes.run_eq)⟩
  rw [Watched.perform_watched]
  dsimp only
  rw [List.nil_append, usage_control op.dialogue hacquire, ← control_acts, htakes.turns_eq]

theorem unlessFails_error_answer (failure : Failure) (released : Except Failure Unit) :
    (unlessFails (.error failure) released >>= Told.answer) =
      unlessFails (.error failure) released := by
  cases released <;> rfl

/-- An operation that comes to a path with a line break before it has sent anything. -/
theorem refused_at_once {op : Operation} {path : RemotePath}
    (hacquire : Pool.acquire w = (.ok id, w')) (hpath : path ∈ op.paths)
    (hbreak : hasLineBreak path.text = true) (hfirst : op.sentFirst? = none)
    (hopen : ∀ p, op = .readDirectory p →
      (Holding.openData { connection := (Pool.network w').connection id }).1 = .ok ()) :
    let held : Holding := { connection := (Pool.network w').connection id }
    let left := (Holding.run op.dialogue held).2.connection
    let released := (Pool.release id (Pool.converse id op.dialogue w').2).1
    let result := (Pool.perform op w).1
    (Pool.perform op (⟨w, []⟩ : Watched ω)).2.calls.filterMap Call.control? = [] ∧
      left.replies = held.connection.replies ∧ left.broken = held.connection.broken ∧
      ((∀ p, op ≠ .readDirectory p) →
        result = unlessFails (.error (.fault .lineBreak)) released) ∧
      ∀ p, op = .readDirectory p → ∃ s, held.openData.2.stream = some s ∧
        result = unlessFails (unlessFails (.error (.fault .lineBreak)) s.ending) released := by
  intro held left released result
  by_cases hdata : ∀ p, op ≠ .readDirectory p
  · have htakes := Holding.takes_refusedLine hbreak hpath hfirst hdata held
    obtain ⟨hcontrol, hleft, -, hresult⟩ := perform_of_takes hacquire htakes
    change left = held.connection at hleft
    rw [hleft]
    exact ⟨hcontrol, rfl, rfl, fun _ => hresult, fun p hp => absurd hp (hdata p)⟩
  · obtain ⟨p, rfl⟩ : ∃ p, op = .readDirectory p := by simpa using hdata
    obtain rfl := List.mem_singleton.mp hpath
    obtain ⟨s, h, hstream, htakes, hconnection⟩ := Holding.takes_refusedListing hbreak
      (Holding.tied_new held.connection) (hopen path rfl)
    obtain ⟨hcontrol, hleft, hbroken, hresult⟩ := perform_of_takes hacquire htakes
    rw [unlessFails_error_answer] at hresult
    refine ⟨hcontrol, ?_, hbroken.trans (Bool.or_false _), fun hother => absurd rfl (hother path), ?_⟩
    · refine (congrArg Connection.replies (hleft.trans hconnection)).trans ?_
      rw [held.openData_spec.1]
    · rintro _ ⟨⟩
      exact ⟨s, hstream, hresult⟩

/-- A renaming that comes to a path with a line break when its first line is out. -/
theorem refused_half_way {source target : RemotePath}
    (hacquire : Pool.acquire w = (.ok id, w')) (hsource : hasLineBreak source.text = false)
    (htarget : hasLineBreak target.text = true) :
    let op := Operation.rename source target
    let held : Holding := { connection := (Pool.network w').connection id }
    let left := (Holding.run op.dialogue held).2.connection
    let released := (Pool.release id (Pool.converse id op.dialogue w').2).1
    let line := "RNFR " ++ source.wire
    ∃ cs : List Control,
      (Pool.perform op (⟨w, []⟩ : Watched ω)).2.calls.filterMap Call.control? =
        cs.map (Prod.mk id) ∧
      linesSent cs = [line] ∧
      ∀ (f : Frame) (later : List Incoming), f.WellFormed →
        held.connection.sends.headD none = none →
        held.connection.replies = f.lines.map .ok ++ later →
        cs = .sent line :: f.lines.map .got ∧ left.replies = later ∧
        left.broken = held.connection.broken ∧
        (Pool.perform op w).1 = unlessFails (.error (if f.code = 350 then .fault .lineBreak
          else .protocol f.code f.reply.message (some line) none)) released := by
  intro op held left released line
  have hcourse := Holding.course_turns op.dialogue held
  have hseen := usage_control op.dialogue hacquire
  -- what is sent is the same whatever comes back, also when the first line gets no reply
  refine ⟨_, ?_, Dialogue.linesSent_renaming hsource htarget hcourse, ?_⟩
  · rw [Watched.perform_watched]
    exact hseen
  · intro f later hf hsends hreplies
    obtain ⟨h, htakes, hlater⟩ := Holding.takes_renaming hsource htarget hsends hf hreplies
    obtain ⟨-, hleft, hbroken, hresult⟩ := perform_of_takes hacquire htakes
    obtain ⟨hgot, hkept⟩ := received_frame hf hreplies
    refine ⟨?_, (congrArg Connection.replies hleft).trans hlater, hbroken.trans ?_, hresult⟩
    · rw [← control_acts, htakes.turns_eq]
      exact congrArg (_ :: ·) ((List.append_nil _).trans hgot)
    · rw [List.any_cons, List.any_cons, hkept]
      exact Bool.or_false _

/-- An operation that is given a path with a line break sends no line and takes nothing off the
connection, and fails with the refusal of the path; only a failure to give the connection back, and for
a listing one to close the data channel that is not of the system, would take its place. The exception
is a renaming from a path without a line break: its first line is out, and the connection is given back
with that line pending if it was answered with 350. -/
theorem refused_path {op : Operation} {path : RemotePath}
    (hacquire : Pool.acquire w = (.ok id, w')) (hpath : path ∈ op.paths)
    (hbreak : hasLineBreak path.text = true)
    (hopen : ∀ p, op = .readDirectory p →
      (Holding.openData { connection := (Pool.network w').connection id }).1 = .ok ()) :
    let held : Holding := { connection := (Pool.network w').connection id }
    let left := (Holding.run op.dialogue held).2.connection
    let released := (Pool.release id (Pool.converse id op.dialogue w').2).1
    let result := (Pool.perform op w).1
    ∃ cs : List Control,
      (Pool.perform op (⟨w, []⟩ : Watched ω)).2.calls.filterMap Call.control? =
        cs.map (Prod.mk id) ∧
      linesSent cs = op.sentFirst?.toList ∧
      (op.sentFirst? = none →
        cs = [] ∧ left.replies = held.connection.replies ∧
        left.broken = held.connection.broken ∧
        ((∀ p, op ≠ .readDirectory p) →
          result = unlessFails (.error (.fault .lineBreak)) released) ∧
        ∀ p, op = .readDirectory p → ∃ s, held.openData.2.stream = some s ∧
          result = unlessFails (unlessFails (.error (.fault .lineBreak)) s.ending) released) ∧
      ∀ line, op.sentFirst? = some line → ∀ (f : Frame) (later : List Incoming), f.WellFormed →
        held.connection.sends.headD none = none →
        held.connection.replies = f.lines.map .ok ++ later →
        cs = .sent line :: f.lines.map .got ∧ left.replies = later ∧
        left.broken = held.connection.broken ∧
        result = unlessFails (.error (if f.code = 350 then .fault .lineBreak
          else .protocol f.code f.reply.message (some line) none)) released := by
  intro held left released result
  cases hfirst : op.sentFirst? with
  | none =>
    obtain ⟨hcalls, hrefused⟩ := refused_at_once hacquire hpath hbreak hfirst hopen
    exact ⟨[], hcalls, rfl, fun _ => ⟨rfl, hrefused⟩, nofun⟩
  | some line =>
    obtain ⟨source, target, rfl, hsource, rfl⟩ := Operation.sentFirst?_eq_some_iff.mp hfirst
    -- the path with the line break can only be the second one
    have htarget : hasLineBreak target.text = true := by
      rcases List.mem_cons.mp hpath with rfl | htarget
      · rw [hsource] at hbreak
        cases hbreak
      · rwa [← List.mem_singleton.mp htarget]
    obtain ⟨cs, hcalls, hsent, hpending⟩ := refused_half_way hacquire hsource htarget
    refine ⟨cs, hcalls, hsent, nofun, ?_⟩
    rintro _ ⟨⟩
    exact hpending

/-- A path of another convention is refused by what was given, and nothing passes. -/
theorem refused_path_posix :
    let w := ReplayPool.ofScripts [goingAlong] []
    (Pool.perform (.makeDirectory (.posix "./pub//\rx")) w).1 = .error (.fault .lineBreak) ∧
      (Pool.perform (.makeDirectory (.posix "./pub//\rx")) (⟨w, []⟩ : Watched ReplayPool)).2.calls.filterMap
        Call.control? = [] := by
  intro w
  obtain ⟨cs, hcalls, -, hrefused, -⟩ := @refused_path ReplayPool _ w _ 0
    (.makeDirectory (.posix "./pub//\rx")) (.posix "./pub//\rx") rfl List.mem_cons_self (by decide)
    nofun
  obtain ⟨rfl, -, -, hresult, -⟩ := hrefused rfl
  exact ⟨hresult nofun, hcalls⟩

/-- A server that is willing to change a name. -/
def willing : Script where
  replies := [.ok "350 go on"]

/-- The second path of a renaming is refused when the first line is out and answered, and the connection
is kept for the next holder. -/
theorem refused_path_half_done :
    let op := Operation.rename (.plain "a") (.plain "b\nc")
    let performed := Pool.perform op (⟨serving willing, []⟩ : Watched SessionPool)
    performed.1 = .error (.fault .lineBreak) ∧
      performed.2.calls.filterMap Call.control? = [(0, .sent "RNFR a"), (0, .got "350 go on")] ∧
      performed.2.pool.shelf.idle = [0] ∧
      (performed.2.pool.network.connection 0).broken = false := by
  decide +kernel

end Pool
end FileTransfer
