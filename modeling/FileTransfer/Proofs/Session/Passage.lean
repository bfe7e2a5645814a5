import FileTransfer.Proofs.Session.ReplyStream

/-!
# Passing through a dialogue

The one way through a dialogue on a given connection, from its parts. Notes are left aside.

* `Takes`: the turns a dialogue takes on a holding, its result, and the holding it leaves.
* `Takes.bind`, `Takes.bind_error`, `Takes.attempt`: sequences and attempts.
* `Expected.judge`: what a reply comes to where a certain one is expected.
* `takes_reply_of_read`, `takes_command_of_read`, `takes_expect_of_read`: a command and what the lines
  to come are read as.
* `takes_reply`, `takes_command`, `takes_expect`: an exchange of a command and a written reply.
* `takes_pathCommand`, `takes_replyCommand`: such an exchange, and what the operation is told.
* `takes_collect`, `takes_closeQuietly`: the reading and closing of a data channel.
-/

namespace FileTransfer
open FileTransfer.Reply FileTransfer.Session
set_option autoImplicit false

/-- Whether a turn does something to the connection. -/
def Turn.acts : Turn → Bool
  | .noted _ => false
  | _ => true

/-- What a reply that has been read comes to: it is as expected, or it is told with its command. -/
def Expected.judge (e : Expected) (line : String) (a : Reply) : Except Failure Unit := do
  let admitted ← e.admits a.code
  if admitted then .ok () else .error (.protocol a.code a.message (some (censored line)) none)

namespace Session.Holding
open Dialogue
variable {α β : Type}

/-- Carrying out `d` on `h` takes the turns `ts`, and comes to `r` and `h'`. -/
structure Takes (d : Dialogue α) (h : Holding) (ts : List Turn) (r : Except Failure α)
    (h' : Holding) : Prop where
  run_eq : run d h = (r, h')
  turns_eq : (turns d h).filter Turn.acts = ts

/-! ## Sequences and attempts -/

theorem turns_bind (d : Dialogue α) (f : α → Dialogue β) (h : Holding) :
    turns (d >>= f) h =
      turns d h ++ match run d h with
        | (.ok a, h') => turns (f a) h'
        | (.error _, _) => [] := by
  change turns (d.bind f) h = _
  induction d generalizing h with
  | done result => cases result <;> rfl
  | send line next ih => exact congrArg (_ :: ·) (ih _ _)
  | receive reader next ih => exact congrArg (_ :: ·) (ih _ _)
  | openData next ih => exact congrArg (_ :: ·) (ih _ _)
  | readData next ih => exact congrArg (_ :: ·) (ih _ _)
  | closeData next ih => exact congrArg (_ :: ·) (ih _ _)
  | note text next ih => exact congrArg (_ :: ·) (ih _)

theorem run_attempt (d : Dialogue α) (h : Holding) :
    run d.attempt h = (.ok (run d h).1, (run d h).2) ∧ turns d.attempt h = turns d h := by
  induction d generalizing h with
  | done result => exact ⟨rfl, rfl⟩
  | send line next ih => exact ⟨(ih _ _).1, congrArg (_ :: ·) (ih _ _).2⟩
  | receive reader next ih => exact ⟨(ih _ _).1, congrArg (_ :: ·) (ih _ _).2⟩
  | openData next ih => exact ⟨(ih _ _).1, congrArg (_ :: ·) (ih _ _).2⟩
  | readData next ih => exact ⟨(ih _ _).1, congrArg (_ :: ·) (ih _ _).2⟩
  | closeData next ih => exact ⟨(ih _ _).1, congrArg (_ :: ·) (ih _ _).2⟩
  | note text next ih => exact ⟨(ih _).1, congrArg (_ :: ·) (ih _).2⟩

section Takes
variable {d : Dialogue α} {f : α → Dialogue β} {h h' h'' : Holding} {ts us : List Turn}
variable {a : α} {r : Except Failure α} {q : Except Failure β} {failure : Failure}

theorem Takes.done (r : Except Failure α) (h : Holding) : Takes (.done r) h [] r h := ⟨rfl, rfl⟩

theorem Takes.bind (hd : Takes d h ts (.ok a) h') (hf : Takes (f a) h' us q h'') :
    Takes (d >>= f) h (ts ++ us) q h'' where
  run_eq := by
    rw [run_bind, hd.run_eq]
    exact hf.run_eq
  turns_eq := by
    rw [turns_bind, hd.run_eq, List.filter_append, hd.turns_eq]
    exact congrArg (ts ++ ·) hf.turns_eq

/-- What comes last leaves notes at most. -/
theorem Takes.bind_quiet (hd : Takes d h ts (.ok a) h') (hf : Takes (f a) h' [] q h'') :
    Takes (d >>= f) h ts q h'' := by
  have hbind := hd.bind hf
  rwa [List.append_nil] at hbind

theorem Takes.bind_error (hd : Takes d h ts (.error failure) h') (f : α → Dialogue β) :
    Takes (d >>= f) h ts (.error failure) h' where
  run_eq := by rw [run_bind, hd.run_eq]
  turns_eq := by
    rw [turns_bind, hd.run_eq, List.append_nil]
    exact hd.turns_eq

theorem Takes.map (hd : Takes d h ts r h') (g : α → β) : Takes (g <$> d) h ts (g <$> r) h' := by
  cases r with
  | ok a => exact hd.bind_quiet (.done (.ok (g a)) h')
  | error failure => exact hd.bind_error _

theorem Takes.attempt (hd : Takes d h ts r h') : Takes d.attempt h ts (.ok r) h' where
  run_eq := by rw [(run_attempt d h).1, hd.run_eq]
  turns_eq := by
    rw [(run_attempt d h).2]
    exact hd.turns_eq

theorem takes_say (text : String) (h : Holding) : Takes (say text) h [] (.ok ()) (h.note text) :=
  ⟨rfl, rfl⟩

end Takes

/-! ## Commands -/

section Commands
variable {h : Holding} {f : Frame} {later : List Incoming} {line : String}

theorem takes_sendLine (hsends : h.connection.sends.headD none = none) (line : String) :
    Takes (sendLine line) h [.sent line (.ok ())] (.ok ()) (h.send line).2 := by
  have hsent : (h.send line).1 = .ok () := by
    have houtcome : (h.send line).1 = outcome (h.connection.sends.headD none) := rfl
    rw [houtcome, hsends]
    rfl
  exact ⟨Prod.ext hsent rfl, by rw [← hsent]; rfl⟩

/-- Reading a reply on a connection comes to what reading its lines comes to. -/
theorem takes_reply_of_read {r : Except Failure Reply} {seen rest : List Incoming}
    (hread : read h.connection.replies = ⟨r, seen, rest⟩) :
    ∃ h', Takes reply h [.received .opening h.connection.replies] r h' ∧
      h'.connection.replies = rest ∧ h'.stream = h.stream := by
  have hreceive : h.receive .opening = (r, (h.receive .opening).2) :=
    Prod.ext (congrArg Reading.outcome hread) rfl
  have hrest : (h.receive .opening).2.connection.replies = rest := congrArg Reading.rest hread
  cases r with
  | error failure =>
    refine ⟨(h.receive .opening).2, ⟨?_, ?_⟩, hrest, rfl⟩
    · rw [reply, run, hreceive]
      rfl
    · rw [reply, turns, hreceive]
      rfl
  | ok a =>
    refine ⟨(h.receive .opening).2.note s!"got {a.code}-{a.message}", ⟨?_, ?_⟩, hrest, rfl⟩
    · rw [reply, run, hreceive]
      rfl
    · rw [reply, turns, hreceive]
      rfl

theorem takes_reply (hf : f.WellFormed)
    (hreplies : h.connection.replies = f.lines.map .ok ++ later) :
    ∃ h', Takes reply h [.received .opening h.connection.replies] (.ok f.reply) h' ∧
      h'.connection.replies = later ∧ h'.stream = h.stream := by
  have hread := read_frame hf later
  rw [← hreplies] at hread
  exact takes_reply_of_read hread

/-- A command is its line and what reading the lines to come comes to. -/
theorem takes_command_of_read {r : Except Failure Reply} {seen rest : List Incoming}
    (hline : hasLineBreak line = false) (hsends : h.connection.sends.headD none = none)
    (hread : read h.connection.replies = ⟨r, seen, rest⟩) :
    ∃ h', Takes (command line) h [.sent line (.ok ()), .received .opening h.connection.replies] r
        h' ∧ h'.connection.replies = rest ∧ h'.stream = h.stream := by
  have hsend := takes_sendLine (h := h.note s!"sending command {censored line}") hsends line
  obtain ⟨h', hreply, hrest, hstream⟩ := takes_reply_of_read
    (h := ((h.note s!"sending command {censored line}").send line).2) hread
  have htakes : Takes (say s!"sending command {censored line}" >>= fun _ =>
      sendLine line >>= fun _ => reply) h _ r h' :=
    (takes_say _ h).bind (hsend.bind hreply)
  refine ⟨h', ?_, hrest, hstream⟩
  rw [command, hline]
  exact htakes

theorem takes_command (hline : hasLineBreak line = false)
    (hsends : h.connection.sends.headD none = none) (hf : f.WellFormed)
    (hreplies : h.connection.replies = f.lines.map .ok ++ later) :
    ∃ h', Takes (command line) h [.sent line (.ok ()), .received .opening h.connection.replies]
        (.ok f.reply) h' ∧ h'.connection.replies = later ∧ h'.stream = h.stream := by
  have hread := read_frame hf later
  rw [← hreplies] at hread
  exact takes_command_of_read hline hsends hread

/-- A command whose reply has to be as expected, and what the lines to come are read as. -/
theorem takes_expect_of_read {e : Expected} {r : Except Failure Reply} {seen rest : List Incoming}
    (hline : hasLineBreak line = false) (hsends : h.connection.sends.headD none = none)
    (hread : read h.connection.replies = ⟨r, seen, rest⟩) :
    ∃ h', Takes (expect e line) h [.sent line (.ok ()), .received .opening h.connection.replies]
        (r >>= e.judge line) h' ∧ h'.connection.replies = rest ∧ h'.stream = h.stream := by
  obtain ⟨h', hcommand, hrest, hstream⟩ := takes_command_of_read hline hsends hread
  refine ⟨h', ?_, hrest, hstream⟩
  cases r with
  | error failure => exact hcommand.bind_error _
  | ok a =>
    refine hcommand.bind_quiet ?_
    have hjudged : (Except.ok a >>= e.judge line) = e.judge line a := rfl
    rw [hjudged, Expected.judge]
    cases e.admits a.code with
    | error failure => exact .done _ h'
    | ok admitted =>
      cases admitted with
      | false => exact .done _ h'
      | true => exact .done _ h'

/-- A command whose reply has to be as expected, and a reply that is or is not. -/
theorem takes_expect {e : Expected} {admitted : Bool} (hadmits : e.admits f.code = .ok admitted)
    (hline : hasLineBreak line = false) (hsends : h.connection.sends.headD none = none)
    (hf : f.WellFormed) (hreplies : h.connection.replies = f.lines.map .ok ++ later) :
    ∃ h', Takes (expect e line) h
        [.sent line (.ok ()), .received .opening h.connection.replies]
        (if admitted then .ok ()
          else .error (.protocol f.code f.reply.message (some (censored line)) none)) h' ∧
      h'.connection.replies = later ∧ h'.stream = h.stream := by
  have hread := read_frame hf later
  rw [← hreplies] at hread
  have hjudged : (Except.ok f.reply >>= e.judge line) = if admitted then .ok ()
      else .error (.protocol f.code f.reply.message (some (censored line)) none) := by
    have hadmits' : e.admits f.reply.code = .ok admitted := hadmits
    change e.judge line f.reply = _
    rw [Expected.judge, hadmits']
    rfl
  rw [← hjudged]
  exact takes_expect_of_read hline hsends hread

/-- A command whose reply quotes a path. -/
theorem takes_pathCommand (hline : hasLineBreak line = false)
    (hsends : h.connection.sends.headD none = none) (hf : f.WellFormed)
    (hreplies : h.connection.replies = f.lines.map .ok ++ later) :
    ∃ h', Takes (pathCommand line) h [.sent line (.ok ()), .received .opening h.connection.replies]
        (if f.code = 257 then Told.path <$> DirectoryName.read f.reply.message
          else .error (.protocol f.code f.reply.message (some line) none)) h' ∧
      h'.connection.replies = later := by
  obtain ⟨h', hcommand, hlater, -⟩ := takes_command hline hsends hf hreplies
  refine ⟨h', hcommand.bind_quiet ?_, hlater⟩
  by_cases hcode : f.code = 257
  · have hcreated : f.reply.code = NamedCode.pathCreated.number := hcode
    rw [if_pos hcode, if_pos hcreated]
    exact (Takes.done (DirectoryName.read f.reply.message) h').map Told.path
  · have hother : f.reply.code ≠ NamedCode.pathCreated.number := hcode
    rw [if_neg hcode, if_neg hother]
    exact .done _ h'

/-- A command whose reply is the answer, text by text. -/
theorem takes_replyCommand (hline : hasLineBreak line = false)
    (hsends : h.connection.sends.headD none = none) (hf : f.WellFormed)
    (hreplies : h.connection.replies = f.lines.map .ok ++ later) :
    ∃ h', Takes (replyCommand line) h [.sent line (.ok ()), .received .opening h.connection.replies]
        (if Category.positiveCompletion.covers f.code then
          .ok ((Text.pieces '\n' f.reply.message.toList).map String.ofList)
        else .error (.protocol f.code f.reply.message (some line) none)) h' ∧
      h'.connection.replies = later := by
  obtain ⟨h₁, hcommand, hlater, -⟩ := takes_command hline hsends hf hreplies
  have hcode : f.reply.code = f.code := rfl
  cases hcovers : Category.positiveCompletion.covers f.code with
  | true =>
    refine ⟨h₁, hcommand.bind_quiet ?_, hlater⟩
    rw [hcode, hcovers]
    exact .done _ h₁
  | false =>
    let text := s!"unexpected response to {line}: {f.reply.code}-{f.reply.message}"
    refine ⟨h₁.note text, hcommand.bind_quiet ?_, hlater⟩
    rw [hcode, hcovers]
    exact (takes_say text h₁).bind_quiet (.done _ _)

end Commands

/-! ## Data channels -/

section Channels
variable {h h' : Holding} {s : Stream}

theorem openData_ok (hopen : h.openData = (.ok (), h')) : refusal h.connection = none := by
  cases hrefusal : refusal h.connection with
  | none => rfl
  | some failure =>
    refine absurd ?_ (openData_refused h (by rw [hrefusal]; rfl))
    rw [hopen]

theorem takes_openChannel (hopen : h.openData = (.ok (), h')) :
    Takes openChannel h [.opened none (.ok ())] (.ok ()) h' := by
  refine ⟨hopen, ?_⟩
  have hturns : turns openChannel h = [.opened (refusal h.connection) h.openData.1] := rfl
  rw [hturns, openData_ok hopen, hopen]
  rfl

theorem takes_dataLines (hstream : h.stream = some s) :
    ∃ h', Takes dataLines h [.drained s.read.1] (.ok s.read.1) h' ∧
      h'.connection = h.connection ∧ h'.stream = some s.read.2.1 := by
  have hread : h.readData = (s.read.1, { h.seen s.read.2.2 with stream := some s.read.2.1 }) := by
    simp only [readData, hstream]
  refine ⟨h.readData.2, ⟨?_, ?_⟩, by rw [hread]; rfl, by rw [hread]⟩
  · rw [dataLines, run, hread]
    rfl
  · rw [dataLines, turns, hread]
    rfl

theorem takes_closeChannel (hstream : h.stream = some s) :
    ∃ h', Takes closeChannel h [.closed s.close.1] s.close.1 h' ∧ h'.connection = h.connection := by
  have hclose : h.closeData = (s.close.1, { h.seen s.close.2.2 with stream := some s.close.2.1 }) := by
    simp only [closeData, hstream]
  refine ⟨h.closeData.2, ⟨?_, ?_⟩, by rw [hclose]; rfl⟩
  · rw [closeChannel, run, hclose]
    rfl
  · rw [closeChannel, turns, hclose]
    rfl

/-- A failure of the data that is provided for is kept for later. -/
theorem takes_collect (line : String) (hstream : h.stream = some s)
    (hread : ∀ failure, s.read.1.2 = some failure →
      failure.isFault (fun f => f.isOutage || f.isInvalid) = true) :
    ∃ h' broken?, Takes (collect line) h [.drained s.read.1] (.ok (s.read.1.1, broken?)) h' ∧
      (s.read.1.2 = none → broken? = none) ∧
      (∀ f, s.read.1.2 = some (.fault f) → broken? = some (.dataBroken line f)) ∧
      h'.connection = h.connection ∧ h'.stream = some s.read.2.1 := by
  obtain ⟨h₁, hlines, hconnection, hstream₁⟩ := takes_dataLines hstream
  rcases hdata : s.read.1 with ⟨lines, failure?⟩
  rw [hdata] at hlines hread
  cases failure? with
  | none =>
    refine ⟨h₁, none, hlines.bind_quiet (.done _ h₁), fun _ => rfl, nofun, hconnection, hstream₁⟩
  | some failure =>
    have hclass := hread failure rfl
    cases failure with
    | fault f =>
      have hf : (f.isOutage || f.isInvalid) = true := hclass
      let text := s!"error reading {line} data: {f.message}"
      refine ⟨h₁.note text, some (.dataBroken line f), hlines.bind_quiet ?_, nofun, ?_,
        hconnection, hstream₁⟩
      · dsimp only
        rw [if_pos hf]
        exact (takes_say text h₁).bind_quiet (.done _ _)
      · rintro _ ⟨⟩
        rfl
    | _ => cases hclass

/-- That the system fails to close a data channel is only noted. -/
theorem takes_closeQuietly (hstream : h.stream = some s)
    (hclose : ∀ failure, s.close.1 = .error failure → failure.isFault Fault.isSystem = true) :
    ∃ h', Takes closeQuietly h [.closed s.close.1] (.ok ()) h' ∧ h'.connection = h.connection := by
  obtain ⟨h₁, hclosed, hconnection⟩ := takes_closeChannel hstream
  cases hresult : s.close.1 with
  | ok _ =>
    rw [hresult] at hclosed
    exact ⟨h₁, hclosed.attempt.bind_quiet (.done _ h₁), hconnection⟩
  | error failure =>
    rw [hresult] at hclosed
    have hsystem := hclose failure hresult
    let text := s!"error closing data connection: {failure.message}"
    refine ⟨h₁.note text, hclosed.attempt.bind_quiet ?_, hconnection⟩
    dsimp only
    rw [if_pos hsystem]
    exact takes_say text h₁

end Channels

/-! ## Commands with a data channel -/

section DataCommands
variable {h h₁ h₂ h₃ h₄ : Holding} {ts us ws : List Turn} {line : String}

/-- A command that fails before its data are in: the channel is closed, and no more is read. -/
theorem takes_dataCommand_error {failure : Failure} (hopen : h.openData = (.ok (), h₁))
    (htransfer : Takes (expect (.category .positivePreliminary) line >>= fun _ => collect line)
      h₁ ts (.error failure) h₂)
    (hclose : Takes closeQuietly h₂ us (.ok ()) h₃) :
    Takes (dataCommand line) h (.opened none (.ok ()) :: (ts ++ us)) (.error failure) h₃ := by
  refine (takes_openChannel hopen).bind (htransfer.attempt.bind (hclose.bind_quiet ?_))
  exact Takes.bind_error (.done _ h₃) _

/-- A command whose data are in, as far as they came: the last reply decides, then the data. -/
theorem takes_dataCommand {lines : List String} {broken? : Option Failure} {last : Reply}
    (hopen : h.openData = (.ok (), h₁))
    (htransfer : Takes (expect (.category .positivePreliminary) line >>= fun _ => collect line)
      h₁ ts (.ok (lines, broken?)) h₂)
    (hclose : Takes closeQuietly h₂ us (.ok ()) h₃) (hlast : Takes reply h₃ ws (.ok last) h₄) :
    ∃ h', Takes (dataCommand line) h (.opened none (.ok ()) :: (ts ++ (us ++ ws)))
        (if Category.positiveCompletion.covers last.code then
          match broken? with
          | some failure => .error failure
          | none => .ok lines
        else .error (.protocol last.code last.message (some line) none)) h' ∧
      h'.connection = h₄.connection := by
  -- what is left to do once the last reply is read only leaves notes
  have hend : ∃ h', Takes (if !Category.positiveCompletion.covers last.code then
        say s!"unexpected result: {last.code}-{last.message}" >>= fun _ => wrongReply line last
      else match broken? with
        | some failure => fail failure
        | none => return lines) h₄ []
      (if Category.positiveCompletion.covers last.code then
        match broken? with
        | some failure => .error failure
        | none => .ok lines
      else .error (.protocol last.code last.message (some line) none)) h' ∧
      h'.connection = h₄.connection := by
    cases Category.positiveCompletion.covers last.code with
    | false =>
      let text := s!"unexpected result: {last.code}-{last.message}"
      exact ⟨h₄.note text, (takes_say text h₄).bind_quiet (.done _ _), rfl⟩
    | true =>
      cases broken? with
      | some failure => exact ⟨h₄, .done _ h₄, rfl⟩
      | none => exact ⟨h₄, .done _ h₄, rfl⟩
  obtain ⟨h', hend, hconnection⟩ := hend
  refine ⟨h', (takes_openChannel hopen).bind (htransfer.attempt.bind (hclose.bind ?_)), hconnection⟩
  exact Takes.bind (.done _ h₃) (hlast.bind_quiet hend)

variable {s : Stream} {f g : Frame} {later rest : List Incoming}

/-- A command with a data channel that is followed by data, as far as they come, and a last reply. -/
theorem takes_fullData (hline : hasLineBreak line = false) (hopen : h.openData = (.ok (), h₁))
    (hstream : h₁.stream = some s) (hsends : h₁.connection.sends.headD none = none)
    (hf : f.WellFormed) (hreplies : h₁.connection.replies = f.lines.map .ok ++ later)
    (hread : ∀ failure, s.read.1.2 = some failure →
      failure.isFault (fun f => f.isOutage || f.isInvalid) = true)
    (hclose : ∀ failure, s.read.2.1.close.1 = .error failure →
      failure.isFault Fault.isSystem = true)
    (hcovers : Category.positivePreliminary.covers f.code = true) (hg : g.WellFormed)
    (hlater : later = g.lines.map .ok ++ rest) :
    ∃ h' broken?, Takes (dataCommand line) h [.opened none (.ok ()), .sent line (.ok ()),
        .received .opening h₁.connection.replies, .drained s.read.1, .closed s.read.2.1.close.1,
        .received .opening later]
        (if Category.positiveCompletion.covers g.code then
          match broken? with
          | some failure => .error failure
          | none => .ok s.read.1.1
        else .error (.protocol g.code g.reply.message (some line) none)) h' ∧
      h'.connection.replies = rest ∧
      (s.read.1.2 = none → broken? = none) ∧
      ∀ fault, s.read.1.2 = some (.fault fault) → broken? = some (.dataBroken line fault) := by
  have hadmits := admits_category .positivePreliminary hf.lower hf.upper
  rw [hcovers] at hadmits
  obtain ⟨h₂, hexpect, hlater₂, hstream₂⟩ := takes_expect hadmits hline hsends hf hreplies
  obtain ⟨h₃, broken?, hcollect, hwhole, hbroken, hconnection₃, hstream₃⟩ :=
    takes_collect line (hstream₂.trans hstream) hread
  obtain ⟨h₄, hclosed, hconnection₄⟩ := takes_closeQuietly hstream₃ hclose
  have hreplies₄ : h₄.connection.replies = g.lines.map .ok ++ rest := by
    rw [hconnection₄, hconnection₃, hlater₂, hlater]
  obtain ⟨h₅, hreply, hrest, -⟩ := takes_reply hg hreplies₄
  obtain ⟨h', htakes, hconnection⟩ :=
    takes_dataCommand hopen (hexpect.bind hcollect) hclosed hreply
  rw [hreplies₄, ← hlater] at htakes
  exact ⟨h', broken?, htakes, by rw [hconnection, hrest], hwhole, hbroken⟩

end DataCommands

end Session.Holding
end FileTransfer
