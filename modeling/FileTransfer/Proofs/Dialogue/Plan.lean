import FileTransfer.Proofs.Dialogue.Exchange

/-!
# The lines of an operation

An operation sends the lines of its plan, in that order, and stops at the first that fails. The lines
are made from templates, in three ways; a path comes through each of them as it is.

* `fill_word`: a word and a path.
* `Operation.worded`, `worded_eq`: the operations with their templates; that they are the operations.
* `Dialogue.Sends`, `sends_operation`: the lines that a dialogue sends.
* `renamed_after_reply`: the second line of a renaming goes out only after the right reply to the first.
-/

namespace FileTransfer
open FileTransfer.Reply
set_option autoImplicit false

/-! ## Templates -/

namespace Template

theorem fillFrom_word {word : List Char} (hword : '%' ∉ word) (place : Nat) (path : String) :
    fillFrom place (word ++ ['%', 's']) [.text path] = .ok (word ++ path.toList) := by
  induction word generalizing place with
  | nil => simp [fillFrom, Value.shown, bind, Except.bind, pure, Except.pure]
  | cons c word ih =>
    have hc : c ≠ '%' := fun h => hword (h ▸ List.mem_cons_self)
    have hrest := ih (fun h => hword (List.mem_cons_of_mem _ h)) (place + 1)
    rw [List.cons_append, fillFrom, hrest]
    · rfl
    · simp [hc]
    · simp [hc]
    · simp [hc]
    · simp [hc]

/-- A template that is a word and a place for a path: the path is put there as it is. -/
theorem fill_word (template word path : String) (htemplate : template = word ++ "%s")
    (hword : '%' ∉ word.toList) : fill template [.text path] = .ok (word ++ path) := by
  have htext : template.toList = word.toList ++ ['%', 's'] := by
    rw [htemplate]
    exact String.toList_append
  rw [fill, htext, fillFrom_word hword]
  have hjoined : String.ofList (word.toList ++ path.toList) = word ++ path := by simp
  exact congrArg Except.ok hjoined

end Template

namespace Dialogue

theorem filled_eq {template : String} {arguments : List Value} {line : String}
    (h : Template.fill template arguments = .ok line) : filled template arguments = pure line := by
  rw [filled, h]

/-- A command of a template. The line is made once more to tell of a wrong reply. -/
def expectOf (e : Expected) (template : String) (arguments : List Value) : Dialogue Unit := do
  let line ← filled template arguments
  let r ← command line
  let admitted ← .done (e.admits r.code)
  if admitted then pure ()
  else
    let again ← filled template arguments
    wrongReply (censored again) r

/-- A command of a template whose reply quotes a path. The line is made once more to tell of a wrong
reply. -/
def pathCommandOf (template : String) (arguments : List Value) : Dialogue Told := do
  let line ← filled template arguments
  let r ← command line
  if r.code = NamedCode.pathCreated.number then
    Told.path <$> .done (DirectoryName.read r.message)
  else
    let again ← filled template arguments
    wrongReply again r

/-- A command of a template whose reply is the answer. The line is a template without arguments of its
own when it is sent. -/
def replyCommandOf (template : String) (arguments : List Value) : Dialogue (List String) := do
  let line ← filled template arguments
  let again ← filled line []
  let r ← command again
  if Category.positiveCompletion.covers r.code then
    return (Text.pieces '\n' r.message.toList).map String.ofList
  else
    say s!"unexpected response to {line}: {r.code}-{r.message}"
    wrongReply line r

/-- A command of a template whose answer comes on a data channel. The line is a template without
arguments of its own when it is sent. -/
def dataCommandOf (template : String) (arguments : List Value) : Dialogue (List String) := do
  openChannel
  let line ← filled template arguments
  let outcome ← attempt do
    expectOf (.category .positivePreliminary) line []
    collect line
  closeQuietly
  let (lines, broken?) ← .done outcome
  let r ← reply
  if !Category.positiveCompletion.covers r.code then
    say s!"unexpected result: {r.code}-{r.message}"
    wrongReply line r
  else match broken? with
    | some failure => fail failure
    | none => return lines

section Filled
variable {template : String} {arguments : List Value} {line : String}

theorem expectOf_eq (h : Template.fill template arguments = .ok line) (e : Expected) :
    expectOf e template arguments = expect e line := by
  rw [expectOf, filled_eq h]
  rfl

theorem pathCommandOf_eq (h : Template.fill template arguments = .ok line) :
    pathCommandOf template arguments = pathCommand line := by
  rw [pathCommandOf, filled_eq h]
  rfl

theorem replyCommandOf_eq (h : Template.fill template arguments = .ok line) :
    replyCommandOf template arguments = replyCommand line := by
  rw [replyCommandOf, filled_eq h]
  rfl

theorem dataCommandOf_eq (h : Template.fill template arguments = .ok line) :
    dataCommandOf template arguments = dataCommand line := by
  rw [dataCommandOf, filled_eq h]
  rfl

end Filled

end Dialogue

/-! ## Operations and their templates -/

namespace Operation
open Dialogue

/-- What an operation does with its connection, with its command lines as templates. -/
def worded : Operation → Dialogue Told
  | .delete path => do
    expectOf (coded .fileActionOk) "DELE %s" [.text path.wire]
    return .nothing
  | .rename source target => do
    expectOf (coded .fileActionPending) "RNFR %s" [.text source.wire]
    expectOf (coded .fileActionOk) "RNTO %s" [.text target.wire]
    return .nothing
  | .makeDirectory path => pathCommandOf "MKD %s" [.text path.wire]
  | .removeDirectory path => do
    expectOf (coded .fileActionOk) "RMD %s" [.text path.wire]
    return .nothing
  | .workingDirectory => pathCommandOf "PWD" []
  | .readDirectory path => .listing <$> dataCommandOf "MLSD %s" [.text path.wire]
  | .status path => .about <$> replyCommandOf "MLST %s" [.text path.wire]

/-- A path comes through its template as it is, percent signs included, each time it is filled in. -/
theorem worded_eq (op : Operation) : op.worded = op.dialogue := by
  cases op with
  | delete path =>
    have hline := Template.fill_word "DELE %s" "DELE " path.wire rfl (by decide)
    rw [worded, expectOf_eq hline, dialogue]
  | rename source target =>
    have hsource := Template.fill_word "RNFR %s" "RNFR " source.wire rfl (by decide)
    have htarget := Template.fill_word "RNTO %s" "RNTO " target.wire rfl (by decide)
    rw [worded, expectOf_eq hsource, expectOf_eq htarget, dialogue]
  | makeDirectory path =>
    have hline := Template.fill_word "MKD %s" "MKD " path.wire rfl (by decide)
    rw [worded, pathCommandOf_eq hline, dialogue]
  | removeDirectory path =>
    have hline := Template.fill_word "RMD %s" "RMD " path.wire rfl (by decide)
    rw [worded, expectOf_eq hline, dialogue]
  | workingDirectory =>
    have hline : Template.fill "PWD" [] = .ok "PWD" := rfl
    rw [worded, pathCommandOf_eq hline, dialogue]
  | readDirectory path =>
    have hline := Template.fill_word "MLSD %s" "MLSD " path.wire rfl (by decide)
    rw [worded, dataCommandOf_eq hline, dialogue]
  | status path =>
    have hline := Template.fill_word "MLST %s" "MLST " path.wire rfl (by decide)
    rw [worded, replyCommandOf_eq hline, dialogue]

end Operation

/-! ## Lines sent -/

/-- The lines sent among what passed on a control channel. -/
def linesSent (cs : List Control) : List String :=
  cs.filterMap fun
    | .sent line => some line
    | .got _ => none

theorem linesSent_append (cs ds : List Control) :
    linesSent (cs ++ ds) = linesSent cs ++ linesSent ds := List.filterMap_append

theorem linesSent_received (reader : Reader) (queue : List Incoming) :
    linesSent (Turn.received reader queue).control = [] := by
  refine List.filterMap_eq_nil_iff.mpr fun c hc => ?_
  obtain ⟨incoming, -, hincoming⟩ := List.mem_filterMap.mp hc
  cases incoming with
  | error failure => cases hincoming
  | ok line =>
    cases hincoming
    rfl

/-- Some lines are those at the front of a plan, none with a line break inside; they are the whole plan
if it was carried out. -/
structure Follows (plan lines : List String) (carriedOut : Prop) : Prop where
  front : lines <+: plan
  single : ∀ line ∈ lines, hasLineBreak line = false
  whole : carriedOut → lines = plan

theorem Follows.nothing (carriedOut : Prop) : Follows [] [] carriedOut :=
  ⟨List.prefix_rfl, by simp, fun _ => rfl⟩

namespace Dialogue
variable {α β : Type}

/-- In every course, a dialogue sends the lines of a plan up to some point, and all of them if it does
not fail. -/
def Sends (plan : List String) (d : Dialogue α) : Prop :=
  ∀ ts r, Course d ts r → Follows plan (linesSent (ts.flatMap Turn.control)) (∃ a, r = .ok a)

theorem Sends.done (result : Except Failure α) : Sends [] (.done result) := by
  intro ts r h
  obtain ⟨rfl, -⟩ := course_done h
  exact .nothing _

theorem Sends.fail (plan : List String) (failure : Failure) :
    Sends plan (fail failure : Dialogue α) := by
  intro ts r h
  obtain ⟨rfl, rfl⟩ := course_done h
  exact ⟨List.nil_prefix, by simp [linesSent], by simp⟩

theorem Sends.say (text : String) : Sends [] (say text) := by
  intro ts r h
  obtain ⟨rfl, -⟩ := course_say h
  exact .nothing _

/-- A sequence sends one plan after the other. -/
theorem Sends.bind {plan more : List String} {d : Dialogue α} {f : α → Dialogue β}
    (hd : Sends plan d) (hf : ∀ a, Sends more (f a)) : Sends (plan ++ more) (d >>= f) := by
  intro ts r h
  obtain ⟨a, us, vs, hdc, hfc, rfl⟩ | ⟨failure, hdc, rfl⟩ := course_bind h
  · have hus := hd us _ hdc
    have hvs := hf a vs r hfc
    rw [List.flatMap_append, linesSent_append, hus.whole ⟨a, rfl⟩]
    refine ⟨(List.prefix_append_right_inj plan).mpr hvs.front, ?_, fun hok => by rw [hvs.whole hok]⟩
    intro line hline
    rcases List.mem_append.mp hline with hline | hline
    · exact hus.single line (by rw [hus.whole ⟨a, rfl⟩]; exact hline)
    · exact hvs.single line hline
  · have hts := hd ts _ hdc
    exact ⟨hts.front.trans (List.prefix_append plan more), hts.single, by simp⟩

/-- What follows sends nothing. -/
theorem Sends.bind_silent {plan : List String} {d : Dialogue α} {f : α → Dialogue β}
    (hd : Sends plan d) (hf : ∀ a, Sends [] (f a)) : Sends plan (d >>= f) := by
  have hbind := hd.bind hf
  rwa [List.append_nil] at hbind

theorem Sends.map {plan : List String} {d : Dialogue α} (hd : Sends plan d) (g : α → β) :
    Sends plan (g <$> d) := hd.bind_silent fun a => .done (.ok (g a))

theorem sends_reply : Sends [] reply := by
  intro ts r h
  have hnone : linesSent (ts.flatMap Turn.control) = [] := by
    obtain ⟨queue, -, ⟨failure, -, rfl⟩ | ⟨a, note, -, rfl⟩⟩ := course_reply h
    · rw [List.flatMap_singleton, linesSent_received]
    · have hcontrol : [Turn.received .opening queue, .noted note].flatMap Turn.control =
          (Turn.received .opening queue).control := List.append_nil _
      rw [hcontrol, linesSent_received]
  rw [hnone]
  exact .nothing _

theorem sends_command (line : String) : Sends [line] (command line) := by
  intro ts r h
  obtain ⟨-, rfl, rfl⟩ | ⟨hline, ⟨note, failure, rfl, rfl⟩ | ⟨note, us, hreply, rfl⟩⟩ :=
    course_command h
  · exact ⟨List.nil_prefix, by simp [linesSent], by simp⟩
  · exact ⟨List.prefix_rfl, by simpa [linesSent, Turn.control] using hline, by simp⟩
  · have hus := sends_reply us r hreply
    have hlines : linesSent ((Turn.noted note :: .sent line (.ok ()) :: us).flatMap Turn.control) =
        [line] ++ linesSent (us.flatMap Turn.control) := linesSent_append [.sent line] _
    rw [hlines, List.prefix_nil.mp hus.front]
    exact ⟨List.prefix_rfl, by simpa using hline, fun _ => rfl⟩

theorem sends_expect (e : Expected) (line : String) : Sends [line] (expect e line) := by
  refine (sends_command line).bind_silent fun a => Sends.bind_silent (.done _) fun admitted => ?_
  cases admitted with
  | true => exact .done _
  | false => exact .fail _ _

theorem sends_pathCommand (line : String) : Sends [line] (pathCommand line) := by
  refine (sends_command line).bind_silent fun a => ?_
  split
  · exact Sends.map (.done _) _
  · exact .fail _ _

theorem sends_replyCommand (line : String) : Sends [line] (replyCommand line) := by
  refine (sends_command line).bind_silent fun a => ?_
  split
  · exact .done _
  · exact (Sends.say _).bind_silent fun _ => .fail _ _

theorem Quiet.lines {ts : List Turn} (h : Quiet ts) : linesSent (ts.flatMap Turn.control) = [] := by
  rw [h.control]
  rfl

theorem sends_collect (line : String) : Sends [] (collect line) := by
  intro ts r h
  obtain ⟨answer, us, hquiet, rfl, -⟩ := course_collect h
  have hnone : linesSent ((Turn.drained answer :: us).flatMap Turn.control) = [] := hquiet.lines
  rw [hnone]
  exact .nothing _

theorem sends_closeQuietly : Sends [] closeQuietly := by
  intro ts r h
  obtain ⟨answer, us, hquiet, rfl, -⟩ := course_closeQuietly h
  have hnone : linesSent ((Turn.closed answer :: us).flatMap Turn.control) = [] := hquiet.lines
  rw [hnone]
  exact .nothing _

theorem sends_dataCommand (line : String) : Sends [line] (dataCommand line) := by
  intro ts r h
  obtain ⟨refusal, failure, rfl, rfl⟩ | ⟨us, vs, outcome, closing, htransfer, hclose, hend⟩ :=
    course_dataCommand h
  · exact ⟨List.nil_prefix, by simp [linesSent, Turn.control], by simp⟩
  have hus := ((sends_expect _ line).bind_silent fun _ => sends_collect line) us outcome htransfer
  have hvs := List.prefix_nil.mp (sends_closeQuietly vs closing hclose).front
  -- Only the command sends a line: reading the data, closing the channel and the last reply do not.
  have hlines : ∀ later, linesSent
      ((Turn.opened none (.ok ()) :: (us ++ (vs ++ later))).flatMap Turn.control) =
        linesSent (us.flatMap Turn.control) ++ linesSent (later.flatMap Turn.control) := by
    intro later
    have hopened : (Turn.opened none (.ok ()) :: (us ++ (vs ++ later))).flatMap Turn.control =
        (us ++ (vs ++ later)).flatMap Turn.control := rfl
    rw [hopened, List.flatMap_append, List.flatMap_append, linesSent_append, linesSent_append, hvs,
      List.nil_append]
  obtain ⟨-, ⟨failure, rfl⟩, rfl⟩ | ⟨⟨a, rfl⟩, -, ws, xs, last, hreply, hquiet, -, rfl⟩ := hend
  · have hall := hlines []
    rw [List.append_nil, List.flatMap_nil] at hall
    rw [hall, show linesSent [] = [] from rfl, List.append_nil]
    exact ⟨hus.front, hus.single, by simp⟩
  · have hws := List.prefix_nil.mp (sends_reply ws last hreply).front
    rw [hlines, List.flatMap_append, linesSent_append, hws, hquiet.lines, hus.whole ⟨a, rfl⟩]
    exact ⟨List.prefix_rfl, fun l hl => hus.single l (by rw [hus.whole ⟨a, rfl⟩]; exact hl),
      fun _ => rfl⟩

theorem sends_operation (op : Operation) : Sends op.plan op.dialogue := by
  cases op with
  | delete path => exact (sends_expect _ _).bind_silent fun _ => .done _
  | rename source target =>
    exact (sends_expect _ _).bind fun _ => (sends_expect _ _).bind_silent fun _ => .done _
  | makeDirectory path => exact sends_pathCommand _
  | removeDirectory path => exact (sends_expect _ _).bind_silent fun _ => .done _
  | workingDirectory => exact sends_pathCommand _
  | readDirectory path => exact (sends_dataCommand _).map _
  | status path => exact (sends_replyCommand _).map _

/-! ## Renaming -/

/-- A command passes its line first of all, if it is sent. -/
theorem control_command_cases {line : String} {ts : List Turn} {r : Except Failure Reply}
    (h : Course (command line) ts r) :
    ts.flatMap Turn.control = [] ∨ ∃ rest, ts.flatMap Turn.control = .sent line :: rest := by
  obtain ⟨-, rfl, -⟩ | ⟨-, ⟨note, failure, -, rfl⟩ | ⟨note, us, -, rfl⟩⟩ := course_command h
  · exact .inl rfl
  · exact .inr ⟨[], rfl⟩
  · exact .inr ⟨us.flatMap Turn.control, rfl⟩

theorem control_command_ok {line : String} {ts : List Turn} {a : Reply}
    (h : Course (command line) ts (.ok a)) :
    (∃ f : Frame, f.WellFormed ∧ f.reply = a) ∧
      ts.flatMap Turn.control = .sent line :: a.lines.map .got := by
  obtain ⟨-, -, hr⟩ | ⟨-, ⟨note, failure, hr, -⟩ | ⟨note, us, hreply, rfl⟩⟩ := course_command h
  · cases hr
  · cases hr
  obtain ⟨queue, hread, ⟨failure, hr, -⟩ | ⟨b, note', hb, rfl⟩⟩ := course_reply hreply
  · cases hr
  obtain ⟨hframe, hcontrol⟩ := control_received hread
  refine ⟨hframe, ?_⟩
  have hall : [Turn.noted note, .sent line (.ok ()), .received .opening queue, .noted note'].flatMap
      Turn.control = .sent line :: ((Turn.received .opening queue).control ++ []) := rfl
  rw [hall, hcontrol, List.append_nil]

theorem control_expect_cases {e : Expected} {line : String} {ts : List Turn}
    {r : Except Failure Unit} (h : Course (expect e line) ts r) :
    ts.flatMap Turn.control = [] ∨ ∃ rest, ts.flatMap Turn.control = .sent line :: rest := by
  obtain ⟨failure, hcommand, -⟩ | ⟨a, hcommand, -⟩ := course_expect h
  · exact control_command_cases hcommand
  · exact control_command_cases hcommand

theorem control_expect_ok {e : Expected} {line : String} {ts : List Turn}
    (h : Course (expect e line) ts (.ok ())) :
    ∃ f : Frame, f.WellFormed ∧ e.admits f.code = .ok true ∧
      ts.flatMap Turn.control = .sent line :: f.lines.map .got := by
  obtain ⟨failure, -, hr⟩ | ⟨a, hcommand, ⟨hadmits, -⟩ | ⟨-, failure, hr⟩⟩ := course_expect h
  · cases hr
  · obtain ⟨⟨f, hf, rfl⟩, hcontrol⟩ := control_command_ok hcommand
    exact ⟨f, hf, hadmits, hcontrol⟩
  · cases hr

/-- The second line of a renaming goes out only after one whole reply to the first, and its code is
350. -/
theorem renamed_after_reply {source target : RemotePath} {ts : List Turn} {r : Except Failure Told}
    (h : Course (Operation.rename source target).dialogue ts r)
    (hsent : "RNTO " ++ target.wire ∈ linesSent (ts.flatMap Turn.control)) :
    ∃ (f : Frame) (rest : List Control), f.WellFormed ∧ f.code = 350 ∧
      ts.flatMap Turn.control = .sent ("RNFR " ++ source.wire) ::
        (f.lines.map .got ++ .sent ("RNTO " ++ target.wire) :: rest) := by
  -- The first command sends no line but its own, so the second line is one of the second command.
  have hother : "RNTO " ++ target.wire ∉ ["RNFR " ++ source.wire] := by
    intro hmem
    have hsame := congrArg String.toList (List.mem_singleton.mp hmem)
    simp at hsame
  obtain ⟨_, us, vs, hfirst, hrest, rfl⟩ | ⟨failure, hfirst, -⟩ := course_bind h
  case inr => exact absurd ((sends_expect _ _ ts _ hfirst).front.subset hsent) hother
  obtain ⟨f, hf, hadmits, hus⟩ := control_expect_ok hfirst
  have hcode : f.code = 350 := by
    have hdecided : decide ((350 : Int) = f.code) = true := Except.ok.inj hadmits
    have hequal := of_decide_eq_true hdecided
    omega
  rw [List.flatMap_append, linesSent_append] at hsent
  have hlater : "RNTO " ++ target.wire ∈ linesSent (vs.flatMap Turn.control) := by
    rcases List.mem_append.mp hsent with hmem | hmem
    · exact absurd ((sends_expect _ _ us _ hfirst).front.subset hmem) hother
    · exact hmem
  have hvs : vs.flatMap Turn.control = [] ∨
      ∃ rest, vs.flatMap Turn.control = .sent ("RNTO " ++ target.wire) :: rest := by
    obtain ⟨_, ws, xs, hsecond, hdone, rfl⟩ | ⟨failure, hsecond, -⟩ := course_bind hrest
    · obtain ⟨rfl, -⟩ := course_done hdone
      rw [List.append_nil]
      exact control_expect_cases hsecond
    · exact control_expect_cases hsecond
  obtain hnone | ⟨rest, hvs⟩ := hvs
  · rw [hnone] at hlater
    cases hlater
  · exact ⟨f, rest, hf, hcode, by rw [List.flatMap_append, hus, hvs, List.cons_append]⟩

end Dialogue
end FileTransfer
