import FileTransfer.Proofs.Dialogue.Plan
import FileTransfer.Proofs.Session.ReplyStream
import FileTransfer.Proofs.Session.Stepwise
import FileTransfer.Scenario

/-!
# Passwords

A command that gives a password is carried out and told as it would be with any other password,
whatever the other side answers: nothing but the line that is sent tells which one it was.

* `SpellsPass`: the word before a password, in any case.
* `Giving`: a command with a password, as a line or as a template.
* `DifferByLine`: two runs that differ by one line that was sent.
* `DifferByLine.later`: what is done after the line does not add to the difference.
* `password_kept`: commands with two passwords differ by the line.
-/

namespace FileTransfer
open FileTransfer.Reply FileTransfer.Session FileTransfer.Scenario.Scene
set_option autoImplicit false

/-! ## Lines with a password -/

/-- The word before a password, in any case. -/
def SpellsPass (word : String) : Prop := word.toList.map Char.toUpper = passwordWord

/-- A command that gives a password after a word: the whole line, or a template and its argument. -/
inductive Giving (word password : String) : String → List Value → Prop
  | line : Giving word password (word ++ password) []
  | template : Giving word password (word ++ "%s") [.text password]

namespace SpellsPass
variable {word : String}

theorem length_eq (h : SpellsPass word) : word.toList.length = 5 := by
  have hlength := congrArg List.length h
  rwa [List.length_map] at hlength

theorem not_mem (h : SpellsPass word) {c : Char} (hc : c.toUpper ∉ passwordWord) :
    c ∉ word.toList := by
  intro hmem
  have hupper := List.mem_map_of_mem (f := Char.toUpper) hmem
  rw [h] at hupper
  exact hc hupper

theorem upperCase_eq (h : SpellsPass word) {c : Char} (hmem : c ∈ word.toList) :
    upperCase c = [c.toUpper] := by
  have hlong : c ≠ 'ſ' := fun heq => h.not_mem (by decide) (heq ▸ hmem)
  have hsharp : c ≠ 'ß' := fun heq => h.not_mem (by decide) (heq ▸ hmem)
  rw [upperCase, if_neg hlong, if_neg hsharp]

theorem hasLineBreak_eq (h : SpellsPass word) : hasLineBreak word = false := by
  refine List.any_eq_false.mpr fun c hmem => ?_
  have hreturn : c ≠ '\r' := fun heq => h.not_mem (by decide) (heq ▸ hmem)
  have hnewline : c ≠ '\n' := fun heq => h.not_mem (by decide) (heq ▸ hmem)
  simp [hreturn, hnewline]

theorem censored_eq (h : SpellsPass word) (password : String) :
    censored (word ++ password) = "PASS ******" := by
  have hfront : (word ++ password).toList.take 5 = word.toList := by
    rw [String.toList_append, ← h.length_eq]
    exact List.take_left
  have hupper : word.toList.flatMap upperCase = passwordWord := by
    rw [List.flatMap_congr fun c hmem => h.upperCase_eq hmem, ← List.map_eq_flatMap]
    exact h
  have hgives : givesPassword (word ++ password) = true := by
    rw [givesPassword, hfront, hupper]
    exact decide_eq_true rfl
  rw [censored, hgives]
  rfl

theorem single (h : SpellsPass word) {password : String} (hline : hasLineBreak password = false) :
    hasLineBreak (word ++ password) = false := by
  rw [hasLineBreak_append, h.hasLineBreak_eq, hline]
  rfl

theorem fill_eq (h : SpellsPass word) {password template : String} {arguments : List Value}
    (hgiving : Giving word password template arguments) :
    Template.fill template arguments = .ok (word ++ password) := by
  -- Without arguments percent signs stay; as an argument the password is not filled in again.
  cases hgiving with
  | line => rfl
  | template => exact Template.fill_word _ word password rfl (h.not_mem (by decide))

end SpellsPass

/-! ## Runs that differ by a line -/

namespace Session.Holding
open Dialogue
variable {α β : Type} {h : Holding} {line line' : String}

/-- Two runs from one holding that differ by the line that was sent first, and by nothing else. -/
structure DifferByLine (h : Holding) (line line' : String) (a b : Except Failure α × Holding) :
    Prop where
  result_eq : a.1 = b.1
  connection_eq : a.2.connection = b.2.connection
  stream_eq : a.2.stream = b.2.stream
  notes_eq : a.2.trace.notes = b.2.trace.notes
  events : ∃ later : List Event,
    a.2.trace.events = h.trace.events ++ h.connection.event (.send line) :: later ∧
    b.2.trace.events = h.trace.events ++ h.connection.event (.send line') :: later

theorem differByLine_send (h : Holding) (line line' : String) :
    DifferByLine h line line' (h.send line) (h.send line') :=
  ⟨rfl, rfl, rfl, rfl, [], rfl, rfl⟩

theorem DifferByLine.of_note {text : String} {a b : Except Failure α × Holding}
    (hdiffer : DifferByLine (h.note text) line line' a b) : DifferByLine h line line' a b := by
  obtain ⟨later, ha, hb⟩ := hdiffer.events
  have hevents : (h.note text).trace.events = h.trace.events := List.append_nil _
  rw [hevents] at ha hb
  exact ⟨hdiffer.result_eq, hdiffer.connection_eq, hdiffer.stream_eq, hdiffer.notes_eq, later, ha, hb⟩

theorem DifferByLine.later {a b : Except Failure α × Holding} (hdiffer : DifferByLine h line line' a b)
    (f : Except Failure α → Dialogue β) :
    DifferByLine h line line' (run (f a.1) a.2) (run (f b.1) b.2) := by
  obtain ⟨later, ha, hb⟩ := hdiffer.events
  -- A dialogue sees the connection and the stream of a holding, and these are the same by now.
  have hbare : a.2.bare = b.2.bare := by
    rw [bare, bare, hdiffer.connection_eq, hdiffer.stream_eq]
  rw [hdiffer.result_eq, run_bare _ a.2, run_bare _ b.2, hbare]
  generalize Holding.run (f b.1) b.2.bare = ended
  refine ⟨rfl, rfl, rfl, ?_, later ++ ended.2.trace.events, ?_, ?_⟩
  · exact congrArg (· ++ ended.2.trace.notes) hdiffer.notes_eq
  · change a.2.trace.events ++ ended.2.trace.events = _
    rw [ha, List.append_assoc, List.cons_append]
  · change b.2.trace.events ++ ended.2.trace.events = _
    rw [hb, List.append_assoc, List.cons_append]

theorem DifferByLine.bind {d d' : Dialogue α}
    (hdiffer : DifferByLine h line line' (run d h) (run d' h)) (f : α → Dialogue β) :
    DifferByLine h line line' (run (d >>= f) h) (run (d' >>= f) h) := by
  have hrun : ∀ d : Dialogue α, run (d >>= f) h = run (done (run d h).1 >>= f) (run d h).2 := by
    intro d
    rw [run_bind]
    rcases run d h with ⟨failure | a, h'⟩ <;> rfl
  rw [hrun d, hrun d']
  exact hdiffer.later fun result => done result >>= f

theorem differByLine_command (hline : hasLineBreak line = false) (hline' : hasLineBreak line' = false)
    (hshown : censored line = censored line') (h : Holding) :
    DifferByLine h line line' (run (command line) h) (run (command line') h) := by
  have hcommand : ∀ l, hasLineBreak l = false → run (command l) h =
      run (done ((h.note s!"sending command {censored l}").send l).1 >>= fun _ => reply)
        ((h.note s!"sending command {censored l}").send l).2 := by
    intro l hl
    rw [command, hl]
    rfl
  rw [hcommand line hline, hcommand line' hline', hshown]
  exact ((differByLine_send _ line line').later fun sent => done sent >>= fun _ => reply).of_note

end Session.Holding

/-! ## Two passwords -/

section Passwords
open Dialogue Session.Holding

/-- Commands that give two passwords after the same word, and of which any reply or a certain one is
expected, differ by the line that is sent and by nothing else. The line may be made once more to tell
of a wrong reply. -/
theorem password_kept {word p q : String} (hword : SpellsPass word) (hp : hasLineBreak p = false)
    (hq : hasLineBreak q = false) {template template' : String} {arguments arguments' : List Value}
    (hgiving : Giving word p template arguments) (hgiving' : Giving word q template' arguments')
    (e : Expected) (h : Holding) :
    DifferByLine h (word ++ p) (word ++ q) (run (commanding template arguments command) h)
      (run (commanding template' arguments' command) h) ∧
    DifferByLine h (word ++ p) (word ++ q) (run (commanding template arguments (expect e)) h)
      (run (commanding template' arguments' (expect e)) h) ∧
    DifferByLine h (word ++ p) (word ++ q) (run (expectOf e template arguments) h)
      (run (expectOf e template' arguments') h) := by
  have hfill := hword.fill_eq hgiving
  have hfill' := hword.fill_eq hgiving'
  have hshown : censored (word ++ p) = censored (word ++ q) := by
    rw [hword.censored_eq, hword.censored_eq]
  have hcommand := differByLine_command (hword.single hp) (hword.single hq) hshown h
  have hexpect : DifferByLine h (word ++ p) (word ++ q) (run (expect e (word ++ p)) h)
      (run (expect e (word ++ q)) h) := by
    rw [expect, expect, hshown]
    exact hcommand.bind _
  refine ⟨?_, ?_, ?_⟩
  · rw [commanding, commanding, filled_eq hfill, filled_eq hfill']
    exact hcommand
  · rw [commanding, commanding, filled_eq hfill, filled_eq hfill']
    exact hexpect
  · rw [expectOf_eq hfill, expectOf_eq hfill']
    exact hexpect

/-- A wrong reply of two lines to a password with a percent sign, which is told without it, and so it is
with a password that looks like another command. -/
theorem password_kept_wrong_reply :
    let h : Holding := { connection := { id := 0, replies := [.ok "331-PASS x", .ok "331 now"] } }
    let e : Expected := .code 230
    SpellsPass "pAsS " ∧ hasLineBreak "50%s" = false ∧ hasLineBreak "PASS ß" = false ∧
      (run (commanding "pAsS 50%s" [] (expect e)) h).1 =
        .error (.protocol 331 "PASS x\nnow" (some "PASS ******") none) ∧
      DifferByLine h "pAsS 50%s" "pAsS PASS ß" (run (commanding "pAsS 50%s" [] (expect e)) h)
        (run (commanding "pAsS %s" [.text "PASS ß"] (expect e)) h) := by
  intro h e
  have hword : SpellsPass "pAsS " := by
    unfold SpellsPass
    decide
  have hkept := password_kept hword (p := "50%s") (q := "PASS ß") (by decide) (by decide) .line
    .template e h
  exact ⟨hword, by decide, by decide, rfl, hkept.2.1⟩

end Passwords
end FileTransfer
