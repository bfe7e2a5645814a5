import FileTransfer.Proofs.Pool.ReadDirectory
import FileTransfer.Proofs.Reply.Quotation

/-!
# Operations whose reply names a directory

A server names the directory that it made, or the one that it is in, in the text of its reply. The
caller gets that name exactly, whatever double quotes are in it.

* `NamesDirectory`: the operations, with the line of their command.
* `directory_named`: what becomes of each complete reply, and which texts name no directory.
-/

namespace FileTransfer.Pool
open FileTransfer.Reply FileTransfer.Session FileTransfer.Text
set_option autoImplicit false

inductive NamesDirectory : Operation → String → Prop
  | made {path : RemotePath} (h : hasLineBreak path.wire = false) :
      NamesDirectory (.makeDirectory path) ("MKD " ++ path.wire)
  | current : NamesDirectory .workingDirectory "PWD"

theorem NamesDirectory.dialogue_eq {op : Operation} {line : String} (h : NamesDirectory op line) :
    op.dialogue = Dialogue.pathCommand line ∧ hasLineBreak line = false := by
  cases h with
  | made hpath => exact ⟨rfl, by rw [hasLineBreak_append, hpath]; rfl⟩
  | current => exact ⟨rfl, by decide⟩

theorem read_directoryName (text : String) :
    (DirectoryName.read text = .error (.undecodable (.directoryName text)) ↔
        text.toList.count doubleQuote < 2) ∧
      ((∃ name, DirectoryName.read text = .ok name) ↔ 2 ≤ text.toList.count doubleQuote) := by
  have hnone := DirectoryName.read?_eq_none_iff text.toList
  cases hread : DirectoryName.read? text.toList with
  | none =>
    have hfew := hnone.mp hread
    have hfails : DirectoryName.read text = .error (.undecodable (.directoryName text)) := by
      rw [DirectoryName.read, hread]
    refine ⟨iff_of_true hfails hfew, iff_of_false ?_ (by omega)⟩
    rintro ⟨name, hname⟩
    rw [hfails] at hname
    cases hname
  | some name =>
    have hmany := mt hnone.mpr (by rw [hread]; nofun)
    have hnamed : DirectoryName.read text = .ok (String.ofList name) := by
      rw [DirectoryName.read, hread]
    refine ⟨iff_of_false ?_ hmany, iff_of_true ⟨_, hnamed⟩ (by omega)⟩
    rw [hnamed]
    nofun

variable {ω : Type} [Pool ω] {w w' : ω} {id : Id}

/-- When a whole reply comes to the command, its code decides. With the code for it the caller gets the
name of the directory as it is, each double quote of it written twice in the reply and none around it,
in one line or any of several; a text with fewer than two double quotes names none, and any other does.
With any other code the reply is the failure, even if it names a directory. Only a failure to give the
connection back would take the place of these. -/
theorem directory_named {op : Operation} {line : String} {f : Frame} {later : List Incoming}
    (hop : NamesDirectory op line) (hacquire : Pool.acquire w = (.ok id, w'))
    (hsends : ((Pool.network w').connection id).sends.headD none = none) (hf : f.WellFormed)
    (hreplies : ((Pool.network w').connection id).replies = f.lines.map .ok ++ later) :
    let message := joined "\n" f.texts
    let left := (Holding.run op.dialogue
      { connection := (Pool.network w').connection id }).2.connection.replies
    let released := (Pool.release id (Pool.converse id op.dialogue w').2).1
    let result := (Pool.perform op w).1
    left = later ∧
    (f.code = 257 →
      (∀ name pre post : List Char, doubleQuote ∉ pre → doubleQuote ∉ post →
        message.toList = pre ++ DirectoryName.written name ++ post →
        result = unlessFails (.ok (.path (String.ofList name))) released) ∧
      (message.toList.count doubleQuote < 2 →
        result = unlessFails (.error (.undecodable (.directoryName message))) released)) ∧
    (f.code ≠ 257 →
      result = unlessFails (.error (.protocol f.code message (some line) none)) released) ∧
    ∀ text : String,
      (DirectoryName.read text = .error (.undecodable (.directoryName text)) ↔
        text.toList.count doubleQuote < 2) ∧
      ((∃ name, DirectoryName.read text = .ok name) ↔ 2 ≤ text.toList.count doubleQuote) ∧
      (Undecodable.directoryName text).isIncomplete = false := by
  intro message left released result
  obtain ⟨hdialogue, hline⟩ := hop.dialogue_eq
  obtain ⟨h', htakes, hleft⟩ := Holding.takes_pathCommand
    (h := { connection := (Pool.network w').connection id }) hline hsends hf hreplies
  rw [← hdialogue] at htakes
  have hresult := perform_eq hacquire op (congrArg Prod.fst htakes.run_eq)
  refine ⟨(congrArg (·.2.connection.replies) htakes.run_eq).trans hleft, ?_, ?_, ?_⟩
  · intro hcode
    rw [if_pos hcode] at hresult
    constructor
    · intro name pre post hpre hpost hmessage
      have hname : DirectoryName.read message = .ok (String.ofList name) := by
        rw [DirectoryName.read, hmessage, DirectoryName.read?_written hpre hpost]
      have hreply : DirectoryName.read f.reply.message = .ok (String.ofList name) := hname
      rw [hreply] at hresult
      exact hresult
    · intro hfew
      have hreply : DirectoryName.read f.reply.message = .error (.undecodable (.directoryName message)) :=
        (read_directoryName message).1.mpr hfew
      rw [hreply] at hresult
      exact hresult
  · intro hcode
    rw [if_neg hcode] at hresult
    exact hresult
  · intro text
    obtain ⟨hfew, hmany⟩ := read_directoryName text
    exact ⟨hfew, hmany, rfl⟩

/-- A server that made a directory whose name starts and ends with double quotes, and one that did not
but names a directory all the same. -/
def namingServers : List Script :=
  [{ replies := [.ok "257-see", .ok "257-now \"\"\"a\"\"\"\"\" is", .ok "257", .ok "220 later"] },
    { replies := [.ok "550 \"a\" is there"] }]

theorem directory_named_quotes :
    (Pool.perform (.makeDirectory (.plain "x")) (ReplayPool.ofScripts namingServers [])).1 =
        .ok (.path "\"a\"\"") ∧
      (Pool.perform .workingDirectory
        (ReplayPool.ofScripts (namingServers.drop 1) [])).1 =
        .error (.protocol 550 "\"a\" is there" (some "PWD") none) := by
  let made : Frame := .long 257 "see" ["257-now \"\"\"a\"\"\"\"\" is"] none
  have hmade : made.WellFormed := by
    refine ⟨by decide, by decide, fun line hline => (closes_eq_false_iff 257 line).mp ?_⟩
    rw [List.mem_singleton.mp hline]
    decide
  let refused : Frame := .short 550 (some "\"a\" is there")
  have hrefused : refused.WellFormed := ⟨by decide, by decide, by simp [refused, Frame.inside]⟩
  have hasks : NamesDirectory (.makeDirectory (.plain "x")) _ := .made (by decide)
  have hnamed := directory_named (w := ReplayPool.ofScripts namingServers []) (f := made)
    hasks rfl rfl hmade (show _ = _ ++ [.ok "220 later"] from rfl)
  have hother := directory_named (w := ReplayPool.ofScripts (namingServers.drop 1) []) (f := refused)
    .current rfl rfl hrefused (show _ = _ ++ [] from rfl)
  refine ⟨?_, hother.2.2.1 (by decide)⟩
  exact (hnamed.2.1 rfl).1 "\"a\"\"".toList "see\nnow ".toList " is\n".toList (by decide) (by decide)
    (by decide)

end FileTransfer.Pool
