import FileTransfer.Proofs.Pool.ReadDirectory
import FileTransfer.Proofs.Reply.Texts

/-!
# The status of one entry

A server tells of one entry inside a reply of three lines. The fact line between the first and the last
is decoded as it would be by itself, however the server puts it there.

* `Told.entry_of_three`, `Told.entry_of_length_ne`: what the lines of a reply about an entry come to.
* `perform_status`: what the reply as a whole comes to.
* `status_answered`: what becomes of each complete reply.
-/

namespace FileTransfer
open FileTransfer.Listing FileTransfer.Reply FileTransfer.Session FileTransfer.Text
set_option autoImplicit false

/-! ## Decoding -/

namespace Told

/-- That a line gives no entry at all is provided for, but never comes about: only entries that are
passed over are none, and here none is. -/
theorem entry_of_three (first line last : String) :
    let fact := String.ofList (line.toList.dropWhile (· = ' '))
    (∃ e, Entry.read fact false = .ok (some e) ∧ entry [first, line, last] = .ok e) ∨
      ∃ failure, Entry.read fact false = .error failure ∧
        entry [first, line, last] = .error failure := by
  intro fact
  cases hread : Entry.read fact false with
  | error failure =>
    refine .inr ⟨failure, rfl, ?_⟩
    rw [entry, hread]
    rfl
  | ok e? =>
    cases e? with
    | none => exact absurd hread (Entry.read_ne_none fact)
    | some e =>
      refine .inl ⟨e, rfl, ?_⟩
      rw [entry, hread]
      rfl

theorem entry_of_length_ne {lines : List String} (h : lines.length ≠ 3) :
    entry lines = .error (.undecodable (.entryReply lines)) := by
  rw [entry]
  rintro first line last rfl
  exact h rfl

end Told

/-! ## Operations -/

namespace Pool
variable {ω : Type} [Pool ω] {w w' : ω} {id : Id}

theorem perform_status {path : RemotePath} {f : Frame} {later : List Incoming}
    (hacquire : Pool.acquire w = (.ok id, w')) (hpath : hasLineBreak path.wire = false)
    (hsends : ((Pool.network w').connection id).sends.headD none = none) (hf : f.WellFormed)
    (hreplies : ((Pool.network w').connection id).replies = f.lines.map .ok ++ later)
    (hplain : ∀ l ∈ f.lines, '\n' ∉ l.toList) :
    let dialogue := (Operation.status path).dialogue
    (Holding.run dialogue
        { connection := (Pool.network w').connection id }).2.connection.replies = later ∧
      (Pool.perform (.status path) w).1 = unlessFails
        (if f.code / 100 = 2 then Answer.entry <$> Told.entry f.texts
        else .error (.protocol f.code (joined "\n" f.texts) (some ("MLST " ++ path.wire)) none))
        (Pool.release id (Pool.converse id dialogue w').2).1 := by
  have hline : hasLineBreak ("MLST " ++ path.wire) = false := by
    rw [hasLineBreak_append, hpath]
    rfl
  obtain ⟨h', htakes, hleft⟩ := Holding.takes_replyCommand
    (h := { connection := (Pool.network w').connection id }) hline hsends hf hreplies
  have habout := htakes.map Told.about
  have hresult := perform_eq hacquire (.status path) (congrArg Prod.fst habout.run_eq)
  rw [Frame.pieces_message hplain] at hresult
  refine ⟨(congrArg (·.2.connection.replies) habout.run_eq).trans hleft, hresult.trans ?_⟩
  have hcovers := covers_iff .positiveCompletion f.code
  by_cases hcode : f.code / 100 = 2
  · rw [hcovers.mpr hcode, if_pos hcode]
    rfl
  · rw [Bool.eq_false_iff.mpr (mt hcovers.mp hcode), if_neg hcode]
    rfl

/-- When a whole reply comes to the command, in lines without line feeds, it is first of all the code
that decides, then the number of lines. Of three lines the one in the middle is decoded, once it is
freed of its code and its indentation, and the operation comes to what that comes to: an entry, or the
failure of the line. How the server indented the line, or whether it put the code before it, makes no
difference. Only a failure to give the connection back would take the place of these. -/
theorem status_answered {path : RemotePath} {f : Frame} {later : List Incoming}
    (hacquire : Pool.acquire w = (.ok id, w')) (hpath : hasLineBreak path.wire = false)
    (hsends : ((Pool.network w').connection id).sends.headD none = none) (hf : f.WellFormed)
    (hreplies : ((Pool.network w').connection id).replies = f.lines.map .ok ++ later)
    (hplain : ∀ l ∈ f.lines, '\n' ∉ l.toList) :
    let line := "MLST " ++ path.wire
    let dialogue := (Operation.status path).dialogue
    let left := (Holding.run dialogue
      { connection := (Pool.network w').connection id }).2.connection.replies
    let released := (Pool.release id (Pool.converse id dialogue w').2).1
    let result := (Pool.perform (.status path) w).1
    left = later ∧
    (f.code / 100 ≠ 2 → result = unlessFails
      (.error (.protocol f.code (joined "\n" f.texts) (some line) none)) released) ∧
    (f.code / 100 = 2 → f.lines.length ≠ 3 →
      result = unlessFails (.error (.undecodable (.entryReply f.texts))) released ∧
      f.texts.length = f.lines.length ∧ (Undecodable.entryReply f.texts).isIncomplete = false) ∧
    (f.code / 100 = 2 → ∀ first l last, f.lines = [first, l, last] →
      ((∃ e, Entry.read (unindented f.code l) false = .ok (some e) ∧
          result = unlessFails (.ok (.entry e)) released) ∨
        ∃ failure, Entry.read (unindented f.code l) false = .error failure ∧
          result = unlessFails (.error failure) released) ∧
      (∃ fact, Carries f.code fact l) ∧
      ∀ fact, Carries f.code fact l →
        unindented f.code l = String.ofList (fact.toList.dropWhile (· = ' '))) := by
  intro line dialogue left released result
  obtain ⟨hleft, hanswer⟩ := perform_status hacquire hpath hsends hf hreplies hplain
  have hresult : result = _ := hanswer
  refine ⟨hleft, fun hcode => ?_, fun hcode hlength => ?_, fun hcode first l last hlines => ?_⟩
  · rw [if_neg hcode] at hresult
    exact hresult
  · rw [if_pos hcode, Told.entry_of_length_ne (by rw [f.length_texts]; exact hlength)] at hresult
    exact ⟨hresult, f.length_texts, rfl⟩
  · obtain ⟨a, b, htexts⟩ := Frame.texts_of_three hlines
    rw [if_pos hcode, htexts] at hresult
    have hupper := hf.upper
    refine ⟨?_, exists_carries f.code l, fun fact hcarries => hcarries.unindented_eq (by omega)⟩
    rcases Told.entry_of_three a (insideText f.code l) b with ⟨e, hread, he⟩ | ⟨failure, hread, he⟩
    · rw [he] at hresult
      exact .inl ⟨e, hread, hresult⟩
    · rw [he] at hresult
      exact .inr ⟨failure, hread, hresult⟩

/-- A server that tells of a file by a line inside its reply. -/
def tellingOf (line : String) : Script where
  replies := [.ok "250-about it", .ok line, .ok "250"]

theorem status_answered_three_ways :
    let fact := "type=file;size=1;modify=20150216084148; f"
    let indented := "  type=file;size=1;modify=20150216084148; f"
    let coded := "250-type=file;size=1;modify=20150216084148; f"
    ∃ e : Entry, e.raw = fact ∧ ∀ line ∈ [fact, indented, coded],
      (Pool.perform (.status (.plain "f")) (ReplayPool.ofScripts [tellingOf line] [])).1 =
        .ok (.entry e) := by
  intro fact indented coded
  obtain ⟨e, hread, hraw⟩ : ∃ e, Entry.read fact false = .ok (some e) ∧ e.raw = fact :=
    ⟨⟨"f", 1, 0o400, ⟨⟨2015, 2, 16, by decide⟩, ⟨8, 41, 48, 0, by decide⟩⟩, fact⟩, by decide, rfl⟩
  refine ⟨e, hraw, fun line hline => ?_⟩
  have hopen : closes 250 line.toList = false ∧ '\n' ∉ line.toList := by
    revert line
    decide
  have hcarries : Carries 250 fact line := by
    simp only [List.mem_cons, List.not_mem_nil, or_false] at hline
    obtain rfl | rfl | rfl := hline
    · exact .plain (by decide)
    · have hindented : indented = String.ofList (List.replicate 2 ' ' ++ fact.toList) := by decide
      exact hindented ▸ .indented 1
    · have hcoded : coded = openLine 250 (String.ofList (List.replicate 0 ' ' ++ fact.toList)) := by
        decide
      exact hcoded ▸ .coded 0
  have hf : (Frame.long 250 "about it" [line] none).WellFormed := by
    refine ⟨by simp [Frame.code], by simp [Frame.code], fun l hl => ?_⟩
    rw [List.mem_singleton.mp hl]
    exact (closes_eq_false_iff 250 line).mp hopen.1
  have hplain : ∀ l ∈ (Frame.long 250 "about it" [line] none).lines, '\n' ∉ l.toList := by
    simp only [Frame.lines, List.mem_cons, List.mem_append, List.not_mem_nil, or_false]
    rintro l (rfl | rfl | rfl)
    · decide
    · exact hopen.2
    · decide
  have hpath : hasLineBreak (RemotePath.plain "f").wire = false := by decide
  obtain ⟨-, -, -, hthree⟩ := status_answered (w := ReplayPool.ofScripts [tellingOf line] [])
    rfl hpath rfl hf (show _ = _ ++ [] from rfl) hplain
  obtain ⟨hresult, -, hsame⟩ := hthree (by rw [Frame.code]) _ _ _ rfl
  have hfact : String.ofList (fact.toList.dropWhile (· = ' ')) = fact := by decide
  rw [(hsame fact hcarries).trans hfact] at hresult
  obtain ⟨e', hread', hanswer⟩ | ⟨failure, hread', -⟩ := hresult
  · rw [hread] at hread'
    cases hread'
    exact hanswer
  · rw [hread] at hread'
    cases hread'

end Pool
end FileTransfer
