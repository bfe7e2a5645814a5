import FileTransfer.Proofs.Session.Conduct

/-!
# Streams of replies

The lines to come on a connection are cut into replies by reading alone: one reply after another is
read as it was written, and the lines after the last are left for later.

* `run_bind`: carrying out a sequence.
* `Dialogue.replies`: reading a number of replies.
* `replies_framed`: what is read is what was written, and nothing is read but what was written.
-/

namespace FileTransfer
open FileTransfer.Reply FileTransfer.Session
set_option autoImplicit false

/-- Reads a number of replies, one after the other. -/
def Dialogue.replies : Nat → Dialogue (List Reply)
  | 0 => return []
  | n + 1 => do
    let r ← reply
    let rs ← replies n
    return r :: rs

namespace Session.Holding
open Dialogue
variable {α β : Type}

/-! ## Sequences -/

theorem run_bind (d : Dialogue α) (f : α → Dialogue β) (h : Holding) :
    run (d >>= f) h =
      match run d h with
      | (.ok a, h') => run (f a) h'
      | (.error failure, h') => (.error failure, h') := by
  change run (d.bind f) h = _
  induction d generalizing h with
  | done result => cases result <;> rfl
  | send line next ih => exact ih _ _
  | receive reader next ih => exact ih _ _
  | openData next ih => exact ih _ _
  | readData next ih => exact ih _ _
  | closeData next ih => exact ih _ _
  | note text next ih => exact ih _

/-! ## One reply -/

/-- Reading a reply on a connection takes off its lines what reading takes off the lines alone. -/
theorem run_reply (h : Holding) :
    (run reply h).1 = (read h.connection.replies).outcome ∧
      (run reply h).2.connection = (h.receive .opening).2.connection := by
  have hread : (h.receive .opening).1 = (read h.connection.replies).outcome := rfl
  rw [← hread, reply, run]
  rcases h.receive .opening with ⟨failure | r, h'⟩
  · exact ⟨rfl, rfl⟩
  · exact ⟨rfl, rfl⟩

theorem replies_run_reply (h : Holding) :
    (run reply h).2.connection.replies = (read h.connection.replies).rest := by
  rw [(run_reply h).2]
  rfl

/-- A reply that is written is read from the front of the lines to come, and breaks nothing. -/
theorem run_reply_frame {f : Frame} (hf : f.WellFormed) (later : List Incoming) (h : Holding)
    (hlines : h.connection.replies = f.lines.map .ok ++ later) :
    ∃ h' : Holding, run reply h = (.ok f.reply, h') ∧ h'.connection.replies = later ∧
      h'.connection.broken = h.connection.broken := by
  have hread := read_frame hf later
  rw [← hlines] at hread
  refine ⟨(run reply h).2, Prod.ext ?_ rfl, ?_, ?_⟩
  · rw [(run_reply h).1, hread]
  · rw [replies_run_reply, hread]
  · have hrun : Reader.opening.run h.connection.replies = _ := hread
    rw [(run_reply h).2, receive, hrun]
    exact Bool.or_false _

/-! ## Many replies -/

theorem run_replies (frames : List Frame) (hframes : ∀ f ∈ frames, f.WellFormed)
    (later : List Incoming) (h : Holding)
    (hlines : h.connection.replies = frames.flatMap (fun f => f.lines.map .ok) ++ later) :
    ∃ h' : Holding, run (replies frames.length) h = (.ok (frames.map Frame.reply), h') ∧
      h'.connection.replies = later ∧ h'.connection.broken = h.connection.broken := by
  induction frames generalizing h with
  | nil => exact ⟨h, rfl, hlines, rfl⟩
  | cons f frames ih =>
    rw [List.flatMap_cons, List.append_assoc] at hlines
    obtain ⟨h₁, hfirst, hlines₁, hbroken₁⟩ :=
      run_reply_frame (hframes f List.mem_cons_self) _ h hlines
    obtain ⟨h₂, hrest, hlines₂, hbroken₂⟩ :=
      ih (fun f' hf' => hframes f' (List.mem_cons_of_mem f hf')) h₁ hlines₁
    refine ⟨h₂, ?_, hlines₂, hbroken₂.trans hbroken₁⟩
    rw [List.length_cons, replies, run_bind, hfirst]
    dsimp only
    rw [run_bind, hrest]
    rfl

/-- Replies are read back as they were written, one after the other, with the lines after them left
unread. Conversely, a reply that is read takes off exactly its lines, which are written as a reply is
and of which only the last ends it; and one that is broken off before it ends is read up to there,
and fails as the lines do. -/
theorem replies_framed :
    (∀ (frames : List Frame) (later : List Incoming) (h : Holding),
        (∀ f ∈ frames, f.WellFormed) →
        h.connection.replies = frames.flatMap (fun f => f.lines.map .ok) ++ later →
        (run (replies frames.length) h).1 = .ok (frames.map Frame.reply) ∧
          (run (replies frames.length) h).2.connection.replies = later) ∧
      (∀ (h : Holding) (r : Reply), (run reply h).1 = .ok r →
        h.connection.replies = r.lines.map .ok ++ (run reply h).2.connection.replies ∧
          (∃ f : Frame, f.WellFormed ∧ f.reply = r) ∧
          ∀ line ∈ r.lines.dropLast, closes r.code line.toList = false) ∧
      ∀ (h : Holding) (code : Nat) (first : String) (inside : List String) (tail later : List Incoming)
        (failure : Failure), 100 ≤ code → code ≤ 599 →
        (∀ line ∈ inside, closes code line.toList = false) →
        h.connection.replies = (openLine code first :: inside).map .ok ++ tail →
        ending tail = some (failure, later) →
        (run reply h).1 = .error failure ∧ (run reply h).2.connection.replies = later := by
  refine ⟨?_, ?_, ?_⟩
  · intro frames later h hframes hlines
    obtain ⟨h', hrun, hlater, -⟩ := run_replies frames hframes later h hlines
    rw [hrun]
    exact ⟨rfl, hlater⟩
  · intro h r hok
    rw [(run_reply h).1] at hok
    obtain ⟨f, hf, rfl, -, hqueue⟩ := exists_frame_of_read hok
    rw [replies_run_reply]
    exact ⟨hqueue, ⟨f, hf, rfl⟩, fun line hline =>
      (closes_eq_false_iff _ line).mpr (hf.open_before_last line hline)⟩
  · intro h code first inside tail later failure hlo hhi hinside hlines hending
    have hopen := fun line hline => (closes_eq_false_iff code line).mp (hinside line hline)
    have hread := read_unended hlo hhi first inside hopen hending
    rw [← hlines] at hread
    rw [(run_reply h).1, replies_run_reply, hread]
    exact ⟨rfl, rfl⟩

/-- Two replies and a line after them; the first has lines inside that look like ends of others. A
reply that is broken off is the last to be read. -/
theorem replies_framed_two :
    let first := ["250-first", "250-kept", "226 inside", "", "250 end"]
    let h : Holding := { connection := {
      id := 0, replies := (first ++ ["226"]).map .ok ++ [.ok "220-later", .error Reader.exhausted] } }
    let h' := (run (replies 2) h).2
    (run (replies 2) h).1 = .ok [⟨250, "first\nkept\n226 inside\n\nend", first⟩, ⟨226, "", ["226"]⟩] ∧
      h'.connection.replies = [.ok "220-later", .error Reader.exhausted] ∧
      h.connection.replies = first.map .ok ++ (run reply h).2.connection.replies ∧
      (run reply h').1 = .error Reader.exhausted ∧ (run reply h').2.connection.replies = [] := by
  intro first h h'
  let frames : List Frame :=
    [.long 250 "first" ["250-kept", "226 inside", ""] (some "end"), .short 226 none]
  have hframes : ∀ f ∈ frames, f.WellFormed := by
    intro f hf
    rcases List.mem_cons.mp hf with rfl | hf
    · refine ⟨by decide, by decide, fun line hline => (closes_eq_false_iff 250 line).mp ?_⟩
      revert line
      decide
    · rw [List.mem_singleton.mp hf]
      exact ⟨by decide, by decide, by simp [Frame.inside]⟩
  have hread := replies_framed.1 frames [.ok "220-later", .error Reader.exhausted] h hframes rfl
  have hfirst := replies_framed.2.1 h ⟨250, "first\nkept\n226 inside\n\nend", first⟩ rfl
  have hbroken := replies_framed.2.2 h' 220 "later" [] [.error Reader.exhausted] []
    Reader.exhausted (by decide) (by decide) (by simp) hread.2 rfl
  exact ⟨hread.1, hread.2, hfirst.1, hbroken⟩

end Session.Holding
end FileTransfer
