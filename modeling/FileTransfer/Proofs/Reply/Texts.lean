import FileTransfer.Proofs.Reply.Framing
import FileTransfer.Proofs.Text.Split

/-!
# The texts of a reply

The message of a reply is the text of each of its lines, one after the other. As long as no line has a
line feed inside, the texts can be told apart again, and there are as many as there are lines.

* `Frame.pieces_message`: the texts that the message of a reply is made of.
* `unindented`: a line inside a reply without its code and without its indentation.
* `Carries`, `Carries.unindented_eq`: the ways to put a text on a line inside a reply all come to the
  same.
-/

namespace FileTransfer.Reply
open FileTransfer.Text
set_option autoImplicit false

/-! ## Lines and texts -/

namespace Frame

theorem length_texts (f : Frame) : f.texts.length = f.lines.length := by
  cases f <;> simp [texts, lines]

theorem texts_ne_nil (f : Frame) : f.texts ≠ [] := by
  cases f <;> simp [texts]

end Frame

theorem endLine_subset (code : Nat) (text : Option String) :
    (text.getD "").toList ⊆ (endLine code text).toList := by
  cases text with
  | none => simp
  | some text =>
    intro c hc
    rw [endLine, String.toList_ofList]
    exact List.mem_append_right _ (List.mem_cons_of_mem _ hc)

theorem openLine_subset (code : Nat) (text : String) :
    text.toList ⊆ (openLine code text).toList := by
  intro c hc
  rw [openLine, String.toList_ofList]
  exact List.mem_append_right _ (List.mem_cons_of_mem _ hc)

theorem insideText_subset (code : Nat) (line : String) :
    (insideText code line).toList ⊆ line.toList := by
  rw [insideText]
  split
  · rw [String.toList_ofList]
    exact List.drop_subset 4 _
  · exact List.Subset.refl _

namespace Frame

/-- Every text is part of a line. -/
theorem not_mem_texts {c : Char} {f : Frame} (h : ∀ line ∈ f.lines, c ∉ line.toList) :
    ∀ text ∈ f.texts, c ∉ text.toList := by
  intro text htext hc
  cases f with
  | short code last =>
    rw [texts, List.mem_singleton] at htext
    subst htext
    exact h _ (by simp [lines]) (endLine_subset code last hc)
  | long code first inside last =>
    simp only [texts, List.mem_cons, List.mem_append, List.mem_map, List.not_mem_nil, or_false]
      at htext
    obtain rfl | ⟨line, hline, rfl⟩ | rfl := htext
    · exact h _ (by simp [lines]) (openLine_subset code text hc)
    · exact h line (by simp [lines, hline]) (insideText_subset code line hc)
    · exact h _ (by simp [lines]) (endLine_subset code last hc)

theorem pieces_message {f : Frame} (h : ∀ line ∈ f.lines, '\n' ∉ line.toList) :
    (pieces '\n' f.reply.message.toList).map String.ofList = f.texts := by
  have hplain : ∀ s ∈ f.texts.map String.toList, '\n' ∉ s := by
    intro s hs
    obtain ⟨text, htext, rfl⟩ := List.mem_map.mp hs
    exact not_mem_texts h text htext
  have hmessage : f.reply.message.toList = ['\n'].intercalate (f.texts.map String.toList) :=
    String.toList_intercalate
  rw [pieces_eq_splitOn, hmessage, List.splitOn_intercalate '\n' hplain (by simp [texts_ne_nil]),
    List.map_map]
  simp [Function.comp_def]

end Frame

/-- Of a reply of three lines, the one in the middle is inside. -/
theorem Frame.texts_of_three {f : Frame} {first line last : String}
    (h : f.lines = [first, line, last]) :
    ∃ a b, f.texts = [a, insideText f.code line, b] := by
  cases f with
  | short code text => simp [lines] at h
  | long code opening inside ending =>
    obtain ⟨-, hrest⟩ := List.cons.inj h
    cases inside with
    | nil => simp at hrest
    | cons inner others =>
      have hothers : others = [] := by
        have hlength := congrArg List.length hrest
        simpa using hlength
      subst hothers
      obtain ⟨rfl, -⟩ := List.cons.inj hrest
      exact ⟨opening, ending.getD "", rfl⟩

/-! ## Indentation -/

def unindented (code : Nat) (line : String) : String :=
  String.ofList ((insideText code line).toList.dropWhile (· = ' '))

/-- The lines by which a reply carries a text: as it is, indented by spaces, or after the code and a
hyphen. A line that is the text as it is must not itself begin with the code and a hyphen, as it would
be of the last kind. -/
inductive Carries (code : Nat) (text : String) : String → Prop
  | plain (h : startsWith code '-' text.toList = false) : Carries code text text
  | indented (k : Nat) :
      Carries code text (String.ofList (List.replicate (k + 1) ' ' ++ text.toList))
  | coded (k : Nat) :
      Carries code text (openLine code (String.ofList (List.replicate k ' ' ++ text.toList)))

theorem startsWith_space (code : Nat) (mark : Char) (s : List Char) :
    startsWith code mark (' ' :: s) = false := by
  rw [Bool.eq_false_iff, ne_eq, startsWith_iff]
  rintro ⟨text, hline⟩
  have hdigits := (isNumeral_iff 10 _).mp (isNumeral_decimal 3 code)
  cases hcode : decimal 3 code with
  | nil => exact hdigits.1 hcode
  | cons d ds =>
    rw [hcode, List.cons_append] at hline
    have hd := hdigits.2 d (by rw [hcode]; exact List.mem_cons_self)
    rw [← (List.cons.inj hline).1] at hd
    exact absurd hd (by decide)

theorem dropWhile_spaces (k : Nat) (s : List Char) :
    (List.replicate k ' ' ++ s).dropWhile (· = ' ') = s.dropWhile (· = ' ') := by
  apply List.dropWhile_append_of_pos
  intro c hc
  simp [(List.mem_replicate.mp hc).2]

theorem insideText_openLine {code : Nat} (hcode : code < 1000) (text : String) :
    insideText code (openLine code text) = text := by
  have hlen : (decimal 3 code).length = 3 := length_decimal (by decide) hcode
  have hopen : startsWith code '-' (openLine code text).toList = true :=
    (startsWith_iff code '-' _).mpr ⟨text.toList, by simp [openLine]⟩
  rw [insideText, if_pos hopen]
  simp [openLine, List.drop_append, hlen]

theorem exists_carries (code : Nat) (line : String) : ∃ text, Carries code text line := by
  by_cases hopen : startsWith code '-' line.toList = true
  · obtain ⟨text, htext⟩ := (startsWith_iff code '-' _).mp hopen
    have hline : line = openLine code (String.ofList (List.replicate 0 ' ' ++ text)) := by
      simp [openLine, ← htext]
    refine ⟨String.ofList text, ?_⟩
    rw [hline, ← String.toList_ofList (l := text)]
    have hcoded : Carries code (String.ofList text) _ := .coded 0
    simpa using hcoded
  · exact ⟨line, .plain (Bool.eq_false_iff.mpr hopen)⟩

theorem Carries.unindented_eq {code : Nat} (hcode : code < 1000) {text line : String}
    (h : Carries code text line) :
    unindented code line = String.ofList (text.toList.dropWhile (· = ' ')) := by
  cases h with
  | plain hplain => rw [unindented, insideText, if_neg (by simp [hplain])]
  | indented k =>
    have hspace : startsWith code '-' (List.replicate (k + 1) ' ' ++ text.toList) = false :=
      startsWith_space code '-' _
    rw [unindented, insideText, String.toList_ofList, hspace, if_neg Bool.false_ne_true,
      String.toList_ofList, dropWhile_spaces]
  | coded k => rw [unindented, insideText_openLine hcode, String.toList_ofList, dropWhile_spaces]

end FileTransfer.Reply
