import FileTransfer.Proofs.Reply.Opening
import FileTransfer.Reply.Reader

/-!
# Replies as they are written

A reply is written as one line, or as an opening line, lines inside, and an end line. Reading takes
exactly the lines of one reply off the lines to come, and gives back what was written.

* `endLine`, `openLine`: the two ways in which a code stands at the front of a line.
* `Frame`: a reply as it is written; `Frame.lines` are its lines and `Frame.reply` is the reply.
* `read_frame`: reading the lines of a frame gives its reply and leaves what comes after them.
* `exists_frame_of_read`: whatever is read as a reply was written as a frame.
* `read_unended`: a reply that is broken off before its end line is not read.
-/

namespace FileTransfer.Reply
open FileTransfer.Text
set_option autoImplicit false

/-! ## Lines with a code -/

/-- A code alone, or a code, a space and text: a reply of one line, or the end of a longer one. -/
def endLine (code : Nat) : Option String → String
  | none => String.ofList (decimal 3 code)
  | some text => String.ofList (decimal 3 code ++ ' ' :: text.toList)

/-- A code, a hyphen and text: the line that opens a reply of several lines. -/
def openLine (code : Nat) (text : String) : String :=
  String.ofList (decimal 3 code ++ '-' :: text.toList)

theorem startsWith_iff (code : Nat) (mark : Char) (line : List Char) :
    startsWith code mark line = true ↔ ∃ text, line = decimal 3 code ++ mark :: text := by
  rw [startsWith, List.isPrefixOf_iff_prefix]
  constructor
  · rintro ⟨text, rfl⟩
    exact ⟨text, by simp⟩
  · rintro ⟨text, rfl⟩
    exact ⟨text, by simp⟩

/-- The end lines are exactly those that end a reply of several lines. -/
theorem closes_iff (code : Nat) (line : String) :
    closes code line.toList = true ↔ ∃ text, line = endLine code text := by
  rw [closes, Bool.or_eq_true, startsWith_iff, decide_eq_true_iff]
  constructor
  · rintro (⟨text, h⟩ | h)
    · exact ⟨some (String.ofList text), by simp [endLine, ← h]⟩
    · exact ⟨none, by simp [endLine, ← h]⟩
  · rintro ⟨_ | text, rfl⟩
    · exact .inr (by simp [endLine])
    · exact .inl ⟨text.toList, by simp [endLine]⟩

theorem closes_eq_false_iff (code : Nat) (line : String) :
    closes code line.toList = false ↔ ∀ text, line ≠ endLine code text := by
  rw [Bool.eq_false_iff, ne_eq, closes_iff, not_exists]

theorem openLine_ne_endLine (code : Nat) (first : String) (text : Option String) :
    openLine code first ≠ endLine code text := by
  intro h
  have hlist := congrArg String.toList h
  cases text with
  | none => simp [openLine, endLine] at hlist
  | some text => simp [openLine, endLine] at hlist

/-- A line inside a reply is text altogether, unless it repeats the code with a hyphen. -/
def insideText (code : Nat) (line : String) : String :=
  if startsWith code '-' line.toList then String.ofList (line.toList.drop 4) else line

theorem lineText_endLine {code : Nat} (h : code < 1000) (text : Option String) :
    String.ofList (lineText code (endLine code text).toList) = text.getD "" := by
  have hlen : (decimal 3 code).length = 3 := length_decimal (by decide) h
  rw [lineText, (closes_iff code _).mpr ⟨text, rfl⟩]
  cases text with
  | none => simp [endLine, hlen]
  | some text => simp [endLine, List.drop_append, hlen]

theorem lineText_inside {code : Nat} {line : String} (h : ∀ text, line ≠ endLine code text) :
    String.ofList (lineText code line.toList) = insideText code line := by
  have hopen := (closes_eq_false_iff code line).mpr h
  rw [lineText, insideText, hopen, Bool.false_or]
  split
  · rfl
  · exact String.ofList_toList

/-! ## Frames -/

/-- A reply as it is written. -/
inductive Frame where
  | short (code : Nat) (text : Option String)
  | long (code : Nat) (first : String) (inside : List String) (last : Option String)

namespace Frame

def code : Frame → Nat
  | short code _ => code
  | long code _ _ _ => code

/-- The lines between the first and the last. -/
def inside : Frame → List String
  | short _ _ => []
  | long _ _ inside _ => inside

def lines : Frame → List String
  | short code text => [endLine code text]
  | long code first inside last => openLine code first :: (inside ++ [endLine code last])

def texts : Frame → List String
  | short _ text => [text.getD ""]
  | long code first inside last => first :: (inside.map (insideText code) ++ [last.getD ""])

/-- The reply that is written. -/
def reply (f : Frame) : Reply := ⟨f.code, joined "\n" f.texts, f.lines⟩

/-- The code is one that a line can open with, and no line inside ends the reply early. -/
structure WellFormed (f : Frame) : Prop where
  lower : 100 ≤ f.code
  upper : f.code ≤ 599
  open_inside : ∀ line ∈ f.inside, ∀ text, line ≠ endLine f.code text

/-- No line of a reply but its last ends it. -/
theorem WellFormed.open_before_last {f : Frame} (h : f.WellFormed) :
    ∀ line ∈ f.lines.dropLast, ∀ text, line ≠ endLine f.code text := by
  cases f with
  | short code text => simp [lines]
  | long code first inside last =>
    intro line hline
    rw [lines, ← List.cons_append, List.dropLast_concat] at hline
    rcases List.mem_cons.mp hline with rfl | hline
    · exact openLine_ne_endLine code first
    · exact h.open_inside line hline

end Frame

/-! ## Reading one line -/

theorem read_endLine {code : Nat} (hlo : 100 ≤ code) (hhi : code ≤ 599) (text : Option String) :
    ∃ separator, separator ≠ .hyphen ∧
      OpeningLine.read (endLine code text) = .ok ⟨code, separator, (text.getD "").toList⟩ := by
  cases text with
  | none =>
    have hread := OpeningLine.read_written (o := ⟨code, .bare, []⟩) ⟨hlo, hhi, fun _ => rfl⟩
    simp only [OpeningLine.written, Separator.text, List.append_nil] at hread
    exact ⟨.bare, by decide, hread⟩
  | some text =>
    have hread := OpeningLine.read_written (o := ⟨code, .space, text.toList⟩) ⟨hlo, hhi, by simp⟩
    simp only [OpeningLine.written, Separator.text, List.append_assoc, List.singleton_append]
      at hread
    exact ⟨.space, by decide, hread⟩

theorem read_openLine {code : Nat} (hlo : 100 ≤ code) (hhi : code ≤ 599) (first : String) :
    OpeningLine.read (openLine code first) = .ok ⟨code, .hyphen, first.toList⟩ := by
  have hread := OpeningLine.read_written (o := ⟨code, .hyphen, first.toList⟩) ⟨hlo, hhi, by simp⟩
  simp only [OpeningLine.written, Separator.text, List.append_assoc, List.singleton_append] at hread
  exact hread

theorem feed_opening_endLine {code : Nat} (hlo : 100 ≤ code) (hhi : code ≤ 599)
    (text : Option String) :
    Reader.opening.feed (endLine code text) = .complete (Frame.short code text).reply := by
  obtain ⟨separator, hshort, hread⟩ := read_endLine hlo hhi text
  simp only [Reader.feed, hread, if_neg hshort, String.ofList_toList]
  simp [Frame.reply, Frame.code, Frame.texts, Frame.lines, joined]

theorem feed_opening_openLine {code : Nat} (hlo : 100 ≤ code) (hhi : code ≤ 599) (first : String) :
    Reader.opening.feed (openLine code first) =
      .more (.inside code [openLine code first] [first]) := by
  simp only [Reader.feed, read_openLine hlo hhi first, String.ofList_toList, if_true]

theorem feed_opening_cases (line : String) :
    (Reader.opening.feed line = .failed (.undecodable (.replyLine line)) ∧
      OpeningLine.read? line.toList = none) ∨
    ∃ code, 100 ≤ code ∧ code ≤ 599 ∧
      ((∃ text, line = endLine code text) ∨ (∃ first, line = openLine code first)) := by
  cases hread : OpeningLine.read? line.toList with
  | none => exact .inl ⟨by simp [Reader.feed, OpeningLine.read, hread], rfl⟩
  | some o =>
    obtain ⟨hproper, hline⟩ := (OpeningLine.read?_eq_some_iff _ o).mp hread
    have hline' : line = String.ofList o.written := by rw [← hline, String.ofList_toList]
    refine .inr ⟨o.code, hproper.lower, hproper.upper, ?_⟩
    cases hseparator : o.separator with
    | bare =>
      have htext := hproper.bare hseparator
      exact .inl ⟨none, by simp [hline', OpeningLine.written, endLine, hseparator, htext,
        Separator.text]⟩
    | space =>
      exact .inl ⟨some (String.ofList o.text), by simp [hline', OpeningLine.written, endLine,
        hseparator, Separator.text]⟩
    | hyphen =>
      exact .inr ⟨String.ofList o.text, by simp [hline', OpeningLine.written, openLine,
        hseparator, Separator.text]⟩

theorem feed_inside {code : Nat} {line : String} (lines texts : List String)
    (h : ∀ text, line ≠ endLine code text) :
    (Reader.inside code lines texts).feed line =
      .more (.inside code (lines ++ [line]) (texts ++ [insideText code line])) := by
  have hopen := Bool.eq_false_iff.mp ((closes_eq_false_iff code line).mpr h)
  simp only [Reader.feed, lineText_inside h, if_neg hopen]

theorem feed_inside_endLine {code : Nat} (h : code < 1000) (lines texts : List String)
    (text : Option String) :
    (Reader.inside code lines texts).feed (endLine code text) =
      .complete ⟨code, joined "\n" (texts ++ [text.getD ""]), lines ++ [endLine code text]⟩ := by
  have hcloses := (closes_iff code _).mpr ⟨text, rfl⟩
  simp only [Reader.feed, lineText_endLine h, if_pos hcloses]

/-! ## Reading the lines of a reply -/

theorem run_complete {reader : Reader} {line : String} {r : Reply} (later : List Incoming)
    (h : reader.feed line = .complete r) :
    reader.run (.ok line :: later) = ⟨.ok r, [.ok line], later⟩ := by
  rw [Reader.run, h]

theorem run_more {reader reader' : Reader} {line : String} (later : List Incoming)
    (h : reader.feed line = .more reader') :
    reader.run (.ok line :: later) =
      ⟨(reader'.run later).outcome, .ok line :: (reader'.run later).seen,
        (reader'.run later).rest⟩ := by
  rw [Reader.run, h]

/-- The reader's run over lines inside a reply: each is kept, and the reply is still open. -/
theorem run_inside (code : Nat) (lines texts inside : List String) (later : List Incoming)
    (h : ∀ line ∈ inside, ∀ text, line ≠ endLine code text) :
    (Reader.inside code lines texts).run (inside.map .ok ++ later) =
      let r := (Reader.inside code (lines ++ inside)
        (texts ++ inside.map (insideText code))).run later
      ⟨r.outcome, inside.map .ok ++ r.seen, r.rest⟩ := by
  induction inside generalizing lines texts with
  | nil => simp
  | cons line inside ih =>
    have hline := h line List.mem_cons_self
    have hrest := ih (lines ++ [line]) (texts ++ [insideText code line])
      (fun l hl => h l (List.mem_cons_of_mem line hl))
    rw [List.map_cons, List.cons_append, run_more _ (feed_inside lines texts hline), hrest]
    simp

theorem read_frame {f : Frame} (h : f.WellFormed) (later : List Incoming) :
    read (f.lines.map .ok ++ later) = ⟨.ok f.reply, f.lines.map .ok, later⟩ := by
  cases f with
  | short code text => exact run_complete later (feed_opening_endLine h.lower h.upper text)
  | long code first inside last =>
    have hlt : code < 1000 := by have := h.upper; simp only [Frame.code] at this; omega
    have hlast := run_complete later (feed_inside_endLine hlt (openLine code first :: inside)
      (first :: inside.map (insideText code)) last)
    have hopen : Reader.opening.feed (openLine code first) =
        .more (.inside code [openLine code first] [first]) :=
      feed_opening_openLine h.lower h.upper first
    have hinside := run_inside code [openLine code first] [first] inside
      (.ok (endLine code last) :: later) h.open_inside
    simp only [List.singleton_append, hlast] at hinside
    have hlines : (Frame.long code first inside last).lines.map Except.ok ++ later =
        .ok (openLine code first) :: (inside.map .ok ++ .ok (endLine code last) :: later) := by
      simp [Frame.lines]
    rw [hlines, read, run_more _ hopen, hinside]
    simp [Frame.reply, Frame.code, Frame.texts, Frame.lines]

/-! ## What is read was written -/

/-- A reply read to its end from inside was ended by the first end line of its code. -/
theorem exists_inside_of_run {code : Nat} (hcode : code < 1000) (lines texts : List String)
    (queue : List Incoming) (r : Reply)
    (h : ((Reader.inside code lines texts).run queue).outcome = .ok r) :
    ∃ inside last, (∀ line ∈ inside, ∀ text, line ≠ endLine code text) ∧
      queue = (inside ++ [endLine code last]).map .ok ++
        ((Reader.inside code lines texts).run queue).rest := by
  -- The first line that ends a reply of this code is the last one taken.
  induction queue generalizing lines texts with
  | nil => simp [Reader.run] at h
  | cons incoming queue ih =>
    cases incoming with
    | error failure => simp [Reader.run] at h
    | ok line =>
      by_cases hend : ∃ text, line = endLine code text
      · obtain ⟨text, rfl⟩ := hend
        have hrun := run_complete queue (feed_inside_endLine hcode lines texts text)
        exact ⟨[], text, by simp, by rw [hrun]; simp⟩
      · have hopen : ∀ text, line ≠ endLine code text := fun text e => hend ⟨text, e⟩
        rw [run_more queue (feed_inside lines texts hopen)] at h ⊢
        obtain ⟨inside, last, hinside, hqueue⟩ := ih _ _ h
        refine ⟨line :: inside, last, ?_, ?_⟩
        · intro l hl
          rcases List.mem_cons.mp hl with rfl | hl
          · exact hopen
          · exact hinside l hl
        · simp only [List.cons_append, List.map_cons]
          rw [← hqueue]

/-- Whatever is read as a reply is the reply of a frame, whose lines were taken off the front. -/
theorem exists_frame_of_read {queue : List Incoming} {r : Reply}
    (h : (read queue).outcome = .ok r) :
    ∃ f : Frame, f.WellFormed ∧ f.reply = r ∧ (read queue).seen = f.lines.map .ok ∧
      queue = f.lines.map .ok ++ (read queue).rest := by
  -- It is enough to find the frame in the queue: what reading makes of it is known.
  suffices hframe : ∃ f : Frame, f.WellFormed ∧ ∃ later, queue = f.lines.map .ok ++ later by
    obtain ⟨f, hf, later, rfl⟩ := hframe
    rw [read_frame hf later] at h ⊢
    exact ⟨f, hf, Except.ok.inj h, rfl, rfl⟩
  cases queue with
  | nil => simp [read, Reader.run] at h
  | cons incoming queue =>
    cases incoming with
    | error failure => simp [read, Reader.run] at h
    | ok line =>
      rcases feed_opening_cases line with ⟨hfailed, -⟩ | ⟨code, hlo, hhi, hline⟩
      · simp [read, Reader.run, hfailed] at h
      · rcases hline with ⟨text, rfl⟩ | ⟨first, rfl⟩
        · exact ⟨.short code text, ⟨hlo, hhi, by simp [Frame.inside]⟩, queue, rfl⟩
        · rw [read, run_more _ (feed_opening_openLine hlo hhi first)] at h
          obtain ⟨inside, last, hinside, hqueue⟩ := exists_inside_of_run (by omega) _ _ queue r h
          exact ⟨.long code first inside last, ⟨hlo, hhi, hinside⟩, _,
            congrArg (Except.ok (openLine code first) :: ·) hqueue⟩

/-! ## Replies that are broken off -/

/-- What comes in place of a line once there are no more of them. -/
def ending : List Incoming → Option (Failure × List Incoming)
  | [] => some (Reader.exhausted, [])
  | .error failure :: later => some (failure, later)
  | .ok _ :: _ => none

theorem run_ending (reader : Reader) {tail later : List Incoming} {failure : Failure}
    (h : ending tail = some (failure, later)) :
    reader.run tail = ⟨.error failure, [.error failure], later⟩ := by
  cases tail with
  | nil =>
    cases h
    rw [Reader.run]
  | cons incoming tail =>
    cases incoming with
    | ok line => cases h
    | error failure' =>
      cases h
      rw [Reader.run]

/-- A reply of several lines that is broken off before its end line is read up to there, and fails
as the lines do. -/
theorem read_unended {code : Nat} (hlo : 100 ≤ code) (hhi : code ≤ 599) (first : String)
    (inside : List String) (h : ∀ line ∈ inside, ∀ text, line ≠ endLine code text)
    {tail later : List Incoming} {failure : Failure} (htail : ending tail = some (failure, later)) :
    read ((openLine code first :: inside).map .ok ++ tail) =
      ⟨.error failure, (openLine code first :: inside).map .ok ++ [.error failure], later⟩ := by
  rw [read, List.map_cons, List.cons_append, run_more _ (feed_opening_openLine hlo hhi first),
    run_inside code _ _ inside tail h, run_ending _ htail]
  rfl

/-! ## What fails a reply -/

theorem rest_suffix (reader : Reader) (queue : List Incoming) :
    (reader.run queue).rest <:+ queue := by
  induction queue generalizing reader with
  | nil => exact List.suffix_refl []
  | cons incoming queue ih =>
    cases incoming with
    | error failure => exact List.suffix_cons _ queue
    | ok line =>
      cases hfeed : reader.feed line with
      | failed failure => simp [Reader.run, hfeed]
      | complete r => simp [Reader.run, hfeed]
      | more reader' =>
        rw [run_more queue hfeed]
        exact (ih reader').trans (List.suffix_cons _ queue)

theorem outcome_of_mem_seen {reader : Reader} {queue : List Incoming} {failure : Failure}
    (h : .error failure ∈ (reader.run queue).seen) :
    (reader.run queue).outcome = .error failure := by
  induction queue generalizing reader with
  | nil =>
    rw [Reader.run] at h ⊢
    rw [Except.error.inj (List.mem_singleton.mp h)]
  | cons incoming queue ih =>
    cases incoming with
    | error failure' =>
      rw [Reader.run] at h ⊢
      rw [Except.error.inj (List.mem_singleton.mp h)]
    | ok line =>
      cases hfeed : reader.feed line with
      | failed failure' => simp [Reader.run, hfeed] at h
      | complete r => simp [Reader.run, hfeed] at h
      | more reader' =>
        rw [run_more queue hfeed] at h ⊢
        exact ih (by simpa using h)

theorem mem_of_mem_seen {reader : Reader} {queue : List Incoming} {failure : Failure}
    (h : .error failure ∈ (reader.run queue).seen) :
    .error failure ∈ queue ∨ failure = Reader.exhausted := by
  induction queue generalizing reader with
  | nil =>
    rw [Reader.run] at h
    exact .inr (Except.error.inj (List.mem_singleton.mp h))
  | cons incoming queue ih =>
    cases incoming with
    | error failure' =>
      rw [Reader.run] at h
      rw [Except.error.inj (List.mem_singleton.mp h)]
      exact .inl List.mem_cons_self
    | ok line =>
      cases hfeed : reader.feed line with
      | failed failure' => simp [Reader.run, hfeed] at h
      | complete r => simp [Reader.run, hfeed] at h
      | more reader' =>
        rw [run_more queue hfeed] at h
        exact (ih (by simpa using h)).imp_left (List.mem_cons_of_mem _)

theorem feed_inside_ne_failed (code : Nat) (lines texts : List String) (line : String)
    (failure : Failure) : (Reader.inside code lines texts).feed line ≠ .failed failure := by
  simp only [Reader.feed]
  split <;> nofun

theorem inside_of_feed_more {reader reader' : Reader} {line : String}
    (h : reader.feed line = .more reader') : ∃ code lines texts, reader' = .inside code lines texts := by
  cases reader with
  | opening =>
    simp only [Reader.feed] at h
    split at h
    · cases h
    · split at h
      · cases h
        exact ⟨_, _, _, rfl⟩
      · cases h
  | inside code lines texts =>
    simp only [Reader.feed] at h
    split at h
    · cases h
    · cases h
      exact ⟨_, _, _, rfl⟩

/-- A reply fails because a line failed to come, or because its first line opens no reply. -/
theorem run_error_cases {reader : Reader} {queue : List Incoming} {failure : Failure}
    (h : (reader.run queue).outcome = .error failure) :
    .error failure ∈ (reader.run queue).seen ∨
      reader = .opening ∧ ∃ line, OpeningLine.read? line.toList = none ∧
        failure = .undecodable (.replyLine line) ∧ (reader.run queue).seen = [.ok line] := by
  induction queue generalizing reader with
  | nil =>
    rw [Reader.run] at h ⊢
    exact .inl (by rw [Except.error.inj h]; exact List.mem_singleton.mpr rfl)
  | cons incoming queue ih =>
    cases incoming with
    | error failure' =>
      rw [Reader.run] at h ⊢
      exact .inl (by rw [Except.error.inj h]; exact List.mem_singleton.mpr rfl)
    | ok line =>
      cases hfeed : reader.feed line with
      | complete r => simp [Reader.run, hfeed] at h
      | failed failure' =>
        simp only [Reader.run, hfeed, Except.error.injEq] at h ⊢
        subst h
        cases reader with
        | inside code lines texts => exact absurd hfeed (feed_inside_ne_failed code lines texts line _)
        | opening =>
          rcases feed_opening_cases line with ⟨hfailed, hnone⟩ | ⟨code, hlo, hhi, hline⟩
          · rw [hfailed] at hfeed
            cases hfeed
            exact .inr ⟨rfl, line, hnone, rfl, rfl⟩
          · rcases hline with ⟨text, rfl⟩ | ⟨first, rfl⟩
            · rw [feed_opening_endLine hlo hhi text] at hfeed
              cases hfeed
            · rw [feed_opening_openLine hlo hhi first] at hfeed
              cases hfeed
      | more reader' =>
        rw [run_more queue hfeed] at h ⊢
        obtain ⟨code, lines, texts, hinside⟩ := inside_of_feed_more hfeed
        rcases ih h with hmem | ⟨hopening, -⟩
        · exact .inl (List.mem_cons_of_mem _ hmem)
        · rw [hinside] at hopening
          cases hopening

theorem outcome_of_unreadable {queue : List Incoming} {line : String}
    (hseen : (Reader.opening.run queue).seen.head? = some (.ok line))
    (hnone : OpeningLine.read? line.toList = none) :
    ∃ failure, (Reader.opening.run queue).outcome = .error failure := by
  cases queue with
  | nil => exact ⟨_, rfl⟩
  | cons incoming queue =>
    cases incoming with
    | error failure => exact ⟨failure, rfl⟩
    | ok line' =>
      cases hfeed : Reader.opening.feed line' with
      | failed failure => exact ⟨failure, by rw [Reader.run, hfeed]⟩
      | complete r =>
        rw [run_complete queue hfeed] at hseen
        cases hseen
        simp [Reader.feed, OpeningLine.read, hnone] at hfeed
      | more reader =>
        rw [run_more queue hfeed] at hseen
        cases hseen
        simp [Reader.feed, OpeningLine.read, hnone] at hfeed

end FileTransfer.Reply
