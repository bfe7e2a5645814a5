import FileTransfer.Proofs.Text.Split
import FileTransfer.Reply.Line

/-!
# Quoted paths

A path that is written between double quotes, with each of its own written twice, is read back as it
is, whatever text without double quotes stands around it.

* `doubled`: a path with each of its double quotes written twice; `unescaped_doubled`.
* `quotes_cases`: a text has no double quote, or one, or it is parted at the first and the last.
* `read?_between`, `read?_written`: the path that a text quotes.
* `read?_eq_none_iff`: the texts that quote no path.
-/

namespace FileTransfer.Reply.DirectoryName
open FileTransfer.Text
set_option autoImplicit false

/-! ## Double quotes that are written twice -/

def doubled (name : List Char) : List Char :=
  name.flatMap fun c => if c = doubleQuote then [c, c] else [c]

theorem doubled_cons_quote (name : List Char) :
    doubled (doubleQuote :: name) = doubleQuote :: doubleQuote :: doubled name := by
  simp [doubled]

theorem doubled_cons_of_ne {c : Char} (hc : c ≠ doubleQuote) (name : List Char) :
    doubled (c :: name) = c :: doubled name := by
  simp [doubled, hc]

theorem unescaped_cons_of_ne {c : Char} (hc : c ≠ doubleQuote) (s : List Char) :
    unescaped (c :: s) = c :: unescaped s := by
  cases s with
  | nil => rfl
  | cons d s => simp [unescaped, contract, hc]

/-- Pairs are taken off from the left, and each double quote of the path has left a whole pair, so a
run of them never goes wrong by one. -/
theorem unescaped_doubled (name : List Char) : unescaped (doubled name) = name := by
  induction name with
  | nil => rfl
  | cons c name ih =>
    by_cases hc : c = doubleQuote
    · subst hc
      have hpair : unescaped (doubleQuote :: doubleQuote :: doubled name) =
          doubleQuote :: unescaped (doubled name) := by simp [unescaped, contract]
      rw [doubled_cons_quote, hpair, ih]
    · rw [doubled_cons_of_ne hc, unescaped_cons_of_ne hc, ih]

/-! ## The first and the last double quote -/

theorem last_quote {text : List Char} (h : doubleQuote ∈ text) :
    ∃ front post, text = front ++ doubleQuote :: post ∧ doubleQuote ∉ post := by
  obtain ⟨back, rest, hreverse, hback⟩ := List.eq_append_cons_of_mem (List.mem_reverse.mpr h)
  refine ⟨rest.reverse, back.reverse, ?_, fun hq => hback (List.mem_reverse.mp hq)⟩
  rw [← List.reverse_reverse text, hreverse]
  simp

theorem quotes_cases (text : List Char) :
    doubleQuote ∉ text ∨
      (∃ pre post, text = pre ++ doubleQuote :: post ∧ doubleQuote ∉ pre ∧ doubleQuote ∉ post) ∨
      ∃ pre inside post, text = pre ++ doubleQuote :: (inside ++ doubleQuote :: post) ∧
        doubleQuote ∉ pre ∧ doubleQuote ∉ post := by
  by_cases hfirst : doubleQuote ∈ text
  · obtain ⟨pre, after, rfl, hpre⟩ := List.eq_append_cons_of_mem hfirst
    by_cases hlast : doubleQuote ∈ after
    · obtain ⟨inside, post, rfl, hpost⟩ := last_quote hlast
      exact .inr (.inr ⟨pre, inside, post, rfl, hpre, hpost⟩)
    · exact .inr (.inl ⟨pre, after, rfl, hpre, hlast⟩)
  · exact .inl hfirst

theorem cut_quote {pre : List Char} (hpre : doubleQuote ∉ pre) (after : List Char) :
    cut [doubleQuote] (pre ++ doubleQuote :: after) = some (pre, after) := by
  rw [cut_eq_some_iff (List.cons_ne_nil doubleQuote [])]
  exact cutAt_singleton hpre after

theorem dropWhile_quoteless {s : List Char} (h : doubleQuote ∉ s) (rest : List Char) :
    (s ++ rest).dropWhile (· ≠ doubleQuote) = rest.dropWhile (· ≠ doubleQuote) := by
  apply List.dropWhile_append_of_pos
  intro c hc
  simp only [decide_eq_true_eq]
  rintro rfl
  exact h hc

/-! ## Reading -/

theorem read?_quoteless {text : List Char} (h : doubleQuote ∉ text) : read? text = none := by
  have hcut : cut [doubleQuote] text = none := by
    rw [cut_eq_none_iff (List.cons_ne_nil doubleQuote [])]
    intro b a htext
    apply h
    simp [htext]
  rw [read?, hcut]
  rfl

theorem read?_unclosed {pre post : List Char} (hpre : doubleQuote ∉ pre)
    (hpost : doubleQuote ∉ post) : read? (pre ++ doubleQuote :: post) = none := by
  have hnothing : post.reverse.dropWhile (· ≠ doubleQuote) = [] := by
    have hdrop := dropWhile_quoteless (s := post.reverse) (by simpa using hpost) []
    rwa [List.append_nil] at hdrop
  simp only [read?, cut_quote hpre, Option.bind_eq_bind, Option.bind_some, hnothing]

/-- The path stands between the first and the last double quote, whatever double quotes are between
those. -/
theorem read?_between {pre post : List Char} (hpre : doubleQuote ∉ pre)
    (hpost : doubleQuote ∉ post) (inside : List Char) :
    read? (pre ++ doubleQuote :: (inside ++ doubleQuote :: post)) = some (unescaped inside) := by
  have hback : (inside ++ doubleQuote :: post).reverse.dropWhile (· ≠ doubleQuote) =
      doubleQuote :: inside.reverse := by
    rw [List.reverse_append, List.reverse_cons, List.append_assoc,
      dropWhile_quoteless (by simpa using hpost)]
    simp
  simp only [read?, cut_quote hpre, Option.bind_eq_bind, Option.bind_some, hback,
    List.reverse_reverse]

theorem read?_written {pre post : List Char} (hpre : doubleQuote ∉ pre)
    (hpost : doubleQuote ∉ post) (name : List Char) :
    read? (pre ++ written name ++ post) = some name := by
  have hparts : pre ++ written name ++ post =
      pre ++ doubleQuote :: (doubled name ++ doubleQuote :: post) := by
    simp [written, doubled]
  rw [hparts, read?_between hpre hpost, unescaped_doubled]

theorem read?_eq_none_iff (text : List Char) : read? text = none ↔ text.count doubleQuote < 2 := by
  rcases quotes_cases text with h | ⟨pre, post, rfl, hpre, hpost⟩ | ⟨pre, inside, post, rfl, hpre, hpost⟩
  · simp [read?_quoteless h, List.count_eq_zero.mpr h]
  · have hpre' := List.count_eq_zero.mpr hpre
    have hpost' := List.count_eq_zero.mpr hpost
    simp [read?_unclosed hpre hpost, hpre', hpost']
  · have htwo : 2 ≤ (pre ++ doubleQuote :: (inside ++ doubleQuote :: post)).count doubleQuote := by
      simp only [List.count_append, List.count_cons_self]
      omega
    rw [read?_between hpre hpost]
    exact iff_of_false nofun (by omega)

end FileTransfer.Reply.DirectoryName
