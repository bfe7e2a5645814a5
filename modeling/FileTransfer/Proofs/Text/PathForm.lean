import FileTransfer.Dialogue.Command
import FileTransfer.Proofs.Text.Split
import FileTransfer.RemotePath

/-!
# What is left of a path

A path is brought to its plain form before it is sent. Slashes and dots may be lost on the way or come
in; everything else goes out as it was given.

* `RemotePath.text`: a path as it was given.
* `mem_segments_iff`, `mem_plainForm_iff`, `mem_windowsAnchor_iff`: the parts of a path.
* `mem_wire_iff`, `hasLineBreak_wire`: the path that is sent.
-/

namespace FileTransfer
open FileTransfer.Text
set_option autoImplicit false

theorem hasLineBreak_iff (s : String) :
    hasLineBreak s = true ↔ ∃ c ∈ s.toList, c = '\r' ∨ c = '\n' := by
  simp only [hasLineBreak, List.any_eq_true, decide_eq_true_eq, Bool.or_eq_true]

namespace RemotePath

/-- A path as it was given. -/
def text : RemotePath → String
  | .plain text => text
  | .posix text => text
  | .windows text => text

theorem mem_driveAndRest_iff {c : Char} (s : List Char) :
    c ∈ (driveAndRest s).1 ∨ c ∈ (driveAndRest s).2 ↔ c ∈ s := by
  unfold driveAndRest
  split
  case h_1 => split <;> simp [or_assoc]
  case h_2 => simp

section Parts
variable {c : Char} (hslash : c ≠ '/')
include hslash

theorem mem_segments_iff (hdot : c ≠ '.') (s : List Char) :
    (∃ p ∈ segments s, c ∈ p) ↔ c ∈ s := by
  have hsep : c ∉ ['/'] := by simpa using hslash
  have hparts : c ∈ s ↔ ∃ p ∈ pieces '/' s, c ∈ p := by
    rw [pieces_eq_splitOn, ← mem_intercalate_iff hsep, List.intercalate_splitOn]
  rw [hparts, segments]
  constructor
  · rintro ⟨p, hp, hc⟩
    exact ⟨p, (List.mem_filter.mp hp).1, hc⟩
  · rintro ⟨p, hp, hc⟩
    -- an empty segment has no character, and the only one of a dot is the dot
    have hne : p ≠ [] := List.ne_nil_of_mem hc
    have hother : p ≠ ['.'] := by
      rintro rfl
      exact hdot (List.mem_singleton.mp hc)
    exact ⟨p, List.mem_filter.mpr ⟨hp, by simp [hne, hother]⟩, hc⟩

theorem mem_plainForm_iff (hdot : c ≠ '.') (anchor : List Char) (parts : List (List Char)) :
    c ∈ plainForm anchor parts ↔ c ∈ anchor ∨ ∃ p ∈ parts, c ∈ p := by
  have hsep : c ∉ ['/'] := by simpa using hslash
  unfold plainForm
  split
  case isTrue hempty =>
    simp only [Bool.and_eq_true, List.isEmpty_iff] at hempty
    obtain ⟨rfl, rfl⟩ := hempty
    simp [hdot]
  case isFalse => rw [List.mem_append, mem_intercalate_iff hsep]

theorem not_mem_posixAnchor (s : List Char) : c ∉ posixAnchor s := by
  unfold posixAnchor
  split <;> simp [hslash]

theorem mem_dropWhile_slash_iff (s : List Char) : c ∈ s.dropWhile (· = '/') ↔ c ∈ s := by
  have hfront : c ∉ s.takeWhile (· = '/') := by
    intro hc
    have hall := List.all_eq_true.mp List.all_takeWhile c hc
    exact hslash (of_decide_eq_true hall)
  have hparts := List.takeWhile_append_dropWhile (p := fun x => decide (x = '/')) (l := s)
  conv => rhs; rw [← hparts, List.mem_append, or_iff_right hfront]

theorem mem_firstSegment_iff (s : List Char) :
    c ∈ s.takeWhile (· ≠ '/') ∨ c ∈ (s.dropWhile (· ≠ '/')).drop 1 ↔ c ∈ s := by
  induction s with
  | nil => simp
  | cons d s ih =>
    by_cases hd : d = '/'
    · simp [hd, hslash]
    · rw [List.takeWhile_cons_of_pos (by simpa using hd), List.dropWhile_cons_of_pos (by simpa using hd),
        List.mem_cons, List.mem_cons, or_assoc, ih]

theorem mem_literalMark_iff (s : List Char) :
    c ∈ (literalMark s).1 ∨ c ∈ (literalMark s).2 ↔ c ∈ s := by
  unfold literalMark
  dsimp only
  split
  case isTrue => simp
  case isFalse hmark =>
    rw [Bool.not_eq_true, Bool.not_eq_false', List.isPrefixOf_iff_prefix] at hmark
    obtain ⟨rest, rfl⟩ := hmark
    rw [List.drop_left]
    split
    · have hrest : c ∈ rest ↔ c ∈ rest.take 3 ∨ c ∈ rest.drop 3 := by
        rw [← List.mem_append, List.take_append_drop]
      simp only [List.mem_append, List.mem_cons, hslash, false_or, hrest, or_assoc]
    · exact List.mem_append.symm

/-- The slashes between the parts of a share and after it are all that is lost. -/
theorem mem_share_iff {s name rest : List Char} (h : share? s = some (name, rest)) :
    ∃ tail, name = '/' :: tail ∧ (c ∈ tail ∨ c ∈ rest ↔ c ∈ s) := by
  unfold share? at h
  split at h
  case h_2 => cases h
  case h_1 d ds =>
    split at h
    case isTrue => cases h
    case isFalse =>
      obtain ⟨⟨server, after⟩, hcut, h⟩ := Option.bind_eq_some_iff.mp h
      have hparts := (cutAt_of_cut (List.cons_ne_nil _ _) hcut).parts
      dsimp only at h
      split at h
      case isTrue => cases h
      case isFalse =>
        cases h
        refine ⟨'/' :: server ++ '/' :: after.takeWhile (· ≠ '/'), rfl, ?_⟩
        rw [hparts]
        simp only [List.mem_append, List.mem_cons, List.not_mem_nil, hslash, false_or, or_false,
          or_assoc, mem_firstSegment_iff hslash]

theorem mem_windowsAnchor_iff (s : List Char) :
    c ∈ (windowsAnchor s).1 ∨ c ∈ (windowsAnchor s).2 ↔ c ∈ s := by
  rw [← mem_literalMark_iff hslash s, windowsAnchor]
  rcases literalMark s with ⟨mark, s⟩
  dsimp only
  cases hshare : share? s with
  | some p =>
    obtain ⟨name, rest⟩ := p
    obtain ⟨tail, rfl, hs⟩ := mem_share_iff hslash hshare
    have htail : c ∈ ('/' :: tail).drop (min mark.length 1) ↔ c ∈ tail := by
      cases mark with
      | nil => simp [hslash]
      | cons m mark => simp
    dsimp only
    rw [← hs]
    simp only [List.mem_append, List.mem_singleton, hslash, or_false, htail, or_assoc]
  | none =>
    rw [← mem_driveAndRest_iff s]
    rcases driveAndRest s with ⟨drive, rest⟩
    dsimp only
    split
    · simp only [List.mem_append, List.mem_singleton, hslash, or_false,
        mem_dropWhile_slash_iff hslash, or_assoc]
    · simp only [List.mem_append, or_assoc]

end Parts

/-- All but slashes, backslashes and dots goes out as it was given. -/
theorem mem_wire_iff {c : Char} (hslash : c ≠ '/') (hdot : c ≠ '.') (hback : c ≠ '\\')
    (p : RemotePath) : c ∈ p.wire.toList ↔ c ∈ p.text.toList := by
  cases p with
  | plain text => exact Iff.rfl
  | posix text =>
    rw [wire, String.toList_ofList, mem_plainForm_iff hslash hdot, mem_segments_iff hslash hdot]
    exact or_iff_right (not_mem_posixAnchor hslash _)
  | windows text =>
    rw [wire]
    dsimp only
    rw [String.toList_ofList, mem_plainForm_iff hslash hdot, mem_segments_iff hslash hdot,
      mem_windowsAnchor_iff hslash, List.mem_map]
    constructor
    · rintro ⟨d, hd, hsame⟩
      split at hsame
      case isTrue => exact absurd hsame.symm hslash
      case isFalse => exact hsame ▸ hd
    · exact fun hc => ⟨c, hc, if_neg hback⟩

theorem hasLineBreak_wire (p : RemotePath) : hasLineBreak p.wire = hasLineBreak p.text := by
  rw [Bool.eq_iff_iff, hasLineBreak_iff, hasLineBreak_iff]
  have hkept {c : Char} (hc : c = '\r' ∨ c = '\n') : c ∈ p.wire.toList ↔ c ∈ p.text.toList := by
    rcases hc with rfl | rfl
    · exact mem_wire_iff (by decide) (by decide) (by decide) p
    · exact mem_wire_iff (by decide) (by decide) (by decide) p
  exact exists_congr fun c => and_congr_left hkept

end RemotePath
end FileTransfer
