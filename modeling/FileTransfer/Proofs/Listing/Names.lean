import FileTransfer.Proofs.Listing.RoundTrip

/-!
# Names out of paths

The name of an entry is a single segment of the path that its line ends with.

* `PathShape`: a path taken apart around its last segment.
* `existsUnique_shape`: every path is taken apart in one way.
* `baseName_text`: the name that a path so written gives.
* `named_by_path`: the names of all entries that are read.
-/

namespace FileTransfer.Listing
open FileTransfer.Text
set_option autoImplicit false

/-! ## The shapes of a path -/

/-- A path is empty, or slashes and nothing else, or it has a last segment: something before it that
is empty or ends with a slash, the segment itself, and the slashes after it. -/
inductive PathShape where
  | empty
  | slashes (more : Nat)
  | segment (front name : List Char) (after : Nat)
      (hfront : front = [] ∨ front.getLast? = some '/') (hname : name ≠ []) (hslash : '/' ∉ name)

namespace PathShape

def text : PathShape → List Char
  | empty => []
  | slashes more => List.replicate (more + 1) '/'
  | segment front name after _ _ _ => front ++ name ++ List.replicate after '/'

/-- What the path names: the directory itself, the root, or the segment. -/
def name : PathShape → List Char
  | empty => ['.']
  | slashes _ => ['/']
  | segment _ name _ _ _ _ => name

theorem name_ne_nil (shape : PathShape) : shape.name ≠ [] := by
  cases shape with
  | empty => exact List.cons_ne_nil _ _
  | slashes => exact List.cons_ne_nil _ _
  | segment _ _ _ _ hname => exact hname

theorem name_eq_or_not_mem (shape : PathShape) : shape.name = ['/'] ∨ '/' ∉ shape.name := by
  cases shape with
  | empty => exact .inr (by decide)
  | slashes => exact .inl rfl
  | segment _ _ _ _ _ hslash => exact .inr hslash

theorem baseName_text (shape : PathShape) : baseName shape.text = shape.name := by
  cases shape with
  | empty => rfl
  | slashes more =>
    have hnone : dropEnd (· = '/') (List.replicate (more + 1) '/') = [] := by simp [dropEnd]
    rw [text, baseName, if_neg (by simp)]
    simp only [hnone]
    rfl
  | segment front name after hfront hname hslash => exact baseName_append hname hslash hfront after

/-- A character before a path belongs to the segment when nothing stands between them. -/
theorem exists_shape (path : List Char) : ∃ shape : PathShape, shape.text = path := by
  induction path with
  | nil => exact ⟨empty, rfl⟩
  | cons c path ih =>
    obtain ⟨shape, rfl⟩ := ih
    by_cases hc : c = '/'
    · subst hc
      cases shape with
      | empty => exact ⟨slashes 0, rfl⟩
      | slashes more => exact ⟨slashes (more + 1), rfl⟩
      | segment front name after hfront hname hslash =>
        have hends : ('/' :: front).getLast? = some '/' := by
          rcases hfront with rfl | hlast
          · rfl
          · simp [List.getLast?_cons, hlast]
        exact ⟨segment ('/' :: front) name after (.inr hends) hname hslash, rfl⟩
    · have hone : '/' ∉ [c] := fun hmem => hc (List.mem_singleton.mp hmem).symm
      cases shape with
      | empty => exact ⟨segment [] [c] 0 (.inl rfl) (List.cons_ne_nil c []) hone, rfl⟩
      | slashes more =>
        exact ⟨segment [] [c] (more + 1) (.inl rfl) (List.cons_ne_nil c []) hone, rfl⟩
      | segment front name after hfront hname hslash =>
        rcases hfront with rfl | hlast
        · have hlonger : '/' ∉ c :: name := by simp [Ne.symm hc, hslash]
          exact ⟨segment [] (c :: name) after (.inl rfl) (List.cons_ne_nil c name) hlonger, rfl⟩
        · have hends : (c :: front).getLast? = some '/' := by simp [List.getLast?_cons, hlast]
          exact ⟨segment (c :: front) name after (.inr hends) hname hslash, rfl⟩

theorem eq_of_text_eq {shape shape' : PathShape} (h : shape.text = shape'.text) : shape = shape' := by
  -- the names are one, so that slashes alone are not mistaken for a segment
  have hnames : shape.name = shape'.name := by rw [← baseName_text, h, baseName_text]
  cases shape with
  | empty =>
    cases shape' with
    | empty => rfl
    | slashes => exact absurd h.symm (by simp [text])
    | segment _ _ _ _ hname => exact absurd h.symm (by simp [text, hname])
  | slashes more =>
    cases shape' with
    | empty => exact absurd h (by simp [text])
    | slashes more' =>
      have hlength := congrArg List.length h
      simp only [text, List.length_replicate] at hlength
      rw [Nat.succ.inj hlength]
    | segment front last after hfront hname hslash =>
      obtain rfl : last = ['/'] := hnames.symm
      exact absurd (List.mem_singleton_self '/') hslash
  | segment front last after hfront hname hslash =>
    cases shape' with
    | empty => exact absurd h (by simp [text, hname])
    | slashes more' =>
      obtain rfl : last = ['/'] := hnames
      exact absurd (List.mem_singleton_self '/') hslash
    | segment front' last' after' hfront' hname' hslash' =>
      obtain rfl : last = last' := hnames
      have hstripped := congrArg (dropEnd (· = '/')) h
      simp only [text, dropEnd_append_replicate hname hslash] at hstripped
      obtain rfl := List.append_cancel_right hstripped
      have hlength := congrArg List.length (List.append_cancel_left h)
      simp only [List.length_replicate] at hlength
      subst hlength
      rfl

theorem existsUnique_shape (path : List Char) : ∃! shape : PathShape, shape.text = path := by
  obtain ⟨shape, h⟩ := exists_shape path
  exact ⟨shape, h, fun shape' h' => eq_of_text_eq (h'.trans h.symm)⟩

theorem baseName_name (shape : PathShape) : baseName shape.name = shape.name := by
  cases shape with
  | empty => rfl
  | slashes => rfl
  | segment front last after hfront hname hslash =>
    have hlone := baseName_append hname hslash (.inl rfl) 0
    rwa [List.nil_append, List.replicate_zero, List.append_nil] at hlone

end PathShape

/-! ## The names of entries -/

/-- Every path has one shape and is named by it, and a name names itself. An entry that was read has
the name that the path of its line gives, all that follows the first semicolon with a space after it:
a single segment, or the root. -/
theorem named_by_path :
    (∀ path : List Char, (∃! shape : PathShape, shape.text = path) ∧
      (∀ shape : PathShape, shape.text = path → baseName path = shape.name) ∧
      baseName (baseName path) = baseName path) ∧
    ∀ line skipSelf e, Entry.read line skipSelf = .ok (some e) →
      (∃ block path, CutAt [';', ' '] line.toList block path ∧ e.name = String.ofList (baseName path)) ∧
      e.name ≠ "" ∧ (e.name = "/" ∨ '/' ∉ e.name.toList) := by
  constructor
  · intro path
    refine ⟨PathShape.existsUnique_shape path, fun shape h => ?_, ?_⟩
    · rw [← h, PathShape.baseName_text]
    · obtain ⟨shape, rfl⟩ := PathShape.exists_shape path
      rw [PathShape.baseName_text, PathShape.baseName_name]
  · intro line skipSelf e hread
    obtain ⟨facts, path, ⟨block, hcut, -⟩, hdescribes⟩ := Entry.describes_of_read hread
    obtain ⟨shape, rfl⟩ := PathShape.exists_shape path
    have hname : e.name.toList = shape.name := by
      rw [hdescribes.name, String.toList_ofList, PathShape.baseName_text]
    refine ⟨⟨block, shape.text, hcut, hdescribes.name⟩, ?_, ?_⟩
    · intro hempty
      rw [hempty] at hname
      exact shape.name_ne_nil hname.symm
    · rw [hname]
      refine shape.name_eq_or_not_mem.imp_left fun hroot => String.toList_inj.mp ?_
      rw [hname, hroot]
      rfl

/-- A path with the separators of facts in it, and slashes twice. -/
theorem named_by_path_separators :
    ∃ e, Entry.read "type=dir;modify=20150216084148; a; b=//c; d//" true = .ok (some e) ∧
      e.name = "c; d" ∧ baseName e.name.toList = e.name.toList := by
  let shape : PathShape := .segment "a; b=//".toList "c; d".toList 2 (.inr (by decide)) (by decide)
    (by decide)
  have hread : ∃ e, Entry.read "type=dir;modify=20150216084148; a; b=//c; d//" true = .ok (some e) :=
    ⟨⟨"c; d", 0, 0o40400, ⟨⟨2015, 2, 16, by decide⟩, ⟨8, 41, 48, 0, by decide⟩⟩,
      "type=dir;modify=20150216084148; a; b=//c; d//"⟩, by decide⟩
  obtain ⟨e, hread⟩ := hread
  obtain ⟨⟨block, path, hcut, hname⟩, -⟩ := named_by_path.2 _ _ e hread
  have hfirst : CutAt [';', ' '] "type=dir;modify=20150216084148; a; b=//c; d//".toList
      "type=dir;modify=20150216084148".toList shape.text :=
    cutAt_of_cut (List.cons_ne_nil _ _) (by decide)
  obtain ⟨-, hbase, hagain⟩ := named_by_path.1 path
  rw [hbase shape (hfirst.unique hcut).2] at hname hagain
  refine ⟨e, hread, hname, ?_⟩
  rw [hname, String.toList_ofList, hagain]

end FileTransfer.Listing
