import Mathlib.Data.List.Forall2
import FileTransfer.Listing.Fact
import FileTransfer.Proofs.Text.Split

/-!
# The grammar of fact lines

* `IsFact`, `IsFactLine`: how a fact is written, and a line of facts and a path.
* `Facts.Tells`, `Facts.Lacks`: what the facts of a line say under a name.
* `read_of_not_isFactLine`: a line that is written otherwise is malformed.
* `read_of_lacks_type`, `read_skipped`, `read_of_type`: what a fact line comes to, by its type.
-/

namespace FileTransfer.Listing
open FileTransfer.Text
set_option autoImplicit false

/-! ## Lines -/

/-- A fact is a name that is not empty, an equals sign and a value, in any case; its name ends at the
first equals sign. -/
def IsFact (piece : List Char) (fact : List Char × List Char) : Prop :=
  ∃ name value, CutAt ['='] piece name value ∧ name ≠ [] ∧ fact = (lower name, lower value)

/-- A line of facts with semicolons between them, and of a path after the first semicolon that a
space follows. -/
def IsFactLine (line : String) (facts : Facts) (path : List Char) : Prop :=
  ∃ block, CutAt [';', ' '] line.toList block path ∧
    List.Forall₂ IsFact (block.splitOn ';') facts

theorem Facts.readOne?_eq_some_iff (piece : List Char) (fact : List Char × List Char) :
    Facts.readOne? piece = some fact ↔ IsFact piece fact := by
  simp only [Facts.readOne?, Option.bind_eq_bind, Option.bind_eq_some_iff]
  constructor
  · rintro ⟨⟨name, value⟩, hcut, h⟩
    have hat := cutAt_of_cut (List.cons_ne_nil _ _) hcut
    cases name with
    | nil => cases h
    | cons c cs =>
      cases h
      exact ⟨c :: cs, value, hat, List.cons_ne_nil c cs, rfl⟩
  · rintro ⟨name, value, hat, hne, rfl⟩
    refine ⟨(name, value), (cut_eq_some_iff (List.cons_ne_nil _ _) _ _ _).mpr hat, ?_⟩
    cases name with
    | nil => exact absurd rfl hne
    | cons c cs => rfl

theorem IsFact.unique {piece : List Char} {fact fact' : List Char × List Char}
    (h : IsFact piece fact) (h' : IsFact piece fact') : fact = fact' := by
  rw [← Facts.readOne?_eq_some_iff] at h h'
  exact Option.some.inj (h.symm.trans h')

theorem Facts.read?_eq_some_iff (block : List Char) (facts : Facts) :
    Facts.read? block = some facts ↔ List.Forall₂ IsFact (block.splitOn ';') facts := by
  rw [Facts.read?, pieces_eq_splitOn]
  generalize block.splitOn ';' = pieces
  induction pieces generalizing facts with
  | nil =>
    rw [List.forall₂_nil_left_iff]
    exact ⟨fun h => (Option.some.inj h).symm, fun h => congrArg some h.symm⟩
  | cons piece pieces ih =>
    rw [List.mapM_cons, List.forall₂_cons_left_iff]
    simp only [Option.bind_eq_bind, Option.bind_eq_some_iff, Facts.readOne?_eq_some_iff, ih]
    constructor
    · rintro ⟨fact, hfact, rest, hrest, h⟩
      exact ⟨fact, rest, hfact, hrest, (Option.some.inj h).symm⟩
    · rintro ⟨fact, rest, hfact, hrest, rfl⟩
      exact ⟨fact, hfact, rest, hrest, rfl⟩

theorem isFactLine_iff {line : String} {facts : Facts} {path : List Char} :
    IsFactLine line facts path ↔
      ∃ block, cut [';', ' '] line.toList = some (block, path) ∧ Facts.read? block = some facts := by
  refine exists_congr fun block => and_congr ?_ (Facts.read?_eq_some_iff block facts).symm
  exact (cut_eq_some_iff (List.cons_ne_nil _ _) _ _ _).symm

theorem isFactLine_iff_of_cutAt {line : String} {block path : List Char}
    (hcut : CutAt [';', ' '] line.toList block path) {facts : Facts} {path' : List Char} :
    IsFactLine line facts path' ↔ path' = path ∧ List.Forall₂ IsFact (block.splitOn ';') facts := by
  constructor
  · rintro ⟨block', hcut', hfacts⟩
    obtain ⟨rfl, rfl⟩ := hcut'.unique hcut
    exact ⟨rfl, hfacts⟩
  · rintro ⟨rfl, hfacts⟩
    exact ⟨block, hcut, hfacts⟩

/-- A line is written in one way at most. -/
theorem IsFactLine.unique {line : String} {facts facts' : Facts} {path path' : List Char}
    (h : IsFactLine line facts path) (h' : IsFactLine line facts' path') :
    facts = facts' ∧ path = path' := by
  obtain ⟨block, hcut, hfacts⟩ := isFactLine_iff.mp h
  obtain ⟨block', hcut', hfacts'⟩ := isFactLine_iff.mp h'
  rw [hcut] at hcut'
  cases hcut'
  rw [hfacts] at hfacts'
  exact ⟨Option.some.inj hfacts', rfl⟩

/-! ## Facts by name -/

namespace Facts
variable {facts : Facts} {name : String}

/-- The last fact of a name has a value; an empty one is none. -/
def Tells (facts : Facts) (name : String) (value : List Char) : Prop :=
  value ≠ [] ∧ ∃ before after, facts = before ++ (name.toList, value) :: after ∧
    ∀ fact ∈ after, fact.1 ≠ name.toList

/-- There is no fact of a name, or the last has no value. -/
def Lacks (facts : Facts) (name : String) : Prop := ∀ value, ¬ facts.Tells name value

theorem find?_eq_some_iff (fact : List Char × List Char) :
    facts.reverse.find? (·.1 = name.toList) = some fact ↔
      fact.1 = name.toList ∧ ∃ before after, facts = before ++ fact :: after ∧
        ∀ f ∈ after, f.1 ≠ name.toList := by
  rw [List.find?_eq_some_iff_append, decide_eq_true_iff]
  refine and_congr_right fun _ => ?_
  constructor
  · rintro ⟨after, before, hfacts, hafter⟩
    refine ⟨before.reverse, after.reverse, ?_, ?_⟩
    · rw [← List.reverse_reverse facts, hfacts]
      simp
    · intro f hf
      have h := hafter f (List.mem_reverse.mp hf)
      simpa using h
  · rintro ⟨before, after, rfl, hafter⟩
    refine ⟨after.reverse, before.reverse, by simp, ?_⟩
    intro f hf
    have h := hafter f (List.mem_reverse.mp hf)
    simpa using h

theorem get?_eq_some_iff (value : List Char) :
    facts.get? name = some value ↔ facts.Tells name value := by
  unfold get? Tells
  constructor
  · intro h
    split at h
    case h_1 fact c cs hfind =>
      cases h
      obtain ⟨hname, hfacts⟩ := find?_eq_some_iff _ |>.mp hfind
      cases hname
      exact ⟨List.cons_ne_nil c cs, hfacts⟩
    case h_2 => cases h
  · rintro ⟨hne, hfacts⟩
    have hfind := (find?_eq_some_iff (name.toList, value)).mpr ⟨rfl, hfacts⟩
    rw [hfind]
    cases value with
    | nil => exact absurd rfl hne
    | cons c cs => rfl

theorem get?_eq_none_iff : facts.get? name = none ↔ facts.Lacks name := by
  constructor
  · intro h value htells
    rw [(get?_eq_some_iff value).mpr htells] at h
    cases h
  · intro h
    cases hget : facts.get? name with
    | none => rfl
    | some value => exact absurd ((get?_eq_some_iff value).mp hget) (h value)

theorem Tells.unique {value value' : List Char} (h : facts.Tells name value)
    (h' : facts.Tells name value') : value = value' := by
  have hget := (get?_eq_some_iff value).mpr h
  rw [(get?_eq_some_iff value').mpr h'] at hget
  exact (Option.some.inj hget).symm

/-- What holds of some value that is told holds of the value that is told. -/
theorem Tells.exists_iff {value : List Char} (h : facts.Tells name value) (p : List Char → Prop) :
    (∃ v, facts.Tells name v ∧ p v) ↔ p value := by
  constructor
  · rintro ⟨v, hv, hp⟩
    rwa [hv.unique h] at hp
  · exact fun hp => ⟨value, h, hp⟩

theorem tells_or_lacks (facts : Facts) (name : String) :
    (∃ value, facts.Tells name value) ∨ facts.Lacks name := by
  cases hget : facts.get? name with
  | none => exact .inr (get?_eq_none_iff.mp hget)
  | some value => exact .inl ⟨value, (get?_eq_some_iff value).mp hget⟩

end Facts

/-! ## What a line comes to -/

namespace Entry
variable {line : String} {facts : Facts} {type path : List Char}

theorem read_of_not_isFactLine (h : ∀ facts path, ¬ IsFactLine line facts path) (skipSelf : Bool) :
    read line skipSelf = .error (.undecodable (.malformedEntry line)) := by
  unfold read
  cases hcut : cut [';', ' '] line.toList with
  | none => rfl
  | some p =>
    obtain ⟨block, path⟩ := p
    cases hfacts : Facts.read? block with
    | none =>
      simp only [hfacts]
      rfl
    | some facts =>
      refine absurd ?_ (h facts path)
      exact isFactLine_iff.mpr ⟨block, hcut, hfacts⟩

theorem read_of_lacks_type (h : IsFactLine line facts path) (htype : facts.Lacks "type")
    (skipSelf : Bool) : read line skipSelf = .error (.undecodable (.incompleteEntry line)) := by
  obtain ⟨block, hcut, hfacts⟩ := isFactLine_iff.mp h
  simp only [read, hcut, hfacts, Facts.get?_eq_none_iff.mpr htype]
  rfl

theorem read_skipped (h : IsFactLine line facts path) (htype : facts.Tells "type" type)
    (hself : type ∈ Facts.selfOrParent) : read line true = .ok none := by
  obtain ⟨block, hcut, hfacts⟩ := isFactLine_iff.mp h
  simp only [read, hcut, hfacts, (Facts.get?_eq_some_iff type).mpr htype,
    List.contains_iff_mem.mpr hself]
  rfl

theorem read_of_type (h : IsFactLine line facts path) (htype : facts.Tells "type" type)
    {skipSelf : Bool} (hskip : skipSelf = true → type ∉ Facts.selfOrParent) :
    read line skipSelf = some <$> ofFacts line facts type path := by
  obtain ⟨block, hcut, hfacts⟩ := isFactLine_iff.mp h
  have hkept : (skipSelf && Facts.selfOrParent.contains type) = false := by
    cases skipSelf with
    | false => rfl
    | true => simpa using hskip rfl
  simp only [read, hcut, hfacts, (Facts.get?_eq_some_iff type).mpr htype, hkept]
  rfl

end Entry
end FileTransfer.Listing
