import Mathlib.Data.List.Nodup
import Mathlib.Data.List.Perm.Basic
import FileTransfer.Proofs.Listing.Decoding

/-!
# Fact lines in other words

The facts of a line may stand in any order and in any case, and others may stand among them.

* `Facts.Agree`: facts that say the same under every name that is asked for.
* `Alike`, `Decided.alike`: outcomes that differ at most in the lines that are quoted.
* `Rewording`: pieces in another order and in other case, with idle facts among them.
* `read_reworded`: a line in other words comes to the same.
-/

namespace FileTransfer.Listing
open FileTransfer.Text
set_option autoImplicit false

/-! ## Facts in another case -/

theorem IsFact.of_lower_eq {piece piece' : List Char} {fact : List Char × List Char}
    (h : IsFact piece fact) (heq : lower piece = lower piece') : IsFact piece' fact := by
  obtain ⟨name, value, hcut, hne, rfl⟩ := h
  have hparts : lower piece' = lower name ++ '=' :: lower value := by
    rw [← heq, hcut.parts]
    simp [lower]
  obtain ⟨name', rest, rfl, hname, hrest⟩ := List.map_eq_append_iff.mp hparts
  obtain ⟨e, value', rfl, he, hvalue⟩ := List.map_eq_cons_iff.mp hrest
  obtain rfl := eq_of_toLower_eq (by decide) he
  change lower name' = lower name at hname
  refine ⟨name', value', cutAt_singleton ?_ value', ?_, ?_⟩
  · rw [← mem_lower_iff (by decide), hname, mem_lower_iff (by decide)]
    exact hcut.not_mem
  · rintro rfl
    exact hne (List.map_eq_nil_iff.mp hname.symm)
  · rw [hname, ← hvalue]
    rfl

theorem forall₂_isFact_of_lower_eq {pieces recased : List (List Char)} {facts : Facts}
    (hrecased : List.Forall₂ (fun p q => lower p = lower q) pieces recased) :
    List.Forall₂ IsFact pieces facts ↔ List.Forall₂ IsFact recased facts := by
  induction hrecased generalizing facts with
  | nil => exact Iff.rfl
  | cons heq _ ih =>
    rw [List.forall₂_cons_left_iff, List.forall₂_cons_left_iff]
    refine exists_congr fun fact => exists_congr fun rest => ?_
    rw [ih]
    refine and_congr_left fun _ => ?_
    exact ⟨fun h => h.of_lower_eq heq, fun h => h.of_lower_eq heq.symm⟩

theorem exists_mem_of_forall₂ {α β : Type} {R : α → β → Prop} {as : List α} {bs : List β}
    (h : List.Forall₂ R as bs) {b : β} (hb : b ∈ bs) : ∃ a ∈ as, R a b := by
  induction h with
  | nil => cases hb
  | cons hab _ ih =>
    rcases List.mem_cons.mp hb with rfl | hb
    · exact ⟨_, List.mem_cons_self, hab⟩
    · obtain ⟨a, ha, hr⟩ := ih hb
      exact ⟨a, List.mem_cons_of_mem _ ha, hr⟩

theorem exists_forall₂_isFact_iff (pieces : List (List Char)) :
    (∃ facts, List.Forall₂ IsFact pieces facts) ↔ ∀ p ∈ pieces, ∃ fact, IsFact p fact := by
  induction pieces with
  | nil => exact iff_of_true ⟨[], .nil⟩ nofun
  | cons p pieces ih =>
    rw [List.forall_mem_cons, ← ih]
    constructor
    · rintro ⟨_, hp | ⟨hp, hrest⟩⟩
      exact ⟨⟨_, hp⟩, ⟨_, hrest⟩⟩
    · rintro ⟨⟨fact, hp⟩, ⟨facts, hrest⟩⟩
      exact ⟨fact :: facts, .cons hp hrest⟩

/-! ## Facts that are asked for -/

namespace Facts
variable {facts facts' idle : Facts} {name : String}

/-- The names of the facts that an entry is read from. -/
def consulted : List (List Char) :=
  ["type".toList, "unix.mode".toList, "perm".toList, "size".toList, "sizd".toList, "modify".toList]

/-- Facts that say the same under every name that is asked for. -/
def Agree (facts facts' : Facts) : Prop :=
  ∀ name : String, name.toList ∈ consulted → facts.get? name = facts'.get? name

/-- Of facts that do not contradict each other it does not matter which is the last. -/
theorem tells_iff_mem {value : List Char}
    (hone : ∀ v w, (name.toList, v) ∈ facts → (name.toList, w) ∈ facts → v = w) :
    facts.Tells name value ↔ value ≠ [] ∧ (name.toList, value) ∈ facts := by
  constructor
  · rintro ⟨hne, before, after, rfl, -⟩
    exact ⟨hne, by simp⟩
  · rintro ⟨hne, hmem⟩
    cases hfind : facts.reverse.find? (·.1 = name.toList) with
    | none =>
      have hnone := List.find?_eq_none.mp hfind _ (List.mem_reverse.mpr hmem)
      simp at hnone
    | some fact =>
      obtain ⟨hname, before, after, hfacts, hafter⟩ := (find?_eq_some_iff fact).mp hfind
      obtain ⟨name', last⟩ := fact
      obtain rfl : name' = name.toList := hname
      obtain rfl := hone last value (by simp [hfacts]) hmem
      exact ⟨hne, before, after, hfacts, hafter⟩

theorem agree_of_perm (hdistinct : (facts.map Prod.fst).Nodup)
    (hidle : ∀ fact ∈ idle, fact.1 ∉ consulted) (hperm : facts'.Perm (facts ++ idle)) :
    Agree facts facts' := by
  intro name hname
  have hmem : ∀ v, (name.toList, v) ∈ facts' ↔ (name.toList, v) ∈ facts := by
    intro v
    rw [hperm.mem_iff, List.mem_append]
    exact or_iff_left fun h => hidle _ h hname
  have hone : ∀ v w, (name.toList, v) ∈ facts → (name.toList, w) ∈ facts → v = w := by
    intro v w hv hw
    exact congrArg Prod.snd (List.inj_on_of_nodup_map hdistinct hv hw rfl)
  have hone' : ∀ v w, (name.toList, v) ∈ facts' → (name.toList, w) ∈ facts' → v = w := by
    intro v w hv hw
    exact hone v w ((hmem v).mp hv) ((hmem w).mp hw)
  refine Option.ext fun value => ?_
  rw [get?_eq_some_iff, get?_eq_some_iff, tells_iff_mem hone, tells_iff_mem hone', hmem]

theorem Agree.permissions (h : Agree facts facts') (malformed : Failure) :
    facts.permissions malformed = facts'.permissions malformed := by
  rw [Facts.permissions, Facts.permissions, h "unix.mode" (by decide), h "perm" (by decide)]

theorem Agree.size (h : Agree facts facts') (type : List Char) (malformed incomplete : Failure) :
    facts.size type malformed incomplete = facts'.size type malformed incomplete := by
  simp only [Facts.size, sizeDigits?, h "size" (by decide), h "sizd" (by decide)]

theorem Agree.modified? (h : Agree facts facts') : facts.modified? = facts'.modified? := by
  rw [Facts.modified?, Facts.modified?, h "modify" (by decide)]

theorem Agree.ofFacts (h : Agree facts facts') (raw : String) (type path : List Char) :
    Entry.ofFacts raw facts type path = Entry.ofFacts raw facts' type path := by
  simp only [Entry.ofFacts, h.permissions, h.size, h.modified?]

end Facts

/-! ## Outcomes -/

/-- Failures of one kind; the lines that they quote may differ. -/
inductive SameKind : Failure → Failure → Prop
  | malformed (line line' : String) :
    SameKind (.undecodable (.malformedEntry line)) (.undecodable (.malformedEntry line'))
  | incomplete (line line' : String) :
    SameKind (.undecodable (.incompleteEntry line)) (.undecodable (.incompleteEntry line'))
  | fault (f : Fault) : SameKind (.fault f) (.fault f)

/-- Both are fine with results that are the same in the sense of `same`, or both fail in one way. -/
inductive Alike {α : Type} (same : α → α → Prop) : Except Failure α → Except Failure α → Prop
  | fine {a b : α} (h : same a b) : Alike same (.ok a) (.ok b)
  | failed {f g : Failure} (h : SameKind f g) : Alike same (.error f) (.error g)

/-- Checks that apply to the same, with failures of one kind. -/
def Matching (check check' : Failure → Prop) : Prop :=
  ((∃ f, check f) ↔ ∃ f, check' f) ∧ ∀ f g, check f → check' g → SameKind f g

section Alike
variable {α β : Type} {same : α → α → Prop} {same' : β → β → Prop}

theorem Alike.map {x y : Except Failure α} (h : Alike same x y) {f : α → β}
    (hf : ∀ a b, same a b → same' (f a) (f b)) : Alike same' (f <$> x) (f <$> y) := by
  cases h with
  | fine h => exact .fine (hf _ _ h)
  | failed h => exact .failed h

theorem Matching.failing {applies : Prop} {f g : Failure} (h : SameKind f g) :
    Matching (Failing applies f) (Failing applies g) := by
  refine ⟨⟨?_, ?_⟩, ?_⟩
  · rintro ⟨_, happlies, -⟩
    exact ⟨g, happlies, rfl⟩
  · rintro ⟨_, happlies, -⟩
    exact ⟨f, happlies, rfl⟩
  · rintro _ _ ⟨-, rfl⟩ ⟨-, rfl⟩
    exact h

theorem Matching.fault {check : Failure → Prop}
    (h : ∀ f g, check f → check g → f = g ∧ ∃ fault, f = .fault fault) : Matching check check := by
  refine ⟨Iff.rfl, fun f g hf hg => ?_⟩
  obtain ⟨rfl, fault, rfl⟩ := h f g hf hg
  exact .fault fault

/-- Matching checks in one order decide alike. -/
theorem Decided.alike {x y : Except Failure α} {fine fine' : α → Prop}
    {checks checks' : List (Failure → Prop)} (h : Decided x fine checks)
    (h' : Decided y fine' checks') (hchecks : List.Forall₂ Matching checks checks')
    (hfine : ∀ a b, fine a → fine' b → same a b) : Alike same x y := by
  -- both go through their checks in step: a check stops the one exactly when it stops the other
  induction h generalizing checks' with
  | fails happlies houtcome =>
    cases hchecks with
    | cons hmatch hrest =>
      obtain ⟨g, hg⟩ := hmatch.1.mp ⟨_, happlies⟩
      cases h' with
      | fails happlies' houtcome' =>
        rw [houtcome, houtcome']
        exact .failed (hmatch.2 _ _ happlies happlies')
      | passes hpasses => exact absurd hg (hpasses g)
  | passes hpasses _ ih =>
    cases hchecks with
    | cons hmatch hrest =>
      cases h' with
      | fails happlies' =>
        obtain ⟨f, hf⟩ := hmatch.1.mpr ⟨_, happlies'⟩
        exact absurd hf (hpasses f)
      | passes _ h' => exact ih h' hrest
  | fine houtcome ha =>
    cases hchecks
    cases h' with
    | fine houtcome' hb =>
      rw [houtcome, houtcome']
      exact .fine (hfine _ _ ha hb)

end Alike

/-- Entries of one name, size, mode and time, whatever the lines they were read from. -/
def Entry.Same (e e' : Entry) : Prop :=
  e.name = e'.name ∧ e.size = e'.size ∧ e.mode = e'.mode ∧ e.modified = e'.modified

namespace Facts
variable {facts : Facts} {line line' : String} {path : List Char} {e e' : Entry}

/-- The facts and the path of a line describe one entry, but for the line. -/
theorem Describes.same (h : facts.Describes line path e) (h' : facts.Describes line' path e') :
    e.Same e' := by
  obtain ⟨n, hn, hsize⟩ := h.size
  obtain ⟨n', hn', hsize'⟩ := h'.size
  obtain ⟨type, bits, htype, hbits, hmode⟩ := h.mode
  obtain ⟨type', bits', htype', hbits', hmode'⟩ := h'.mode
  obtain ⟨text, htext, hmodified⟩ := h.modified
  obtain ⟨text', htext', hmodified'⟩ := h'.modified
  refine ⟨h.name.trans h'.name.symm, ?_, ?_, ?_⟩
  · rw [hsize, hsize', hn.unique hn']
  · rw [hmode, hmode', htype.unique htype', hbits.unique hbits']
  · rw [htext.unique htext'] at hmodified
    exact hmodified.unique hmodified'

theorem checks_matching (facts : Facts) (line line' : String) :
    List.Forall₂ Matching (facts.checks line) (facts.checks line') := by
  refine .cons (.failing (.malformed line line')) (.cons (.fault ?_)
    (.cons (.failing (.incomplete line line')) (.cons (.failing (.malformed line line'))
      (.cons (.fault ?_) (.cons (.failing (.incomplete line line')) .nil)))))
  · rintro f g ⟨digits, htells, -, -, rfl⟩ ⟨digits', htells', -, -, rfl⟩
    exact ⟨by rw [htells.unique htells'], _, rfl⟩
  · rintro f g ⟨digits, hsized, -, -, rfl⟩ ⟨digits', hsized', -, -, rfl⟩
    exact ⟨by rw [hsized.unique hsized'], _, rfl⟩

end Facts

namespace Entry
variable {line line' : String} {facts facts' : Facts} {path : List Char}

theorem read_alike (hline : IsFactLine line facts path) (hline' : IsFactLine line' facts' path)
    (hagree : facts.Agree facts') (skipSelf : Bool) :
    Alike (Option.Rel Same) (read line skipSelf) (read line' skipSelf) := by
  have htype := hagree "type" (by decide)
  rcases facts.tells_or_lacks "type" with ⟨type, htells⟩ | hlacks
  · have htells' : facts'.Tells "type" type := by
      rwa [← Facts.get?_eq_some_iff, ← htype, Facts.get?_eq_some_iff]
    by_cases hskip : skipSelf = true → type ∉ Facts.selfOrParent
    · rw [read_of_type hline htells hskip, read_of_type hline' htells' hskip, ← hagree.ofFacts]
      have halike : Alike Same (ofFacts line facts type path) (ofFacts line' facts type path) :=
        (ofFacts_decided htells).alike (ofFacts_decided htells) (facts.checks_matching line line')
          fun _ _ h h' => h.same h'
      exact halike.map fun _ _ h => .some h
    · rw [Classical.not_imp, not_not] at hskip
      obtain ⟨rfl, hself⟩ := hskip
      rw [read_skipped hline htells hself, read_skipped hline' htells' hself]
      exact .fine .none
  · have hlacks' : facts'.Lacks "type" := by
      rwa [← Facts.get?_eq_none_iff, ← htype, Facts.get?_eq_none_iff]
    rw [read_of_lacks_type hline hlacks, read_of_lacks_type hline' hlacks']
    exact .failed (.incomplete line line')

end Entry

/-! ## Lines -/

/-- A fact that no entry is read from. -/
def IsIdle (piece : List Char) : Prop :=
  ';' ∉ piece ∧ ∃ fact, IsFact piece fact ∧ fact.1 ∉ Facts.consulted

/-- Pieces in another order and in other case, with idle facts among them. Of these only one that
comes first may begin with a space. -/
structure Rewording (pieces recased added reworded : List (List Char)) : Prop where
  letters : List.Forall₂ (fun p q => lower p = lower q) pieces recased
  idle : ∀ p ∈ added, IsIdle p
  order : reworded.Perm (recased ++ added)
  joints : ∀ p ∈ reworded.tail, p ∈ added → p.head? ≠ some ' '

namespace Rewording
variable {pieces recased added reworded : List (List Char)} {facts : Facts}
variable (h : Rewording pieces recased added reworded)
include h

theorem exists_original {q : List Char} (hq : q ∈ reworded) :
    (∃ p ∈ pieces, lower p = lower q) ∨ q ∈ added :=
  (List.mem_append.mp (h.order.mem_iff.mp hq)).imp_left (exists_mem_of_forall₂ h.letters)

theorem not_mem (hplain : ∀ p ∈ pieces, ';' ∉ p) : ∀ q ∈ reworded, ';' ∉ q := by
  intro q hq
  rcases h.exists_original hq with ⟨p, hp, hpq⟩ | hadded
  · rw [← mem_lower_iff (by decide), ← hpq, mem_lower_iff (by decide)]
    exact hplain p hp
  · exact (h.idle q hadded).1

theorem head?_ne (hspace : ∀ p ∈ pieces, p.head? ≠ some ' ') :
    ∀ q ∈ reworded.tail, q.head? ≠ some ' ' := by
  intro q hq
  rcases h.exists_original (List.mem_of_mem_tail hq) with ⟨p, hp, hpq⟩ | hadded
  · intro hhead
    obtain ⟨rest, rfl⟩ := List.head?_eq_some_iff.mp hhead
    obtain ⟨c, p', rfl, hc, -⟩ := List.map_eq_cons_iff.mp hpq
    obtain rfl := eq_of_toLower_eq (by decide) hc
    exact hspace _ hp rfl
  · exact h.joints q hq hadded

theorem ne_nil (hne : pieces ≠ []) : reworded ≠ [] := by
  rintro rfl
  have hnone := List.append_eq_nil_iff.mp (List.nil_perm.mp h.order)
  have hletters := h.letters
  rw [hnone.1, List.forall₂_nil_right_iff] at hletters
  exact hne hletters

theorem exists_facts (hfacts : List.Forall₂ IsFact pieces facts)
    (hdistinct : (facts.map Prod.fst).Nodup) :
    ∃ facts', List.Forall₂ IsFact reworded facts' ∧ facts.Agree facts' := by
  have hrecased := (forall₂_isFact_of_lower_eq h.letters).mp hfacts
  obtain ⟨idle, hidle⟩ := (exists_forall₂_isFact_iff added).mpr fun p hp =>
    (h.idle p hp).2.imp fun _ hfact => hfact.1
  have hapart : ∀ fact ∈ idle, fact.1 ∉ Facts.consulted := by
    intro fact hfact
    obtain ⟨p, hp, hread⟩ := exists_mem_of_forall₂ hidle hfact
    obtain ⟨-, fact', hread', hother⟩ := h.idle p hp
    rwa [hread.unique hread']
  obtain ⟨facts', hfacts', hperm⟩ :=
    List.perm_comp_forall₂ h.order (List.rel_append hrecased hidle)
  exact ⟨facts', hfacts', Facts.agree_of_perm hdistinct hapart hperm⟩

theorem exists_facts_of_reworded (hfacts : List.Forall₂ IsFact reworded facts) :
    ∃ facts, List.Forall₂ IsFact pieces facts := by
  have hall := (exists_forall₂_isFact_iff reworded).mp ⟨facts, hfacts⟩
  have hrecased : ∃ facts, List.Forall₂ IsFact recased facts :=
    (exists_forall₂_isFact_iff recased).mpr fun p hp =>
      hall p (h.order.mem_iff.mpr (List.mem_append_left added hp))
  exact hrecased.imp fun _ => (forall₂_isFact_of_lower_eq h.letters).mpr

end Rewording

/-- The order of the facts of a line and the case of their letters do not matter, nor do facts that
no entry is read from: of a line whose facts have different names and do not begin with a space, and of
the line in other words, both give none, or both fail in one way, or both give an entry of the same
name, size, mode and time. -/
theorem read_reworded {line line' : String} {block path : List Char}
    {recased added reworded : List (List Char)}
    (hcut : CutAt [';', ' '] line.toList block path)
    (hdistinct : ∀ facts, IsFactLine line facts path → (facts.map Prod.fst).Nodup)
    (hspace : ∀ p ∈ block.splitOn ';', p.head? ≠ some ' ')
    (hwords : Rewording (block.splitOn ';') recased added reworded)
    (hline' : line'.toList = [';'].intercalate reworded ++ [';', ' '] ++ path) (skipSelf : Bool) :
    Alike (Option.Rel Entry.Same) (Entry.read line skipSelf) (Entry.read line' skipSelf) := by
  have hplain := hwords.not_mem fun p hp => not_mem_of_mem_splitOn hp
  have hne := hwords.ne_nil (List.splitOn_ne_nil ';' block)
  have hcut' : CutAt [';', ' '] line'.toList ([';'].intercalate reworded) path := by
    rw [hline', List.append_assoc]
    exact cutAt_intercalate (by decide) hne hplain (hwords.head?_ne hspace) path
  have hpieces : ([';'].intercalate reworded).splitOn ';' = reworded :=
    List.splitOn_intercalate ';' hplain hne
  have hline'_iff : ∀ {facts path'}, IsFactLine line' facts path' ↔
      path' = path ∧ List.Forall₂ IsFact reworded facts := by
    intro facts path'
    rw [isFactLine_iff_of_cutAt hcut', hpieces]
  -- one ill-formed fact spoils the line before any fact is looked at, wherever it stands
  by_cases hfacts : ∃ facts, List.Forall₂ IsFact (block.splitOn ';') facts
  · obtain ⟨facts, hfacts⟩ := hfacts
    have hline : IsFactLine line facts path := ⟨block, hcut, hfacts⟩
    obtain ⟨facts', hfacts', hagree⟩ := hwords.exists_facts hfacts (hdistinct facts hline)
    exact Entry.read_alike hline (hline'_iff.mpr ⟨rfl, hfacts'⟩) hagree skipSelf
  · have hnot : ∀ facts path', ¬ IsFactLine line facts path' := by
      intro facts path' hline
      exact hfacts ⟨facts, ((isFactLine_iff_of_cutAt hcut).mp hline).2⟩
    have hnot' : ∀ facts path', ¬ IsFactLine line' facts path' := by
      intro facts path' hline
      exact hfacts (hwords.exists_facts_of_reworded (hline'_iff.mp hline).2)
    rw [Entry.read_of_not_isFactLine hnot, Entry.read_of_not_isFactLine hnot']
    exact .failed (.malformed line line')

/-- A fact that begins with a space may come first, where the path has the separator in it. -/
theorem read_reworded_first :
    Alike (Option.Rel Entry.Same) (Entry.read "type=file;Size=3;modify=20150216084148;x.y=Z; a; b" true)
      (Entry.read " new=1;MODIFY=20150216084148;X.y=z;TYPE=File;size=3; a; b" true) := by
  have hcut : CutAt [';', ' '] "type=file;Size=3;modify=20150216084148;x.y=Z; a; b".toList
      "type=file;Size=3;modify=20150216084148;x.y=Z".toList "a; b".toList :=
    cutAt_of_cut (List.cons_ne_nil _ _) (by decide)
  have hfacts : IsFactLine "type=file;Size=3;modify=20150216084148;x.y=Z; a; b"
      [("type".toList, "file".toList), ("size".toList, "3".toList),
        ("modify".toList, "20150216084148".toList), ("x.y".toList, "z".toList)] "a; b".toList :=
    isFactLine_iff.mpr
      ⟨"type=file;Size=3;modify=20150216084148;x.y=Z".toList, by decide, by decide⟩
  have hpieces : "type=file;Size=3;modify=20150216084148;x.y=Z".toList.splitOn ';' =
      ["type=file".toList, "Size=3".toList, "modify=20150216084148".toList, "x.y=Z".toList] := by
    decide
  have hwords : Rewording ("type=file;Size=3;modify=20150216084148;x.y=Z".toList.splitOn ';')
      ["TYPE=File".toList, "size=3".toList, "MODIFY=20150216084148".toList, "X.y=z".toList]
      [" new=1".toList]
      [" new=1".toList, "MODIFY=20150216084148".toList, "X.y=z".toList, "TYPE=File".toList,
        "size=3".toList] := by
    rw [hpieces]
    refine ⟨by decide, ?_, by decide, by decide⟩
    intro p hp
    rw [List.mem_singleton.mp hp]
    refine ⟨by decide, (" new".toList, "1".toList), ?_, by decide⟩
    exact (Facts.readOne?_eq_some_iff _ _).mp (by decide)
  refine read_reworded hcut ?_ (by rw [hpieces]; decide) hwords (by decide) true
  intro facts hline
  rw [(hline.unique hfacts).1]
  decide

end FileTransfer.Listing
