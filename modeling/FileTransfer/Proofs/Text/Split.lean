import FileTransfer.Text.Split

/-!
# Cutting text at separators

* `CutAt`: what stands before the first occurrence of a separator, and what after it.
* `cut_eq_some_iff`, `cut_eq_none_iff`: a text is cut at the first separator, if it has one.
* `cut_isSome_iff`: a text that has a separator anywhere in it.
* `infix_append_cons_iff`: what is found in a text on either side of a character.
* `cutAt_intercalate`: where a pair of separators first occurs after pieces.
* `pieces_eq_splitOn`: the pieces of a text are the library's.
* `lower_eq_self`: a text without capitals is its own lower case.
* `mem_lower_iff`: what is no letter stands in a text as in its lower case.
* `dropEnd_append_replicate`, `lastPiece_append`: the last segment of a text that is written out.
-/

namespace FileTransfer.Text
set_option autoImplicit false

/-! ## The first separator -/

/-- A text is `before`, `sep` and `after`, and `sep` comes nowhere earlier in it. -/
structure CutAt (sep s before after : List Char) : Prop where
  parts : s = before ++ sep ++ after
  first : ∀ b a, s = b ++ sep ++ a → before.length ≤ b.length

theorem CutAt.unique {sep s b a b' a' : List Char} (h : CutAt sep s b a) (h' : CutAt sep s b' a') :
    b = b' ∧ a = a' := by
  have hle := h.first b' a' h'.parts
  have hge := h'.first b a h.parts
  have hparts := h.parts.symm.trans h'.parts
  rw [List.append_assoc, List.append_assoc] at hparts
  obtain ⟨hb, hrest⟩ := List.append_inj hparts (Nat.le_antisymm hle hge)
  exact ⟨hb, List.append_cancel_left hrest⟩

theorem cut_eq_none_iff {sep : List Char} (hsep : sep ≠ []) (s : List Char) :
    cut sep s = none ↔ ∀ b a, s ≠ b ++ sep ++ a := by
  induction s with
  | nil => simp [cut, hsep]
  | cons c cs ih =>
    rw [cut]
    by_cases hprefix : sep.isPrefixOf (c :: cs) = true
    · rw [if_pos hprefix]
      obtain ⟨a, ha⟩ := List.isPrefixOf_iff_prefix.mp hprefix
      exact iff_of_false nofun fun h => h [] a ha.symm
    · rw [if_neg hprefix, Option.map_eq_none_iff, ih]
      constructor
      · intro h b a hs
        cases b with
        | nil =>
          apply hprefix
          rw [hs]
          exact List.isPrefixOf_iff_prefix.mpr ⟨a, rfl⟩
        | cons d b => exact h b a (List.cons.inj hs).2
      · intro h b a hs
        exact h (c :: b) a (by rw [hs]; rfl)

theorem cut_isSome_iff {sep : List Char} (hsep : sep ≠ []) (s : List Char) :
    (cut sep s).isSome = true ↔ sep <:+: s := by
  rw [Option.isSome_iff_ne_none, Ne, cut_eq_none_iff hsep]
  constructor
  · intro h
    obtain ⟨b, hb⟩ := Classical.not_forall.mp h
    obtain ⟨a, hs⟩ := Classical.not_forall.mp hb
    exact ⟨b, a, (Classical.not_not.mp hs).symm⟩
  · rintro ⟨b, a, hs⟩ h
    exact h b a hs.symm

theorem cutAt_of_cut {sep : List Char} (hsep : sep ≠ []) {s b a : List Char}
    (h : cut sep s = some (b, a)) : CutAt sep s b a := by
  induction s generalizing b with
  | nil => simp [cut, hsep] at h
  | cons c cs ih =>
    rw [cut] at h
    by_cases hprefix : sep.isPrefixOf (c :: cs) = true
    · rw [if_pos hprefix] at h
      cases h
      obtain ⟨a, ha⟩ := List.isPrefixOf_iff_prefix.mp hprefix
      refine ⟨?_, fun _ _ _ => Nat.zero_le _⟩
      rw [← ha, List.drop_left, List.nil_append]
    · rw [if_neg hprefix, Option.map_eq_some_iff] at h
      obtain ⟨⟨b', a'⟩, hcut, hpair⟩ := h
      cases hpair
      have hrest := ih hcut
      refine ⟨by rw [hrest.parts]; rfl, ?_⟩
      intro d e hs
      cases d with
      | nil =>
        refine absurd ?_ hprefix
        rw [hs]
        exact List.isPrefixOf_iff_prefix.mpr ⟨e, rfl⟩
      | cons x d => exact Nat.succ_le_succ (hrest.first d e (List.cons.inj hs).2)

theorem cut_eq_some_iff {sep : List Char} (hsep : sep ≠ []) (s b a : List Char) :
    cut sep s = some (b, a) ↔ CutAt sep s b a := by
  refine ⟨cutAt_of_cut hsep, fun h => ?_⟩
  cases hcut : cut sep s with
  | none => exact absurd h.parts ((cut_eq_none_iff hsep s).mp hcut b a)
  | some p =>
    obtain ⟨hb, ha⟩ := h.unique (cutAt_of_cut hsep hcut)
    rw [hb, ha]

/-- The first occurrence of a separating character is the one that no other comes before. -/
theorem cutAt_singleton {c : Char} {b : List Char} (h : c ∉ b) (a : List Char) :
    CutAt [c] (b ++ c :: a) b a := by
  refine ⟨by simp, ?_⟩
  intro d e hs
  apply Nat.le_of_not_lt
  intro hlt
  have hget := congrArg (fun l => l[d.length]?) hs
  simp only [List.append_assoc, List.singleton_append] at hget
  rw [List.getElem?_append_left hlt, List.getElem?_append_right (Nat.le_refl _), Nat.sub_self] at hget
  exact h (List.mem_of_getElem? hget)

theorem CutAt.not_mem {c : Char} {s b a : List Char} (h : CutAt [c] s b a) : c ∉ b := by
  intro hmem
  obtain ⟨x, y, rfl⟩ := List.append_of_mem hmem
  have hle := h.first x (y ++ [c] ++ a) (by rw [h.parts]; simp)
  simp only [List.length_append, List.length_cons] at hle
  omega

/-- A separator of two characters first occurs where the second of them does. -/
theorem cutAt_pair {c d : Char} (hne : c ≠ d) {b : List Char} (h : d ∉ b) (a : List Char) :
    CutAt [c, d] (b ++ c :: d :: a) b a := by
  have hfirst : CutAt [d] (b ++ [c] ++ d :: a) (b ++ [c]) a := by
    refine cutAt_singleton ?_ a
    intro hd
    rcases List.mem_append.mp hd with hb | hc
    · exact h hb
    · exact hne (List.mem_singleton.mp hc).symm
  refine ⟨by simp, ?_⟩
  intro b' a' hs
  have hs' : b ++ [c] ++ d :: a = (b' ++ [c]) ++ [d] ++ a' := by simpa using hs
  have hle := hfirst.first (b' ++ [c]) a' hs'
  simpa using hle

/-- What does not have a character in it is found on one side of the character, or on the other. -/
theorem infix_append_cons_iff {c : Char} {part : List Char} (h : c ∉ part) (s t : List Char) :
    part <:+: s ++ c :: t ↔ part <:+: s ∨ part <:+: t := by
  rw [List.infix_append_iff]
  constructor
  · rintro (hs | ht | ⟨front, back, rfl, hfront, hback⟩)
    · exact .inl hs
    · rcases List.infix_cons_iff.mp ht with ht | ht
      · cases part with
        | nil => exact .inl (List.nil_infix)
        | cons d ds =>
          obtain ⟨rfl, -⟩ := List.cons_prefix_cons.mp ht
          exact absurd List.mem_cons_self h
      · exact .inr ht
    · cases back with
      | nil => exact .inl (by rw [List.append_nil]; exact hfront.isInfix)
      | cons d ds =>
        obtain ⟨rfl, -⟩ := List.cons_prefix_cons.mp hback
        exact absurd (List.mem_append_right _ List.mem_cons_self) h
  · rintro (hs | ht)
    · exact .inl hs
    · exact .inr (.inl (List.infix_cons ht))

/-! ## Pieces -/

theorem mem_intercalate_iff {c : Char} {sep : List Char} (hsep : c ∉ sep)
    (pieces : List (List Char)) : c ∈ sep.intercalate pieces ↔ ∃ p ∈ pieces, c ∈ p := by
  induction pieces with
  | nil => simp [List.intercalate]
  | cons p pieces ih =>
    cases pieces with
    | nil => simp [List.intercalate_singleton]
    | cons q pieces =>
      rw [List.intercalate_cons_of_ne_nil (List.cons_ne_nil q pieces), List.mem_append,
        List.mem_append, or_iff_left hsep, ih]
      simp

theorem not_mem_intercalate {c : Char} {sep : List Char} {pieces : List (List Char)}
    (hsep : c ∉ sep) (hpieces : ∀ p ∈ pieces, c ∉ p) : c ∉ sep.intercalate pieces := by
  rw [mem_intercalate_iff hsep]
  rintro ⟨p, hp, hc⟩
  exact hpieces p hp hc

theorem pieces_eq_splitOn (sep : Char) (s : List Char) : pieces sep s = s.splitOn sep := by
  induction s with
  | nil => simp [pieces]
  | cons c cs ih =>
    rw [pieces, ih, List.splitOn_cons_eq_if_modifyHead]
    by_cases hc : c = sep
    · simp [hc]
    · simp only [hc, beq_iff_eq, if_false]
      cases hcs : cs.splitOn sep with
      | nil => exact absurd hcs (List.splitOn_ne_nil sep cs)
      | cons p ps => rfl

theorem head?_intercalate_append (c : Char) (p : List Char) (pieces : List (List Char))
    (s : List Char) : ([c].intercalate (p :: pieces) ++ c :: s).head? = some (p.headD c) := by
  cases pieces with
  | nil =>
    rw [List.intercalate_singleton]
    cases p with
    | nil => rfl
    | cons x p => rfl
  | cons q pieces =>
    rw [List.intercalate_cons_of_ne_nil (List.cons_ne_nil q pieces)]
    cases p with
    | nil => rfl
    | cons x p => rfl

/-- A pair of separators first occurs after pieces without the first of them when none but the first
piece begins with the second. -/
theorem cutAt_intercalate {c d : Char} (hne : c ≠ d) {pieces : List (List Char)}
    (hnil : pieces ≠ []) (hplain : ∀ p ∈ pieces, c ∉ p)
    (hjoint : ∀ p ∈ pieces.tail, p.head? ≠ some d) (a : List Char) :
    CutAt [c, d] ([c].intercalate pieces ++ c :: d :: a) ([c].intercalate pieces) a := by
  refine ⟨by simp, ?_⟩
  induction pieces with
  | nil => exact absurd rfl hnil
  | cons p pieces ih =>
    intro b e hs
    have hp := hplain p List.mem_cons_self
    cases pieces with
    | nil =>
      rw [List.intercalate_singleton] at hs ⊢
      exact (cutAt_singleton hp (d :: a)).first b (d :: e) (by simpa using hs)
    | cons q pieces =>
      have hrest := ih (List.cons_ne_nil q pieces)
        (fun r hr => hplain r (List.mem_cons_of_mem p hr))
        (fun r hr => hjoint r (List.mem_of_mem_tail hr))
      have hhead := head?_intercalate_append c q pieces (d :: a)
      rw [List.intercalate_cons_of_ne_nil (List.cons_ne_nil q pieces)] at hs ⊢
      generalize [c].intercalate (q :: pieces) = rest at *
      have hs' : p ++ c :: (rest ++ c :: d :: a) = b ++ c :: d :: e := by simpa using hs
      have hle := (cutAt_singleton hp (rest ++ c :: d :: a)).first b (d :: e) (by simpa using hs)
      obtain ⟨x, rfl⟩ := List.prefix_of_prefix_length_le ⟨_, rfl⟩ ⟨_, hs'.symm⟩ hle
      rw [List.append_assoc, List.append_cancel_left_eq] at hs'
      cases x with
      | nil =>
        -- the pair would stand right after the first piece, where the second one begins
        have hbegins : rest ++ c :: d :: a = d :: e := (List.cons.inj hs').2
        rw [hbegins, List.head?_cons, Option.some.injEq] at hhead
        refine absurd ?_ (hjoint q List.mem_cons_self)
        cases q with
        | nil => exact absurd hhead.symm hne
        | cons y q => exact congrArg some hhead.symm
      | cons y x =>
        have hle := hrest x e (by simpa using (List.cons.inj hs').2)
        simp only [List.length_append, List.length_cons, List.length_nil]
        omega

theorem not_mem_of_mem_splitOn {c : Char} {s p : List Char} (h : p ∈ s.splitOn c) : c ∉ p := by
  induction s generalizing p with
  | nil =>
    rw [List.splitOn_nil, List.mem_singleton] at h
    rw [h]
    exact List.not_mem_nil
  | cons d s ih =>
    rw [List.splitOn_cons_eq_if_modifyHead] at h
    by_cases hd : d = c
    · simp only [hd, beq_self_eq_true, if_true, List.mem_cons] at h
      rcases h with rfl | h
      · exact List.not_mem_nil
      · exact ih h
    · simp only [beq_iff_eq, hd, if_false] at h
      cases hs : s.splitOn c with
      | nil => exact absurd hs (List.splitOn_ne_nil c s)
      | cons q qs =>
        rw [hs, List.modifyHead_cons, List.mem_cons] at h
        rcases h with rfl | h
        · intro hmem
          rcases List.mem_cons.mp hmem with rfl | hq
          · exact hd rfl
          · exact ih (by rw [hs]; exact List.mem_cons_self) hq
        · exact ih (by rw [hs]; exact List.mem_cons_of_mem q h)

/-! ## Case -/

theorem lower_eq_self {s : List Char} (h : ∀ c ∈ s, c < 'A' ∨ 'Z' < c) : lower s = s := by
  have hfixed : ∀ c ∈ s, c.toLower = id c := by
    intro c hc
    refine dif_neg ?_
    rintro ⟨hlo, hhi⟩
    rcases h c hc with hlt | hgt
    · exact Nat.not_lt_of_le hlo hlt
    · exact Nat.not_lt_of_le hhi hgt
  rw [lower, List.map_congr_left hfixed, List.map_id]

theorem eq_of_toLower_eq {c d : Char} (hd : d < 'a' ∨ 'z' < d) (h : c.toLower = d) : c = d := by
  unfold Char.toLower at h
  split at h
  case isFalse => exact h
  case isTrue hcapital =>
    have hlow : 65 ≤ c.val.toNat := hcapital.1
    have hhigh : c.val.toNat ≤ 90 := hcapital.2
    have hval : d.val.toNat = (c.val.toNat + 32) % 4294967296 := by
      rw [← h]
      exact UInt32.toNat_add _ _
    have hapart : d.val.toNat < 97 ∨ 122 < d.val.toNat := hd
    omega

theorem mem_lower_iff {c : Char} (hc : c < 'A' ∨ 'z' < c) (s : List Char) :
    c ∈ lower s ↔ c ∈ s := by
  have hsmall : c < 'a' ∨ 'z' < c := hc.imp_left fun h => Char.lt_trans h (by decide)
  have hcapital : c < 'A' ∨ 'Z' < c := hc.imp_right fun h => Char.lt_trans (by decide) h
  rw [lower, List.mem_map]
  constructor
  · rintro ⟨d, hd, hlow⟩
    rwa [← eq_of_toLower_eq hsmall hlow]
  · intro hmem
    have hfixed : lower [c] = [c] := lower_eq_self (by simpa using hcapital)
    exact ⟨c, hmem, List.head_eq_of_cons_eq hfixed⟩

/-! ## The last segment -/

theorem dropEnd_append_replicate {c : Char} {s : List Char} (hne : s ≠ []) (hc : c ∉ s) (k : Nat)
    (front : List Char) :
    dropEnd (· = c) (front ++ s ++ List.replicate k c) = front ++ s := by
  have hlast : ∃ x xs, s.reverse = x :: xs ∧ x ≠ c := by
    cases hs : s.reverse with
    | nil => exact absurd (List.reverse_eq_nil_iff.mp hs) hne
    | cons x xs =>
      refine ⟨x, xs, rfl, ?_⟩
      rintro rfl
      exact hc (List.mem_reverse.mp (by rw [hs]; exact List.mem_cons_self))
  obtain ⟨x, xs, hx, hxc⟩ := hlast
  have hback : (front ++ s).reverse = x :: (xs ++ front.reverse) := by
    rw [List.reverse_append, hx]
    rfl
  rw [dropEnd, List.reverse_append, List.reverse_replicate, List.dropWhile_append_of_pos]
  · rw [hback, List.dropWhile_cons_of_neg (by simpa using hxc), ← hback, List.reverse_reverse]
  · intro y hy
    simp [(List.mem_replicate.mp hy).2]

theorem lastPiece_append {c : Char} {front s : List Char}
    (hfront : front = [] ∨ front.getLast? = some c) (hc : c ∉ s) :
    lastPiece c (front ++ s) = s := by
  have hs : ∀ x ∈ s.reverse, decide (x ≠ c) = true := by
    intro x hx
    refine decide_eq_true ?_
    rintro rfl
    exact hc (List.mem_reverse.mp hx)
  have hstop : front.reverse.takeWhile (fun x => decide (x ≠ c)) = [] := by
    rcases hfront with rfl | hlast
    · rfl
    · rw [← List.head?_reverse] at hlast
      obtain ⟨xs, hxs⟩ := List.head?_eq_some_iff.mp hlast
      rw [hxs]
      simp
  rw [lastPiece, List.reverse_append, List.takeWhile_append_of_pos hs, hstop, List.append_nil,
    List.reverse_reverse]

end FileTransfer.Text
