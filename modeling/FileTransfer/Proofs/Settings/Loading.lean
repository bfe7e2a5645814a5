import Mathlib.Data.List.Nodup
import FileTransfer.CommandLine.Program
import FileTransfer.Proofs.Settings.Entries

/-!
# Loading a table of remotes

Each entry of a table gives a remote or adds a warning, in the order of the table, and no entry has to
do with what becomes of another, unless it ends the loading.

* `Accounts`: the remotes and warnings of a table.
* `ofTable_of_accounts`, `ofTable_of_stops`: what loading a table comes to.
* `loading_accounts`: every entry is accounted for, in order and independently.
* `loading_stops`: which tables are neither loaded nor refused for a reason that is told to the user.
* `loaded_passes`: what is known of the remotes of a catalog, and of those that are missing in it.
-/

namespace FileTransfer.Settings
open FileTransfer.Text FileTransfer.CommandLine
set_option autoImplicit false

/-! ## Whole tables -/

/-- The remotes and the warnings of a table: each entry gives one of them, in the order of the table. -/
inductive Accounts : List (String × Value) → List (String × Remote) → List String → Prop
  | nil : Accounts [] [] []
  | remote {name : String} {value : Value} {r : Remote} {es : List (String × Value)}
      {rs : List (String × Remote)} {ws : List String} (h : Usable name value r)
      (later : Accounts es rs ws) : Accounts ((name, value) :: es) ((name, r) :: rs) ws
  | warning {name : String} {value : Value} {omission : Omission} {es : List (String × Value)}
      {rs : List (String × Remote)} {ws : List String} (h : Omits name value omission)
      (later : Accounts es rs ws) :
      Accounts ((name, value) :: es) rs (omission.warning name :: ws)

section Tables
variable {es : List (String × Value)} {rs : List (String × Remote)} {ws : List String}

theorem exists_accounts (hplain : ∀ e ∈ es, ∀ refusal, ¬ Stops e.2 refusal) :
    ∃ rs ws, Accounts es rs ws := by
  induction es with
  | nil => exact ⟨[], [], .nil⟩
  | cons e es ih =>
    obtain ⟨rs, ws, hlater⟩ := ih fun e' he' => hplain e' (List.mem_cons_of_mem e he')
    obtain ⟨r, husable⟩ | ⟨omission, homits⟩ | ⟨refusal, hstops⟩ := entry_cases e.1 e.2
    · exact ⟨_, _, .remote husable hlater⟩
    · exact ⟨_, _, .warning homits hlater⟩
    · exact absurd hstops (hplain e List.mem_cons_self refusal)

namespace Accounts

theorem length_eq (h : Accounts es rs ws) : rs.length + ws.length = es.length := by
  induction h with
  | nil => rfl
  | remote h later ih =>
    rw [List.length_cons, List.length_cons, ← ih]
    omega
  | warning h later ih =>
    rw [List.length_cons, List.length_cons, ← ih]
    omega

theorem names_sublist (h : Accounts es rs ws) : (rs.map Prod.fst).Sublist (es.map Prod.fst) := by
  induction h with
  | nil => exact .slnil
  | remote h later ih => exact ih.cons_cons _
  | warning h later ih => exact ih.cons _

theorem mem_iff (h : Accounts es rs ws) (name : String) (r : Remote) :
    (name, r) ∈ rs ↔ ∃ value, (name, value) ∈ es ∧ Usable name value r := by
  induction h with
  | nil => simp
  | @remote name' value' r' es rs ws h later ih =>
    rw [List.mem_cons, ih]
    constructor
    · rintro (heq | ⟨value, hmem, husable⟩)
      · cases heq
        exact ⟨value', List.mem_cons_self, h⟩
      · exact ⟨value, List.mem_cons_of_mem _ hmem, husable⟩
    · rintro ⟨value, hmem, husable⟩
      obtain heq | hmem := List.mem_cons.mp hmem
      · cases heq
        rw [h.unique husable]
        exact .inl rfl
      · exact .inr ⟨value, hmem, husable⟩
  | @warning name' value' omission es rs ws h later ih =>
    rw [ih]
    constructor
    · rintro ⟨value, hmem, husable⟩
      exact ⟨value, List.mem_cons_of_mem _ hmem, husable⟩
    · rintro ⟨value, hmem, husable⟩
      obtain heq | hmem := List.mem_cons.mp hmem
      · cases heq
        exact absurd husable (h.not_usable r)
      · exact ⟨value, hmem, husable⟩

theorem mem_warnings (h : Accounts es rs ws) {name : String} {value : Value} {omission : Omission}
    (hmem : (name, value) ∈ es) (homits : Omits name value omission) :
    omission.warning name ∈ ws := by
  induction h with
  | nil => cases hmem
  | remote h later ih =>
    obtain heq | hmem := List.mem_cons.mp hmem
    · cases heq
      exact absurd h (homits.not_usable _)
    · exact ih hmem
  | @warning name' value' omission' es rs ws h later ih =>
    obtain heq | hmem := List.mem_cons.mp hmem
    · cases heq
      have hread := readEntry_of_omits homits
      rw [readEntry_of_omits h] at hread
      cases hread
      exact List.mem_cons_self
    · exact List.mem_cons_of_mem _ (ih hmem)

theorem without {before after : List (String × Value)} {e : String × Value}
    (hunusable : ∀ r, ¬ Usable e.1 e.2 r) (h : Accounts (before ++ e :: after) rs ws) :
    ∃ ws', Accounts (before ++ after) rs ws' := by
  induction before generalizing rs ws with
  | nil =>
    cases h with
    | remote h later => exact absurd h (hunusable _)
    | warning h later => exact ⟨_, later⟩
  | cons first before ih =>
    cases h with
    | remote h later =>
      obtain ⟨ws', hrest⟩ := ih later
      exact ⟨ws', .remote h hrest⟩
    | warning h later =>
      obtain ⟨ws', hrest⟩ := ih later
      exact ⟨_, .warning h hrest⟩

theorem eq_nil_iff (h : Accounts es rs ws) : rs = [] ↔ ∀ e ∈ es, ∀ r, ¬ Usable e.1 e.2 r := by
  rw [List.eq_nil_iff_forall_not_mem]
  constructor
  · intro hnone e he r husable
    exact hnone (e.1, r) ((h.mem_iff e.1 r).mpr ⟨e.2, he, husable⟩)
  · rintro hnone ⟨name, r⟩ hmem
    obtain ⟨value, hvalue, husable⟩ := (h.mem_iff name r).mp hmem
    exact hnone _ hvalue r husable

theorem check?_eq_none (h : Accounts es rs ws) : ∀ e ∈ rs, e.2.check? = none := by
  rintro ⟨name, r⟩ hmem
  obtain ⟨value, -, husable⟩ := (h.mem_iff name r).mp hmem
  obtain ⟨-, -, hfine⟩ := husable
  exact hfine

end Accounts

namespace Catalog

theorem ofEntries_of_accounts (h : Accounts es rs ws) (c : Catalog) :
    c.ofEntries es = .ok ⟨c.remotes ++ rs, c.warnings ++ ws⟩ := by
  induction h generalizing c with
  | nil => simp [ofEntries]
  | remote h later ih =>
    rw [ofEntries, readEntry_of_usable h]
    change (c.add _ (.ok _)).ofEntries _ = _
    rw [ih]
    simp [add]
  | warning h later ih =>
    rw [ofEntries, readEntry_of_omits h]
    change (c.add _ (.error _)).ofEntries _ = _
    rw [ih]
    simp [add]

theorem ofEntries_of_stops {before : List (String × Value)} (h : Accounts before rs ws)
    {e : String × Value} {refusal : Refusal} (hstops : Stops e.2 refusal)
    (after : List (String × Value)) (c : Catalog) :
    c.ofEntries (before ++ e :: after) = .error refusal := by
  induction h generalizing c with
  | nil =>
    rw [List.nil_append, ofEntries, readEntry_of_stops hstops]
    rfl
  | remote h later ih =>
    rw [List.cons_append, ofEntries, readEntry_of_usable h]
    exact ih _
  | warning h later ih =>
    rw [List.cons_append, ofEntries, readEntry_of_omits h]
    exact ih _

theorem check?_of_accounts (h : Accounts es rs ws) (hsome : rs ≠ []) (ws' : List String) :
    (⟨rs, ws'⟩ : Catalog).check? = none := by
  rw [check?, if_neg (by simpa using hsome), List.findSome?_eq_none_iff]
  intro e he
  dsimp only
  rw [h.check?_eq_none e he]
  rfl

theorem ofTable_of_accounts (h : Accounts es rs ws) (hsome : rs ≠ []) :
    ofTable es = .ok ⟨rs, ws⟩ := by
  rw [ofTable, ofEntries_of_accounts h]
  change checked ⟨[] ++ rs, [] ++ ws⟩ = _
  rw [List.nil_append, List.nil_append, checked, check?_of_accounts h hsome]

theorem ofTable_of_accounts_nil (h : Accounts es [] ws) : ofTable es = .error .noRemotes := by
  rw [ofTable, ofEntries_of_accounts h]
  rfl

theorem ofTable_of_stops {before : List (String × Value)} (h : Accounts before rs ws)
    {e : String × Value} {refusal : Refusal} (hstops : Stops e.2 refusal)
    (after : List (String × Value)) : ofTable (before ++ e :: after) = .error refusal := by
  rw [ofTable, ofEntries_of_stops h hstops]
  rfl

theorem find_eq_ok_iff {c : Catalog} (hdistinct : (c.remotes.map Prod.fst).Nodup) (name : String)
    (r : Remote) : c.find name = .ok r ↔ (name, r) ∈ c.remotes := by
  rw [find]
  cases hfind : c.remotes.find? (·.1 = name) with
  | none =>
    have hnone := List.find?_eq_none.mp hfind
    constructor
    · exact nofun
    · exact fun hmem => absurd (decide_eq_true rfl) (hnone _ hmem)
  | some e =>
    have hfound := List.mem_of_find?_eq_some hfind
    have hkey : e.1 = name := by simpa using List.find?_some hfind
    constructor
    · rintro ⟨⟩
      rw [← hkey]
      exact hfound
    · intro hmem
      rw [List.inj_on_of_nodup_map hdistinct hfound hmem hkey]

end Catalog
end Tables

/-! ## Every entry is accounted for -/

/-- What is known of the catalog of a table. -/
structure Loaded (es : List (String × Value)) (c : Catalog) : Prop where
  accounts : Accounts es c.remotes c.warnings
  count_eq : c.remotes.length + c.warnings.length = es.length
  find_iff : ∀ name r, c.find name = .ok r ↔ ∃ value, (name, value) ∈ es ∧ Usable name value r
  name_eq : ∀ name r, (name, r) ∈ c.remotes → r.name = .text name
  check_eq : c.check? = none

theorem Accounts.loaded {es : List (String × Value)} {rs : List (String × Remote)}
    {ws : List String} (hdistinct : (es.map Prod.fst).Nodup) (h : Accounts es rs ws)
    (hsome : rs ≠ []) : Loaded es ⟨rs, ws⟩ where
  accounts := h
  count_eq := h.length_eq
  find_iff name r := by
    rw [Catalog.find_eq_ok_iff (h.names_sublist.nodup hdistinct)]
    exact h.mem_iff name r
  name_eq name r hmem := by
    obtain ⟨value, -, husable⟩ := (h.mem_iff name r).mp hmem
    obtain ⟨-, hbuilt, -⟩ := husable
    exact hbuilt.name_eq
  check_eq := Catalog.check?_of_accounts h hsome ws

/-- A table of which no type ends the loading is refused if and only if none of its entries gives a
remote. Otherwise each entry is accounted for under its own name and in its place, by its remote or by
one warning, and the remotes are sound enough to be checked again. An entry that gives no remote does
not change what becomes of the others, wherever it stands. -/
theorem loading_accounts {es : List (String × Value)} (hdistinct : (es.map Prod.fst).Nodup)
    (hplain : ∀ e ∈ es, ∀ refusal, ¬ Stops e.2 refusal) :
    (Catalog.ofTable es = .error .noRemotes ↔ ∀ e ∈ es, ∀ r, ¬ Usable e.1 e.2 r) ∧
    ((∃ e ∈ es, ∃ r, Usable e.1 e.2 r) → ∃ c, Catalog.ofTable es = .ok c ∧ Loaded es c) ∧
    (∀ before e after, es = before ++ e :: after → (∀ r, ¬ Usable e.1 e.2 r) →
      (Catalog.ofTable (before ++ after)).map Catalog.remotes =
        (Catalog.ofTable es).map Catalog.remotes) := by
  obtain ⟨rs, ws, haccounts⟩ := exists_accounts hplain
  refine ⟨?_, ?_, ?_⟩
  · rw [← haccounts.eq_nil_iff]
    constructor
    · intro hrefused
      refine Classical.byContradiction fun hsome => ?_
      rw [Catalog.ofTable_of_accounts haccounts hsome] at hrefused
      cases hrefused
    · rintro rfl
      exact Catalog.ofTable_of_accounts_nil haccounts
  · rintro ⟨e, he, r, husable⟩
    have hsome : rs ≠ [] := fun hnil => haccounts.eq_nil_iff.mp hnil e he r husable
    exact ⟨_, Catalog.ofTable_of_accounts haccounts hsome, haccounts.loaded hdistinct hsome⟩
  · rintro before e after rfl hunusable
    obtain ⟨ws', hrest⟩ := haccounts.without hunusable
    by_cases hsome : rs = []
    · subst hsome
      rw [Catalog.ofTable_of_accounts_nil haccounts, Catalog.ofTable_of_accounts_nil hrest]
    · rw [Catalog.ofTable_of_accounts haccounts hsome, Catalog.ofTable_of_accounts hrest hsome]
      rfl

/-- One remote between an entry that is no table, one without a host and one of an unknown type. -/
theorem loading_accounts_one_of_four :
    let host : List (String × Value) :=
      [("type", .text "ftp"), ("host", .text "h"), ("timeout", .whole 5)]
    let es : List (String × Value) := [("a", .whole 1), ("b", .table host),
      ("c", .table [("type", .text "ftp")]), ("d", .table [("type", .truth true)])]
    (es.map Prod.fst).Nodup ∧ (∀ e ∈ es, ∀ refusal, ¬ Stops e.2 refusal) ∧
      ∃ c, Catalog.ofTable es = .ok c ∧ c.remotes.length + c.warnings.length = 4 ∧
        ∃ r, c.find "b" = .ok r ∧ r.host = .text "h" ∧ r.port = .whole 21 := by
  intro host es
  have hdistinct : (es.map Prod.fst).Nodup := by decide
  have hplain : ∀ e ∈ es, ∀ refusal, ¬ Stops e.2 refusal := by
    intro e he refusal hstops
    simp only [es, host, List.mem_cons, List.not_mem_nil, or_false] at he
    obtain rfl | rfl | rfl | rfl := he <;> cases hstops <;> simp_all [Value.lookup?]
  have husable : Usable "b" (.table host)
      { name := .text "b", type := .text "ftp", host := .text "h", timeout := .whole 5 } :=
    .intro rfl ⟨rfl, rfl, rfl, rfl, rfl, rfl, rfl, rfl, rfl⟩ rfl
  obtain ⟨c, hload, hloaded⟩ :=
    (loading_accounts hdistinct hplain).2.1 ⟨("b", .table host), by simp [es], _, husable⟩
  exact ⟨hdistinct, hplain, c, hload, hloaded.count_eq, _,
    (hloaded.find_iff _ _).mpr ⟨_, by simp [es], husable⟩, rfl, rfl⟩

/-- A type that is a very long number ends the loading of the usable remote after it. -/
theorem loading_untold :
    ¬ ∀ es : List (String × Value), (es.map Prod.fst).Nodup →
      (∀ name table type, (name, .table table) ∈ es → Value.lookup? "type" table = some type →
        (∀ items, type ≠ .list items) ∧ ∀ inner, type ≠ .table inner) →
      ((∃ refusal, Catalog.ofTable es = .error refusal) ↔ ∀ e ∈ es, ∀ r, ¬ Usable e.1 e.2 r) := by
  let host : List (String × Value) :=
    [("type", .text "ftp"), ("host", .text "h"), ("timeout", .whole 5)]
  intro h
  obtain ⟨n, hlong⟩ : ∃ n : Int, Nat.pow 10 longestNumeral ≤ n.natAbs :=
    ⟨_, Nat.le_of_eq (Int.natAbs_natCast _).symm⟩
  let long : List (String × Value) := [("type", .whole n)]
  have hstops : Stops (.table long) (.longNumeral none) := .long rfl hlong
  have hload := Catalog.ofTable_of_stops .nil (e := ("bad", .table long)) hstops
    [("good", .table host)]
  have husable : Usable "good" (.table host)
      { name := .text "good", type := .text "ftp", host := .text "h", timeout := .whole 5 } :=
    .intro rfl ⟨rfl, rfl, rfl, rfl, rfl, rfl, rfl, rfl, rfl⟩ rfl
  refine (h _ (by simp) ?_).mp ⟨_, hload⟩ ("good", .table host) (by simp) _ husable
  intro name table type hmem htype
  simp only [List.nil_append, List.mem_cons, List.not_mem_nil, or_false, Prod.mk.injEq,
    Value.table.injEq] at hmem
  obtain ⟨-, rfl⟩ | ⟨-, rfl⟩ := hmem <;> cases htype <;> exact ⟨nofun, nofun⟩

/-! ## What ends the loading -/

/-- The first entry of a table that ends the loading, and the refusal. -/
def StoppedBy (es : List (String × Value)) (refusal : Refusal) : Prop :=
  ∃ before e after, es = before ++ e :: after ∧
    (∀ e' ∈ before, ∀ refusal', ¬ Stops e'.2 refusal') ∧ Stops e.2 refusal

theorem exists_stoppedBy {es : List (String × Value)} {e : String × Value} {refusal : Refusal}
    (he : e ∈ es) (hstops : Stops e.2 refusal) : ∃ refusal', StoppedBy es refusal' := by
  induction es with
  | nil => cases he
  | cons first es ih =>
    by_cases hfirst : ∃ refusal', Stops first.2 refusal'
    · obtain ⟨refusal', hfirst⟩ := hfirst
      exact ⟨refusal', [], first, es, rfl, by simp, hfirst⟩
    · obtain rfl | he := List.mem_cons.mp he
      · exact absurd ⟨refusal, hstops⟩ hfirst
      · obtain ⟨refusal', before, e', after, rfl, hbefore, hstops'⟩ := ih he
        refine ⟨refusal', first :: before, e', after, rfl, ?_, hstops'⟩
        exact List.forall_mem_cons.mpr ⟨fun r h => hfirst ⟨r, h⟩, hbefore⟩

theorem isForeseen_of_stops {value : Value} {refusal : Refusal} (h : Stops value refusal) :
    isForeseen refusal = false := by
  cases h <;> rfl

theorem ofTable_of_stoppedBy {es : List (String × Value)} {refusal : Refusal}
    (h : StoppedBy es refusal) : Catalog.ofTable es = .error refusal := by
  obtain ⟨before, e, after, rfl, hbefore, hstops⟩ := h
  obtain ⟨rs, ws, haccounts⟩ := exists_accounts hbefore
  exact Catalog.ofTable_of_stops haccounts hstops after

theorem ofTable_cases (es : List (String × Value)) :
    (∃ refusal, StoppedBy es refusal ∧ Catalog.ofTable es = .error refusal) ∨
      ∃ rs ws, Accounts es rs ws ∧ ((rs = [] ∧ Catalog.ofTable es = .error .noRemotes) ∨
        Catalog.ofTable es = .ok ⟨rs, ws⟩) := by
  by_cases hplain : ∀ e ∈ es, ∀ refusal, ¬ Stops e.2 refusal
  · obtain ⟨rs, ws, haccounts⟩ := exists_accounts hplain
    refine .inr ⟨rs, ws, haccounts, ?_⟩
    by_cases hsome : rs = []
    · subst hsome
      exact .inl ⟨rfl, Catalog.ofTable_of_accounts_nil haccounts⟩
    · exact .inr (Catalog.ofTable_of_accounts haccounts hsome)
  · simp only [Classical.not_forall, Classical.not_not] at hplain
    obtain ⟨e, he, refusal, hstops⟩ := hplain
    obtain ⟨refusal', hstopped⟩ := exists_stoppedBy he hstops
    exact .inl ⟨refusal', hstopped, ofTable_of_stoppedBy hstopped⟩

/-- A table is loaded, or is refused because it gives no remote, unless an entry ends the loading: the
first that does, with a refusal that nobody foresaw. -/
theorem loading_stops (es : List (String × Value)) :
    ((∃ c, Catalog.ofTable es = .ok c) ∨ Catalog.ofTable es = .error .noRemotes ∨
      ∃ refusal, StoppedBy es refusal ∧ Catalog.ofTable es = .error refusal) ∧
    (∀ refusal, (Catalog.ofTable es = .error refusal ∧ isForeseen refusal = false) ↔
      StoppedBy es refusal) := by
  have hstopped : ∀ refusal, StoppedBy es refusal →
      Catalog.ofTable es = .error refusal ∧ isForeseen refusal = false := by
    intro refusal hstopped
    obtain ⟨before, e, after, -, -, hstops⟩ := id hstopped
    exact ⟨ofTable_of_stoppedBy hstopped, isForeseen_of_stops hstops⟩
  obtain ⟨refusal', hfirst, hload⟩ | ⟨rs, ws, -, ⟨-, hload⟩ | hload⟩ := ofTable_cases es
  · refine ⟨.inr (.inr ⟨refusal', hfirst, hload⟩), fun refusal => ⟨?_, hstopped refusal⟩⟩
    rintro ⟨hrefused, -⟩
    rw [hload] at hrefused
    cases hrefused
    exact hfirst
  · refine ⟨.inr (.inl hload), fun refusal => ⟨?_, hstopped refusal⟩⟩
    rintro ⟨hrefused, hunforeseen⟩
    rw [hload] at hrefused
    cases hrefused
    cases hunforeseen
  · refine ⟨.inl ⟨_, hload⟩, fun refusal => ⟨?_, hstopped refusal⟩⟩
    rintro ⟨hrefused, -⟩
    rw [hload] at hrefused
    cases hrefused

/-- A type that is a list ends the loading of the usable remote after it, and nobody foresaw that. -/
theorem loading_escapes :
    ¬ ∀ es : List (String × Value), (∃ c, Catalog.ofTable es = .ok c) ∨
      ∃ refusal, Catalog.ofTable es = .error refusal ∧ isForeseen refusal = true := by
  intro h
  have hload : Catalog.ofTable [("bad", .table [("type", .list [.text "ftp"])]),
      ("good", .table [("type", .text "ftp"), ("host", .text "h")])] =
        .error (.compoundType .list) := rfl
  obtain ⟨c, hok⟩ | ⟨refusal, hrefused, hforeseen⟩ := h _
  · rw [hload] at hok
    cases hok
  · rw [hload] at hrefused
    cases hrefused
    cases hforeseen

/-! ## What is known of loaded remotes -/

/-- The remotes of a catalog break no rule, and they are sound if and only if they are regular. An
entry for such a remote gives its remote if that breaks no rule, and is left out with a warning
otherwise. -/
theorem loaded_passes {es : List (String × Value)} {c : Catalog}
    (hdistinct : (es.map Prod.fst).Nodup) (hload : Catalog.ofTable es = .ok c) :
    (∀ name r, (name, r) ∈ c.remotes → r.Passes ∧ (r.Sound ↔ r.Regular)) ∧
    (∀ name table, (name, .table table) ∈ es →
      Value.lookup? "type" table = some (.text "ftp") →
      (∀ r, (name, r) ∈ c.remotes ↔ r.Built name table ∧ r.Passes) ∧
      ((∀ r : Remote, r.Built name table → ¬ r.Passes) →
        ∃ flaw, Omission.warning name (.flawed flaw) ∈ c.warnings)) := by
  obtain ⟨refusal, -, hrefused⟩ | ⟨rs, ws, haccounts, ⟨-, hrefused⟩ | hload'⟩ := ofTable_cases es
  · rw [hrefused] at hload
    cases hload
  · rw [hrefused] at hload
    cases hload
  rw [hload'] at hload
  cases hload
  refine ⟨fun name r hmem => ?_, fun name table hmem htype => ⟨fun r => ?_, fun hbroken => ?_⟩⟩
  · have hpasses := (Remote.check?_eq_none_iff r).mp (haccounts.check?_eq_none (name, r) hmem)
    exact ⟨hpasses, by rw [Remote.sound_iff, and_iff_right hpasses]⟩
  · rw [haccounts.mem_iff, ← usable_iff htype]
    constructor
    · rintro ⟨value, hvalue, husable⟩
      cases List.inj_on_of_nodup_map hdistinct hmem hvalue rfl
      exact husable
    · exact fun husable => ⟨_, hmem, husable⟩
  · obtain ⟨flaw, homits⟩ := omits_of_ftp htype fun r husable =>
      hbroken r ((usable_iff htype).mp husable).1 ((usable_iff htype).mp husable).2
    exact ⟨flaw, haccounts.mem_warnings hmem homits⟩

/-- A remote, and one that is left out for its port. -/
theorem loaded_passes_one_of_two :
    let host : List (String × Value) :=
      [("type", .text "ftp"), ("host", .text "h"), ("timeout", .whole 5)]
    let port : List (String × Value) :=
      [("type", .text "ftp"), ("host", .text "h"), ("port", .whole 70000)]
    let es : List (String × Value) := [("a", .table host), ("b", .table port)]
    ∃ c, (es.map Prod.fst).Nodup ∧ Catalog.ofTable es = .ok c ∧ c.remotes.length = 1 ∧
      (∀ r, ("a", r) ∈ c.remotes → r.Sound) ∧ (∀ r, ("b", r) ∉ c.remotes) ∧
      ∃ flaw, Omission.warning "b" (.flawed flaw) ∈ c.warnings := by
  intro host port es
  have hdistinct : (es.map Prod.fst).Nodup := by decide
  obtain ⟨c, hload, hlength⟩ : ∃ c, Catalog.ofTable es = .ok c ∧ c.remotes.length = 1 :=
    ⟨_, rfl, rfl⟩
  obtain ⟨hpasses, hentries⟩ := loaded_passes hdistinct hload
  have hbroken : ∀ r : Remote, r.Built "b" port → ¬ r.Passes := by
    intro r hbuilt hpasses
    obtain ⟨n, hn, -, hle⟩ := hpasses.port
    rw [hbuilt.port_eq] at hn
    cases hn
    omega
  refine ⟨c, hdistinct, hload, hlength, fun r hmem => ?_, fun r hmem => ?_,
    (hentries "b" port (by simp [es]) rfl).2 hbroken⟩
  · obtain ⟨hbuilt, -⟩ := ((hentries "a" host (by simp [es]) rfl).1 r).mp hmem
    refine (hpasses "a" r hmem).2.mpr ⟨⟨"h", ?_⟩, ⟨_, hbuilt.username_eq⟩, ⟨_, hbuilt.password_eq⟩,
      fun b hb => ?_, fun hnan => ?_⟩
    · exact (Option.some.inj hbuilt.host_eq).symm
    · cases hbuilt.port_eq.symm.trans hb
    · cases hbuilt.timeout_eq.symm.trans hnan
  · obtain ⟨hbuilt, hfine⟩ := ((hentries "b" port (by simp [es]) rfl).1 r).mp hmem
    exact hbroken r hbuilt hfine

/-- A time limit that is no number passes the rules, and so does a user that is no text. -/
theorem loaded_unsound :
    ¬ ∀ (es : List (String × Value)) (c : Catalog), (es.map Prod.fst).Nodup →
      Catalog.ofTable es = .ok c → ∀ name r, (name, r) ∈ c.remotes → r.Sound := by
  intro h
  have hsound := h [("a", .table [("type", .text "ftp"), ("host", .text "h"),
    ("username", .whole 5), ("timeout", .real .nan)])] _ (by decide) rfl "a" _ List.mem_cons_self
  obtain ⟨n, hn, -⟩ | ⟨x, hx, hpositive⟩ := hsound.timeout
  · cases hn
  · cases hx
    cases hpositive

end FileTransfer.Settings
