import FileTransfer.Proofs.Settings.Rules
import FileTransfer.Settings.Catalog

/-!
# The entries of a table of remotes

An entry gives a remote, or it is left out with a warning. Only a type that cannot be looked up, or
cannot be told in a warning, makes neither of the two.

* `Usable`, `Omits`, `Stops`: an entry that gives a remote, one that is left out, and one that does
  neither.
* `entry_cases`, `readEntry_of_usable`, `readEntry_of_omits`, `readEntry_of_stops`: every entry is of one
  of the three kinds, and is read as its kind says.
-/

namespace FileTransfer.Settings
open FileTransfer.Text
set_option autoImplicit false

/-! ## Kinds of entries -/

/-- An entry of which neither a remote nor a warning can be made: its type is a list or a table, or a
whole number of more than 4300 digits. -/
inductive Stops : Value → Refusal → Prop
  | list {table : List (String × Value)} {items : List Value}
      (htype : Value.lookup? "type" table = some (.list items)) :
      Stops (.table table) (.compoundType .list)
  | table {table inner : List (String × Value)}
      (htype : Value.lookup? "type" table = some (.table inner)) :
      Stops (.table table) (.compoundType .table)
  | long {table : List (String × Value)} {n : Int}
      (htype : Value.lookup? "type" table = some (.whole n))
      (hlong : Nat.pow 10 longestNumeral ≤ n.natAbs) : Stops (.table table) (.longNumeral none)

/-- An entry that is left out, and the reason. -/
inductive Omits (name : String) : Value → Omission → Prop
  | notTable {value : Value} (h : ∀ table, value ≠ .table table) : Omits name value .notTable
  | noType {table : List (String × Value)}
      (htype : Value.lookup? "type" table = none ∨ Value.lookup? "type" table = some .null) :
      Omits name (.table table) .noType
  | unknownType {table : List (String × Value)} {type : Value}
      (htype : Value.lookup? "type" table = some type) (hnull : type ≠ .null)
      (hother : type ≠ .text "ftp") (htold : ∀ refusal, ¬ Stops (.table table) refusal) :
      Omits name (.table table) (.unknownType type)
  | noHost {table : List (String × Value)}
      (htype : Value.lookup? "type" table = some (.text "ftp"))
      (hhost : Value.lookup? "host" table = none) :
      Omits name (.table table) (.flawed .noHost)
  | flawed {table : List (String × Value)} {r : Remote} {flaw : Flaw}
      (htype : Value.lookup? "type" table = some (.text "ftp")) (hbuilt : r.Built name table)
      (hflaw : r.check? = some flaw) : Omits name (.table table) (.flawed flaw)

/-- An entry that gives a remote. -/
inductive Usable (name : String) : Value → Remote → Prop
  | intro {table : List (String × Value)} {r : Remote}
      (htype : Value.lookup? "type" table = some (.text "ftp")) (hbuilt : r.Built name table)
      (hfine : r.check? = none) : Usable name (.table table) r

/-! ## Reading entries -/

section Reading
variable {name : String} {value : Value}

theorem isTooLong_iff (value : Value) :
    value.isTooLong = true ↔ ∃ n, value = .whole n ∧ Nat.pow 10 longestNumeral ≤ n.natAbs := by
  cases value <;> simp [Value.isTooLong]

theorem readEntry_of_stops {refusal : Refusal} (h : Stops value refusal) :
    readEntry name value = .error refusal := by
  cases h with
  | list htype => simp only [readEntry, htype]
  | table htype => simp only [readEntry, htype]
  | long htype hlong =>
    have htold := (isTooLong_iff _).mpr ⟨_, rfl, hlong⟩
    simp only [readEntry, htype]
    rw [htold]
    rfl

theorem readEntry_of_ftp {table : List (String × Value)}
    (htype : Value.lookup? "type" table = some (.text "ftp")) :
    readEntry name (.table table) =
      match Remote.ofTable name table with
      | .error flaw => .ok (.error (.flawed flaw))
      | .ok remote =>
        match remote.check? with
        | some flaw => .ok (.error (.flawed flaw))
        | none => .ok (.ok remote) := by
  simp only [readEntry, htype]
  rfl

theorem readEntry_of_usable {r : Remote} (h : Usable name value r) :
    readEntry name value = .ok (.ok r) := by
  obtain ⟨htype, hbuilt, hfine⟩ := h
  rw [readEntry_of_ftp htype, Remote.ofTable_eq_ok_iff.mpr hbuilt]
  dsimp only
  rw [hfine]

theorem readEntry_of_omits {omission : Omission} (h : Omits name value omission) :
    readEntry name value = .ok (.error omission) := by
  cases h with
  | notTable h =>
    cases value with
    | table table => exact absurd rfl (h table)
    | _ => rfl
  | noType htype =>
    obtain htype | htype := htype
    · simp only [readEntry, htype]
    · simp only [readEntry, htype]
  | noHost htype hhost =>
    rw [readEntry_of_ftp htype, Remote.ofTable_eq_error_iff.mpr ⟨rfl, hhost⟩]
  | flawed htype hbuilt hflaw =>
    rw [readEntry_of_ftp htype, Remote.ofTable_eq_ok_iff.mpr hbuilt]
    dsimp only
    rw [hflaw]
  | @unknownType table type htype hnull hother htold =>
    have hftp : isText remoteType type = false := by
      rw [Bool.eq_false_iff, ne_eq, isText_iff]
      exact hother
    have hshort : type.isTooLong = false := by
      rw [Bool.eq_false_iff]
      intro htoo
      obtain ⟨n, rfl, hlong⟩ := (isTooLong_iff type).mp htoo
      exact htold _ (.long htype hlong)
    cases type with
    | null => exact absurd rfl hnull
    | list items => exact absurd (.list htype) (htold _)
    | table inner => exact absurd (.table htype) (htold _)
    | _ => simp [readEntry, htype, hftp, hshort]

theorem usable_iff {table : List (String × Value)} {r : Remote}
    (htype : Value.lookup? "type" table = some (.text "ftp")) :
    Usable name (.table table) r ↔ r.Built name table ∧ r.Passes := by
  rw [← Remote.check?_eq_none_iff]
  constructor
  · rintro ⟨-, hbuilt, hfine⟩
    exact ⟨hbuilt, hfine⟩
  · rintro ⟨hbuilt, hfine⟩
    exact ⟨htype, hbuilt, hfine⟩

theorem omits_of_ftp {table : List (String × Value)}
    (htype : Value.lookup? "type" table = some (.text "ftp"))
    (hunusable : ∀ r, ¬ Usable name (.table table) r) :
    ∃ flaw, Omits name (.table table) (.flawed flaw) := by
  cases hread : Remote.ofTable name table with
  | error flaw => exact ⟨_, .noHost htype (Remote.ofTable_eq_error_iff.mp hread).2⟩
  | ok r =>
    have hbuilt := Remote.ofTable_eq_ok_iff.mp hread
    cases hcheck : r.check? with
    | none => exact absurd (.intro htype hbuilt hcheck) (hunusable r)
    | some flaw => exact ⟨flaw, .flawed htype hbuilt hcheck⟩

theorem entry_cases (name : String) (value : Value) :
    (∃ r, Usable name value r) ∨ (∃ omission, Omits name value omission) ∨
      ∃ refusal, Stops value refusal := by
  by_cases htable : ∃ table, value = .table table
  case neg => exact .inr (.inl ⟨_, .notTable fun table h => htable ⟨table, h⟩⟩)
  obtain ⟨table, rfl⟩ := htable
  by_cases hstops : ∃ refusal, Stops (.table table) refusal
  case pos => exact .inr (.inr hstops)
  by_cases husable : ∃ r, Usable name (.table table) r
  case pos => exact .inl husable
  refine .inr (.inl ?_)
  cases htype : Value.lookup? "type" table with
  | none => exact ⟨_, .noType (.inl htype)⟩
  | some type =>
    by_cases hnull : type = .null
    · exact ⟨_, .noType (.inr (hnull ▸ htype))⟩
    by_cases hftp : type = .text "ftp"
    · obtain ⟨flaw, homits⟩ := omits_of_ftp (hftp ▸ htype) fun r h => husable ⟨r, h⟩
      exact ⟨_, homits⟩
    · exact ⟨_, .unknownType htype hnull hftp fun refusal h => hstops ⟨refusal, h⟩⟩

theorem Omits.not_usable {omission : Omission} (h : Omits name value omission) (r : Remote) :
    ¬ Usable name value r := by
  intro husable
  have hread := readEntry_of_usable husable
  rw [readEntry_of_omits h] at hread
  cases hread

theorem Usable.unique {r r' : Remote} (h : Usable name value r) (h' : Usable name value r') :
    r = r' := by
  have hread := readEntry_of_usable h
  rw [readEntry_of_usable h'] at hread
  cases hread
  rfl

end Reading
end FileTransfer.Settings
