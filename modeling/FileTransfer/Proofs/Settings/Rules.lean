import FileTransfer.Settings.Remote

/-!
# The rules for remotes

A remote of the settings is checked field by field, by rules of which each names the values that it
lets pass. The rules let some values pass that no client should be given: a host, a user or a password
that is no text, a truth value for a port, and a time limit that is no number.

* `Remote.Built`: the remote of a table, with defaults for the fields that are left out.
* `Remote.Passes`, `check?_eq_none_iff`: what the rules ask for, and that they ask for nothing else.
* `Remote.Sound`, `Remote.Regular`, `sound_iff`: what a client needs, and what the rules leave open of
  it.
-/

namespace FileTransfer.Settings
open FileTransfer.Number
set_option autoImplicit false

/-! ## Values -/

theorem isText_iff (t : String) (v : Value) : isText t v = true ↔ v = .text t := by
  cases v <;> simp [isText]

theorem isPort_iff (v : Value) :
    isPort v = true ↔ ∃ n, v.integer? = some n ∧ 1 ≤ n ∧ n ≤ 65535 := by
  unfold isPort
  cases v.integer? <;> simp

theorem isTruth_iff (v : Value) : isTruth v = true ↔ ∃ b, v = .truth b := by
  cases v <;> simp [isTruth]

theorem isDuration_iff (v : Value) :
    isDuration v = true ↔
      (∃ n, v = .whole n ∧ 0 < n) ∨ ∃ x, v = .real x ∧ (x = .nan ∨ x.isPositive = true) := by
  cases v <;> simp [isDuration]

theorem isCount_iff (v : Value) : isCount v = true ↔ ∃ n, v = .whole n ∧ 0 ≤ n := by
  cases v <;> simp [isCount]

theorem isBlank_text (s : String) : (Value.text s).isBlank = false ↔ s ≠ "" := by
  simp [Value.isBlank]

theorem integer?_eq_some {v : Value} {n : Int} (h : v.integer? = some n) :
    v = .whole n ∨ ∃ b, v = .truth b := by
  cases v with
  | whole m =>
    cases h
    exact .inl rfl
  | truth b => exact .inr ⟨b, rfl⟩
  | _ => cases h

namespace Remote
variable {name : String} {table : List (String × Value)}

/-! ## Remotes of tables -/

/-- The remote `r` of a table: its host is the table's, and so are the other fields, where the table
has them. -/
structure Built (name : String) (table : List (String × Value)) (r : Remote) : Prop where
  name_eq : r.name = .text name
  type_eq : r.type = .text "ftp"
  host_eq : Value.lookup? "host" table = some r.host
  port_eq : r.port = (Value.lookup? "port" table).getD (.whole 21)
  username_eq : r.username = (Value.lookup? "username" table).getD (.text "anonymous")
  password_eq : r.password = (Value.lookup? "password" table).getD (.text "anonymous@")
  tls_eq : r.tls = (Value.lookup? "tls" table).getD (.truth false)
  timeout_eq :
    r.timeout = (Value.lookup? "timeout" table).getD (.real (Binary64.ofDecimal false 30 0))
  maxIdle_eq : r.maxIdle = (Value.lookup? "max_idle" table).getD (.whole 4)

theorem ofTable_eq_ok_iff {r : Remote} : ofTable name table = .ok r ↔ r.Built name table := by
  unfold ofTable
  constructor
  · intro h
    cases hhost : Value.lookup? "host" table with
    | none =>
      rw [hhost] at h
      cases h
    | some host =>
      rw [hhost] at h
      cases h
      exact ⟨rfl, rfl, hhost, rfl, rfl, rfl, rfl, rfl, rfl⟩
  · obtain ⟨_, _, host, _, _, _, _, _, _⟩ := r
    rintro ⟨rfl, rfl, hhost, rfl, rfl, rfl, rfl, rfl, rfl⟩
    rw [hhost]
    rfl

theorem ofTable_eq_error_iff {flaw : Flaw} :
    ofTable name table = .error flaw ↔ flaw = .noHost ∧ Value.lookup? "host" table = none := by
  unfold ofTable
  cases Value.lookup? "host" table with
  | none => simp [eq_comm]
  | some host => simp

/-! ## What the rules ask for -/

/-- A remote that breaks no rule. -/
structure Passes (r : Remote) : Prop where
  type_eq : r.type = .text "ftp"
  host : r.host.isBlank = false
  port : ∃ n, r.port.integer? = some n ∧ 1 ≤ n ∧ n ≤ 65535
  tls : ∃ b, r.tls = .truth b
  timeout : (∃ n, r.timeout = .whole n ∧ 0 < n) ∨
    ∃ x, r.timeout = .real x ∧ (x = .nan ∨ x.isPositive = true)
  maxIdle : ∃ n, r.maxIdle = .whole n ∧ 0 ≤ n

theorem rules_eq_none_iff {broken : Bool} {flaw : Flaw} {later : Option Flaw} :
    (if broken then some flaw else later) = none ↔ broken = false ∧ later = none := by
  cases broken <;> simp

theorem check?_eq_none_iff (r : Remote) : r.check? = none ↔ r.Passes := by
  simp only [check?, rules_eq_none_iff, Bool.not_eq_false', isText_iff, isPort_iff, isTruth_iff,
    isDuration_iff, isCount_iff, and_true]
  constructor
  · rintro ⟨htype, hhost, hport, htls, htimeout, hidle⟩
    exact ⟨htype, hhost, hport, htls, htimeout, hidle⟩
  · intro h
    exact ⟨h.type_eq, h.host, h.port, h.tls, h.timeout, h.maxIdle⟩

/-! ## What a client needs -/

/-- A remote that a client can use as it stands. -/
structure Sound (r : Remote) : Prop where
  type_eq : r.type = .text "ftp"
  host : ∃ s, r.host = .text s ∧ s ≠ ""
  username : ∃ s, r.username = .text s
  password : ∃ s, r.password = .text s
  port : ∃ n, r.port = .whole n ∧ 1 ≤ n ∧ n ≤ 65535
  tls : ∃ b, r.tls = .truth b
  timeout : (∃ n, r.timeout = .whole n ∧ 0 < n) ∨ ∃ x, r.timeout = .real x ∧ x.isPositive = true
  maxIdle : ∃ n, r.maxIdle = .whole n ∧ 0 ≤ n

/-- What no rule asks for: texts where texts are needed, a port that is no truth value, and a time
limit that is a number. -/
structure Regular (r : Remote) : Prop where
  host : ∃ s, r.host = .text s
  username : ∃ s, r.username = .text s
  password : ∃ s, r.password = .text s
  port : ∀ b, r.port ≠ .truth b
  timeout : r.timeout ≠ .real .nan

theorem Sound.passes {r : Remote} (h : r.Sound) : r.Passes := by
  obtain ⟨s, hs, hne⟩ := h.host
  obtain ⟨n, hn, hrange⟩ := h.port
  refine ⟨h.type_eq, ?_, ⟨n, ?_, hrange⟩, h.tls, ?_, h.maxIdle⟩
  · rw [hs]
    exact (isBlank_text s).mpr hne
  · rw [hn]
    rfl
  · exact h.timeout.imp_right fun ⟨x, hx, hpositive⟩ => ⟨x, hx, .inr hpositive⟩

theorem Sound.regular {r : Remote} (h : r.Sound) : r.Regular := by
  obtain ⟨s, hs, -⟩ := h.host
  obtain ⟨n, hn, -⟩ := h.port
  refine ⟨⟨s, hs⟩, h.username, h.password, fun b hb => ?_, fun hnan => ?_⟩
  · rw [hn] at hb
    cases hb
  · obtain ⟨n, hn, -⟩ | ⟨x, hx, hpositive⟩ := h.timeout
    · rw [hnan] at hn
      cases hn
    · rw [hnan] at hx
      cases hx
      cases hpositive

theorem sound_iff (r : Remote) : r.Sound ↔ r.Passes ∧ r.Regular := by
  constructor
  · exact fun h => ⟨h.passes, h.regular⟩
  · rintro ⟨hpasses, hregular⟩
    obtain ⟨s, hs⟩ := hregular.host
    obtain ⟨n, hn, hrange⟩ := hpasses.port
    have hblank : s ≠ "" := by
      rw [← isBlank_text, ← hs]
      exact hpasses.host
    have hport : r.port = .whole n :=
      (integer?_eq_some hn).resolve_right fun ⟨b, hb⟩ => hregular.port b hb
    refine ⟨hpasses.type_eq, ⟨s, hs, hblank⟩, hregular.username, hregular.password,
      ⟨n, hport, hrange⟩, hpasses.tls, ?_, hpasses.maxIdle⟩
    refine hpasses.timeout.imp_right fun ⟨x, hx, hcase⟩ => ⟨x, hx, ?_⟩
    obtain rfl | hpositive := hcase
    · exact absurd hx hregular.timeout
    · exact hpositive

end Remote
end FileTransfer.Settings
