import FileTransfer.Proofs.Pool.Dialling
import FileTransfer.Proofs.Reply.Opening
import FileTransfer.Proofs.Text.Split

/-!
# Refused logins

A server that will not set up a session says so with a reply. Whether it is the login that is refused is
looked up in the text of the whole reply, and not in its code alone.

* `infix_written_iff`: what is found in an opening line is its code, or is found in its text.
* `acquire_of_failure`: the failure to set up a session, as whoever asks for one is told.
* `refused_session`: which of two failures a refusal becomes.
* `refused_session_locked_account`: another refusal that is taken for one of the login.
-/

namespace FileTransfer.Reply
open FileTransfer.Text
set_option autoImplicit false

/-- What is as long as a code and has no separator in it is found in an opening line where it is the
code, or in the text. -/
theorem OpeningLine.infix_written_iff {o : OpeningLine} (ho : o.Proper) {part : List Char}
    (hlength : part.length = 3) (hspace : ' ' ∉ part) (hhyphen : '-' ∉ part) :
    part <:+: o.written ↔ part = decimal 3 o.code ∨ part <:+: o.text := by
  have hcode : part <:+: decimal 3 o.code ↔ part = decimal 3 o.code := by
    constructor
    · exact fun h => h.eq_of_length (hlength.trans ho.length_code.symm)
    · rintro rfl
      exact List.infix_rfl
  rw [OpeningLine.written, List.append_assoc]
  cases hseparator : o.separator with
  | bare =>
    have hnone : ¬ part <:+: [] := by
      intro h
      rw [List.infix_nil.mp h] at hlength
      cases hlength
    rw [ho.bare hseparator, Separator.text, List.append_nil, List.append_nil, hcode, or_iff_left hnone]
  | space =>
    rw [← hcode]
    exact infix_append_cons_iff hspace _ _
  | hyphen =>
    rw [← hcode]
    exact infix_append_cons_iff hhyphen _ _

end FileTransfer.Reply

namespace FileTransfer.Pool
open FileTransfer.Reply FileTransfer.Session FileTransfer.Settings FileTransfer.Text
set_option autoImplicit false

/-- The code of a refused login is found in a reply that has this code, or in whose text it stands. -/
theorem holds_loginRefused_iff {o : OpeningLine} (ho : o.Proper) :
    holds loginRefused o.written = true ↔ o.code = 530 ∨ loginRefused <:+: o.text := by
  have hcode : loginRefused = decimal 3 o.code ↔ o.code = 530 := by
    constructor
    · intro h
      have hvalue := congrArg (numeralValue 10) h
      rw [numeralValue_decimal] at hvalue
      exact hvalue.symm
    · intro h
      rw [h]
      decide
  rw [holds, cut_isSome_iff (by decide),
    OpeningLine.infix_written_iff ho rfl (by decide) (by decide), hcode]

section Acquire
variable {p : SessionPool} {before after : List (Action × Option Failure)} {action : Action}

/-- An open pool with an empty shelf sets up a session for whoever asks, who is told of the first step
that fails. -/
theorem acquire_of_failure {failure : Failure} (hopen : p.shelf.closed = false)
    (hidle : p.shelf.idle = [])
    (hsteps : dialSteps p.remote p.nextScript = before ++ (action, some failure) :: after)
    (hbefore : ∀ step ∈ before, step.2 = none) :
    p.acquire.1 = .error ((dialFailure? p.remote.host failure).getD failure) := by
  have htake : p.shelf.take = .ok (none, p.shelf) := Shelf.take_eq_none_iff.mpr ⟨hopen, hidle, rfl⟩
  have hacquire : p.acquire = p.dialNext := by
    rw [SessionPool.acquire, htake]
  have hrun := runSteps_of_failure hbefore action failure after
  rw [← hsteps] at hrun
  have hdial : (dial p.remote p.made p.nextScript).1 =
      .error ((dialFailure? p.remote.host failure).getD failure) := by
    simp only [dial, hrun]
    cases dialFailure? p.remote.host failure with
    | none => rfl
    | some reported => rfl
  rcases hresult : dial p.remote p.made p.nextScript with ⟨result, trace⟩
  rw [hresult] at hdial
  have herror : result = _ := hdial
  rw [SessionPool.nextScript] at hresult
  rw [hacquire]
  simp only [SessionPool.dialNext, hresult, herror]

/-- A server refuses for good some step of a session, whichever it is, with a reply. Whoever asks for
the session is told that the login is refused where the code of the reply says so, but also where its
text has the digits of that code in it; and otherwise that the session is refused. -/
theorem refused_session {text : String} {o : OpeningLine} (hopen : p.shelf.closed = false)
    (hidle : p.shelf.idle = [])
    (hsteps : dialSteps p.remote p.nextScript =
      before ++ (action, some (.fault (.session .permanent text))) :: after)
    (hbefore : ∀ step ∈ before, step.2 = none) (hreply : OpeningLine.read text = .ok o) :
    let cause : Fault := .session .permanent text
    (p.acquire.1 = .error (.notAuthenticated cause) ↔
      o.code = 530 ∨ "530".toList <:+: o.text) ∧
    (p.acquire.1 = .error (.sessionRefused cause) ↔
      o.code ≠ 530 ∧ ¬ "530".toList <:+: o.text) := by
  intro cause
  obtain ⟨hproper, hline⟩ := OpeningLine.written_of_read hreply
  have hacquire := acquire_of_failure hopen hidle hsteps hbefore
  have htold : dialFailure? p.remote.host (.fault cause) =
      if holds loginRefused text.toList then some (.notAuthenticated cause)
      else some (.sessionRefused cause) := rfl
  have hlogin := holds_loginRefused_iff hproper
  rw [← hline] at hlogin
  rw [hacquire, htold]
  cases hholds : holds loginRefused text.toList with
  | true =>
    have hsaid := hlogin.mp hholds
    exact ⟨iff_of_true rfl hsaid, iff_of_false nofun fun h => hsaid.elim h.1 h.2⟩
  | false =>
    have hunsaid : ¬ (o.code = 530 ∨ loginRefused <:+: o.text) := fun h =>
      absurd (hholds.symm.trans (hlogin.mpr h)) (by decide)
    exact ⟨iff_of_false nofun hunsaid, iff_of_true rfl (not_or.mp hunsaid)⟩

end Acquire

/-- A server that refuses to secure data channels, in a reply of two lines. -/
def refusedProtection : Script where
  protecting := some (.fault (.session .permanent "536-not here\n536 port 53"))

/-- A server that refuses the login for the account alone. -/
def lockedAccount : Script where
  login := some (.fault (.session .permanent "550 account 15302 is locked"))

theorem refused_session_two_steps :
    (securing [refusedLogin]).acquire.1 =
        .error (.notAuthenticated (.session .permanent "530 not you")) ∧
      (securing [refusedProtection]).acquire.1 =
        .error (.sessionRefused (.session .permanent "536-not here\n536 port 53")) := by
  have hlogin : dialSteps (securing [refusedLogin]).remote refusedLogin =
      [(.connect (.text "server") (.whole 21) (securing []).remote.timeout, none), (.secure, none)] ++
        (.login (.text "anonymous") (.text "anonymous@"),
          some (.fault (.session .permanent "530 not you"))) :: [(.protect, none)] := rfl
  have hprotection : dialSteps (securing [refusedProtection]).remote refusedProtection =
      [(.connect (.text "server") (.whole 21) (securing []).remote.timeout, none), (.secure, none),
        (.login (.text "anonymous") (.text "anonymous@"), none)] ++
        (.protect, some (.fault (.session .permanent "536-not here\n536 port 53"))) :: [] := rfl
  have hdenied := refused_session (p := securing [refusedLogin])
    (o := ⟨530, .space, "not you".toList⟩) rfl rfl hlogin (by simp) (by decide)
  have hrefused := refused_session (p := securing [refusedProtection])
    (o := ⟨536, .hyphen, "not here\n536 port 53".toList⟩) rfl rfl hprotection (by simp) (by decide)
  have helsewhere : ¬ loginRefused <:+: "not here\n536 port 53".toList := fun h =>
    absurd ((cut_isSome_iff (by decide) _).mpr h) (by decide)
  exact ⟨hdenied.1.mpr (.inl rfl), hrefused.2.mpr ⟨by decide, helsewhere⟩⟩

/-- A number in the text that has the digits of the code in it. The reply has another code. -/
theorem refused_session_locked_account :
    OpeningLine.read "550 account 15302 is locked" =
        .ok ⟨550, .space, "account 15302 is locked".toList⟩ ∧
      (securing [lockedAccount]).acquire.1 =
        .error (.notAuthenticated (.session .permanent "550 account 15302 is locked")) :=
  ⟨by decide, rfl⟩

end FileTransfer.Pool
