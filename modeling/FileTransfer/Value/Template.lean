import FileTransfer.Value.Shown

/-!
# Templates

A template is text with directives: `%s` stands for the next argument, `%d` for the next argument
as a whole number, and `%%` for a percent sign.

* `Template.Fault`: what keeps a template and its arguments from making a text.
* `Template.fill`: the text of a template; all arguments have to be used.
-/

namespace FileTransfer.Template
open FileTransfer.Text
set_option autoImplicit false

inductive Fault where
  | tooFew
  | tooMany
  /-- A number was asked for and the argument is of another kind. -/
  | notNumber (kind : Value.Kind)
  /-- A whole number was asked for and the argument is infinite, or no number. -/
  | notFinite (infinite : Bool)
  | incomplete
  /-- No directive has this character; it stands at `place`. -/
  | unknown (directive : Char) (place : Nat)
  deriving DecidableEq, Repr

/-- What is wrong, in words. A directive outside printable ASCII is shown as a question mark. -/
def Fault.message : Fault → String
  | .tooFew => "not enough arguments for format string"
  | .tooMany => "not all arguments converted during string formatting"
  | .notNumber kind => s!"%d format: a real number is required, not {kind.label}"
  | .notFinite infinite =>
    if infinite then "cannot convert float infinity to integer"
    else "cannot convert float NaN to integer"
  | .incomplete => "incomplete format"
  | .unknown directive place =>
    let sign := if 0x1F ≤ directive.toNat ∧ directive.toNat ≤ 0x7E then directive else '?'
    let number := String.ofList (writeNumeral 16 directive.toNat)
    s!"unsupported format character '{sign}' (0x{number}) at index {place}"

/-- The text of an argument as a whole number. -/
def wholeText (v : Value) : Except Fault (List Char) :=
  match v, v.integer? with
  | _, some n => .ok (toString n).toList
  | .real x, none =>
    match x.truncate? with
    | some n => .ok (toString n).toList
    | none => .error (.notFinite (x != .nan))
  | _, none => .error (.notNumber v.kind)

/-- The text of a template read from position `place` on. -/
def fillFrom (place : Nat) : List Char → List Value → Except Fault (List Char)
  | [], [] => .ok []
  | [], _ :: _ => .error .tooMany
  | ['%'], _ => .error .incomplete
  | '%' :: '%' :: cs, vs => ('%' :: ·) <$> fillFrom (place + 2) cs vs
  | '%' :: _ :: _, [] => .error .tooFew
  | '%' :: d :: cs, v :: vs => do
    let text ← if d = 's' then .ok v.shown.toList
      else if d = 'd' then wholeText v
      else .error (.unknown d (place + 1))
    return text ++ (← fillFrom (place + 2) cs vs)
  | c :: cs, vs => (c :: ·) <$> fillFrom (place + 1) cs vs

/-- The text of a template. Without arguments a template is plain text, percent signs included. -/
def fill (template : String) : List Value → Except Fault String
  | [] => .ok template
  | v :: vs => String.ofList <$> fillFrom 0 template.toList (v :: vs)

end FileTransfer.Template
