import WordMachine.Text.Numeral
import WordMachine.Text.Quoted

/-!
# Failures and replies

A call of a channel or of a stream either is done, or fails, or is interrupted.
A failure belongs to a kind and may carry one argument, which is its text; an
interruption is not a failure, and nothing in the machine absorbs it.  It comes
with words of its own, which may be empty.  What a failure says about itself is at
hand: to show a failure never fails.

Failures also come out of values after the call that delivered them.  The machine
absorbs those as little as interruptions: either is a disruption.
-/

namespace WordMachine

/-- The kinds of failure. -/
inductive FailureKind where
  /-- There is no more input. -/
  | endOfInput
  /-- The operating system refused a call. -/
  | operatingSystem
  /-- A value does not fit the call. -/
  | value
  /-- An error of another component. -/
  | runtime
  /-- Nothing is stored under a key. -/
  | key
  /-- A number is too large to be handled. -/
  | overflow
  /-- A kind known only by its name. -/
  | named (name : String)
deriving DecidableEq, Repr

/-- The name a kind of failure is shown with. -/
def FailureKind.name : FailureKind -> String
  | .endOfInput => "EOFError"
  | .operatingSystem => "OSError"
  | .value => "ValueError"
  | .runtime => "RuntimeError"
  | .key => "KeyError"
  | .overflow => "OverflowError"
  | .named name => name

/-- Why a call failed. -/
structure Failure where
  /-- What kind of failure it is. -/
  kind : FailureKind
  /-- What it says about itself. -/
  argument : Option Text := none
deriving DecidableEq, Repr

namespace Failure

/-- The text of a failure.  A missing key is shown in quotes. -/
def text (failure : Failure) : Text :=
  match failure.argument with
  | none => ""
  | some argument =>
      match failure.kind with
      | .key => Text.quoted argument
      | _ => argument

/-- The failure as it would be constructed: its kind with the quoted argument. -/
def display (failure : Failure) : String :=
  match failure.argument with
  | none => failure.kind.name ++ "()"
  | some argument => failure.kind.name ++ "(" ++ Text.quoted argument ++ ")"

/-- Whether the failure says that there is no more input. -/
def isEndOfInput (failure : Failure) : Bool :=
  failure.kind == .endOfInput

/-- Whether the failure is one that a broken text stream raises. -/
def isStreamTrouble (failure : Failure) : Bool :=
  failure.kind == .operatingSystem || failure.kind == .value

/-- There is no more input, said in the given words. -/
def endOfInput (words : Text) : Failure :=
  { kind := .endOfInput, argument := some words }

/-- A number is too long to be written. -/
def overlong : Failure :=
  { kind := .value, argument := some Text.Numeral.overlong }

@[simp] theorem isEndOfInput_endOfInput (words : Text) :
    (endOfInput words).isEndOfInput = true :=
  rfl

end Failure

/-- What a call comes back with. -/
inductive Reply (α : Type) where
  /-- The call succeeded. -/
  | done (value : α)
  /-- The call failed. -/
  | failed (failure : Failure)
  /-- The call was interrupted from outside, with the given words. -/
  | interrupted (words : Text)
deriving DecidableEq, Repr

/-- Something that nothing in the machine absorbs. -/
inductive Disruption where
  /-- An interruption from outside, with the given words. -/
  | interruption (words : Text)
  /-- A failure that comes out of a value. -/
  | failure (failure : Failure)
deriving DecidableEq, Repr

/-- How a number is shown, unless it is too long to be written. -/
def shownNumber (number : Int) : Except Disruption String :=
  match Text.writeDecimal? number with
  | some digits => .ok digits
  | none => .error (.failure .overlong)

theorem shownNumber_of_lt
    {number : Int}
    (short : number.natAbs < Text.Numeral.leastUnwritten) :
    shownNumber number = .ok (toString number) := by
  rw [shownNumber, Text.writeDecimal?_eq, if_pos short]

/-- Numbers of sixteen bits are short. -/
theorem shownNumber_natCast
    {number : Nat}
    (small : number < 65536) :
    shownNumber number = .ok (toString number) := by
  have enough := Text.Numeral.le_leastUnwritten
  exact shownNumber_of_lt (by omega)

theorem shownNumber_of_le
    {number : Int}
    (long : Text.Numeral.leastUnwritten ≤ number.natAbs) :
    shownNumber number = .error (.failure .overlong) := by
  rw [shownNumber, Text.writeDecimal?_eq, if_neg (Nat.not_lt_of_le long)]

end WordMachine
