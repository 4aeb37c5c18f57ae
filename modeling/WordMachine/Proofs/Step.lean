import WordMachine.Machine.Step

/-!
# Steps taken apart

A step makes a plan and carries it out: `Machine.carryOut`.  What every successful
plan has in common is shown along its checks: `Yields`.  `Machine.apply` changes
the machine, moves the program counter and counts the instruction; `Machine.enact`
is the first of these alone and `Effect.target?` the second, and
`Machine.apply_eq` puts them together again.
-/

namespace WordMachine

/-! ## Results of checks -/

section

variable {α β : Type}

/-- A result has a property, unless it is a failure. -/
def Yields
    (property : α -> Prop)
    (result : Except Cause α) : Prop :=
  ∀ value, result = .ok value -> property value

theorem yields_true (result : Except Cause α) :
    Yields (fun _ => True) result :=
  fun _ _ => trivial

theorem yields_pure
    {property : α -> Prop}
    {value : α}
    (holds : property value) :
    Yields property (pure value) := by
  rintro other same
  cases same
  exact holds

theorem yields_error
    {property : α -> Prop}
    (cause : Cause) :
    Yields property (.error cause) := by
  rintro value impossible
  cases impossible

/-- What the first of two checks yields can be used for the second. -/
theorem yields_bind
    {property : α -> Prop}
    {conclusion : β -> Prop}
    {check : Except Cause α}
    {rest : α -> Except Cause β}
    (first : Yields property check)
    (second : ∀ value, property value -> Yields conclusion (rest value)) :
    Yields conclusion (check >>= rest) := by
  cases check with
  | ok value => exact second value (first value rfl)
  | error cause => exact yields_error cause

end

/-! ## Values that disrupt a step -/

/-- What disrupts the writing, if anything does. -/
def Disruption.ofShown? : Except Disruption String -> Option Disruption
  | .ok _ => none
  | .error disruption => some disruption

/-- What comes out of a value from the input channel while it is looked at, if anything does.  It
is asked which number it is, and unless it is a character code, it is to be shown. -/
def Value.disruption? : Value -> Option Disruption
  | .integer number =>
      if 0 ≤ number ∧ number ≤ 32767 then none else Disruption.ofShown? (shownNumber number)
  | .evasive disruption _ => some disruption
  | value => Disruption.ofShown? value.display

/-- A number disrupts whoever looks at it exactly if it is too long to be written. -/
theorem Value.disruption?_integer (number : Int) :
    (Value.integer number).disruption? =
      if Text.Numeral.leastUnwritten ≤ number.natAbs then
        some (.failure .overlong)
      else
        none := by
  have enough := Text.Numeral.le_leastUnwritten
  rw [disruption?]
  by_cases long : Text.Numeral.leastUnwritten ≤ number.natAbs
  · rw [if_pos long, if_neg (by omega), shownNumber_of_le long]
    rfl
  · rw [if_neg long, shownNumber_of_lt (Nat.lt_of_not_le long)]
    exact ite_self none

/-- Only the text to be shown can turn a refused value into a failure that nothing absorbs. -/
theorem Refusal.showing_eq_disruption_iff
    {cause : String -> Cause}
    {shown : Except Disruption String}
    {disruption : Disruption} :
    (Except.error (Refusal.showing cause shown) : Except Refusal Word) =
        .error (.disruption disruption) ↔
      Disruption.ofShown? shown = some disruption := by
  cases shown <;> simp [Refusal.showing, Disruption.ofShown?]

/-- Where an effect makes execution go on, unless that is the next instruction. -/
def Effect.target? (pc : Address) : Effect -> Option Address
  | .halt => some pc
  | .jump target | .call target | .leave target => some target
  | .proceed | .assign .. | .push _ | .pop .. | .poke .. => none

namespace Machine

/-- Changes the machine as an effect says, if the next instruction is at the given address.  The
program counter stays where it is. -/
def enact
    (machine : Machine)
    (next : Address) : Effect -> Machine
  | .halt => { machine with condition := .halted }
  | .proceed | .jump _ => machine
  | .assign target word => machine.store target word
  | .push word => { machine with stack := word :: machine.stack }
  | .pop target top => { machine.store target top with stack := machine.stack.tail }
  | .poke address word => { machine with memory := machine.memory.set address word }
  | .call _ => { machine with stack := next.toWord :: machine.stack }
  | .leave _ => { machine with stack := machine.stack.tail }

/-- An effect is put into force first; the program counter then goes where the effect sends it,
or past the instruction. -/
theorem apply_eq
    (machine : Machine)
    (opcode : Opcode)
    (effect : Effect) :
    machine.apply opcode effect =
      { machine.enact (machine.pc.advance opcode.width) effect with
        pc := (effect.target? machine.pc).getD (machine.pc.advance opcode.width)
        executed := machine.executed + 1 } := by
  cases effect with
  | assign target word => cases target <;> rfl
  | pop target top => cases target <;> rfl
  | _ => rfl

/-- Of all effects only a halt ends a running program. -/
theorem condition_apply
    (machine : Machine)
    (opcode : Opcode)
    (effect : Effect) :
    (machine.apply opcode effect).condition =
      if effect = .halt then .halted else machine.condition := by
  cases effect with
  | assign target word => cases target <;> rfl
  | pop target top => cases target <;> rfl
  | _ => rfl

theorem executed_enact
    (machine : Machine)
    (next : Address)
    (effect : Effect) :
    (machine.enact next effect).executed = machine.executed := by
  cases effect with
  | assign target word => cases target <;> rfl
  | pop target top => cases target <;> rfl
  | _ => rfl

theorem stack_store
    (machine : Machine)
    (target : Operand)
    (word : Word) : (machine.store target word).stack = machine.stack := by
  cases target <;> rfl

/-! ## Actions -/

/-- Carries out what an instruction asks for. -/
def carryOut {World : Type}
    (channels : Channels World)
    (machine : Machine)
    (world : World)
    (opcode : Opcode) : Action -> Outcome World
  | .settle effect => { machine := machine.apply opcode effect, world }
  | .send code =>
      match channels.write code.toNat world with
      | (⟨.done _, notices⟩, world) =>
          { machine := machine.apply opcode .proceed, world, notices }
      | (⟨.failed failure, notices⟩, world) =>
          machine.faultOutcome (.outputFailed failure) world notices
      | (⟨.interrupted words, notices⟩, world) =>
          { machine, world, notices, interrupted := some (.interruption words) }
  | .receive target =>
      match channels.read world with
      | (.done value, world) =>
          match receivedWord value with
          | .ok word => { machine := machine.apply opcode (.assign target word), world }
          | .error (.fault cause) => machine.faultOutcome cause world []
          | .error (.disruption disruption) => { machine, world, interrupted := some disruption }
      | (.failed failure, world) => machine.faultOutcome (readCause failure) world []
      | (.interrupted words, world) =>
          { machine, world, interrupted := some (.interruption words) }

section

variable
  {World : Type}
  {channels : Channels World}
  {machine : Machine}
  {world : World}

/-- The values that are accepted are the numbers of fifteen-bit words. -/
theorem receivedWord_eq_ok_iff
    {value : Value}
    {word : Word} :
    receivedWord value = .ok word ↔ value = .integer word.toNat ∧ word.toNat < 32768 := by
  cases value with
  | integer number =>
      unfold receivedWord
      dsimp only
      split
      · next inRange =>
          have small : number.toNat < 65536 := by omega
          rw [Except.ok.injEq, ← UInt16.toNat_inj, UInt16.toNat_ofNat_of_lt' small,
            Value.integer.injEq]
          omega
      · next outOfRange =>
          rw [Value.integer.injEq]
          refine iff_of_false (fun impossible => nomatch impossible) ?_
          omega
  | _ => simp [receivedWord]

/-- Receiving a value fails past the step's own handling exactly if converting or showing the
value does. -/
theorem receivedWord_eq_disruption_iff
    {value : Value}
    {disruption : Disruption} :
    receivedWord value = .error (.disruption disruption) ↔ value.disruption? = some disruption := by
  cases value with
  | integer number =>
      rw [receivedWord, Value.disruption?]
      by_cases inRange : 0 ≤ number ∧ number < 32768
      · rw [if_pos inRange, if_pos (by omega)]
        simp
      · rw [if_neg inRange, if_neg (by omega)]
        exact Refusal.showing_eq_disruption_iff
  | evasive other written => simp [receivedWord, Value.disruption?]
  | _ => exact Refusal.showing_eq_disruption_iff

/-- A value that came out as a word or as a fault was converted and shown without a failure. -/
theorem disruption?_of_refused
    {value : Value}
    {result : Except Refusal Word}
    (received : receivedWord value = result)
    (undisrupted : ∀ disruption, result ≠ .error (.disruption disruption)) :
    value.disruption? = none := by
  rw [Option.eq_none_iff_forall_ne_some]
  intro disruption disrupts
  exact undisrupted disruption (received.symm.trans (receivedWord_eq_disruption_iff.mpr disrupts))

/-- Nothing comes out of a value that is accepted. -/
theorem disruption?_of_ok
    {value : Value}
    {word : Word}
    (received : receivedWord value = .ok word) : value.disruption? = none :=
  disruption?_of_refused received fun _ impossible => nomatch impossible

/-- Nothing comes out of a value because of which the machine faults. -/
theorem disruption?_of_fault
    {value : Value}
    {cause : Cause}
    (received : receivedWord value = .error (.fault cause)) : value.disruption? = none :=
  disruption?_of_refused received fun _ impossible => nomatch impossible

theorem status_eq_running_iff :
    machine.status = .running ↔ machine.condition = .running := by
  unfold status
  cases machine.condition <;> simp

theorem status_eq_faulted_iff :
    machine.status = .faulted ↔ ∃ fault, machine.condition = .faulted fault := by
  unfold status
  cases machine.condition <;> simp

theorem fault?_eq_some_iff {fault : Fault} :
    machine.fault? = some fault ↔ machine.condition = .faulted fault := by
  unfold fault?
  cases machine.condition <;> simp

theorem fault?_of_running (running : machine.condition = .running) :
    machine.fault? = none := by
  rw [fault?, running]

/-- A machine with a recorded fault no longer runs. -/
theorem stopped_of_fault?
    {fault : Fault}
    (faulted : machine.fault? = some fault) : machine.condition ≠ .running := by
  intro running
  rw [fault?_of_running running] at faulted
  cases faulted

/-- An instruction that is executed does not fault. -/
theorem fault?_apply
    (running : machine.condition = .running)
    (opcode : Opcode)
    (effect : Effect) : (machine.apply opcode effect).fault? = none := by
  rw [fault?, condition_apply, running]
  by_cases halts : effect = .halt
  · rw [if_pos halts]
  · rw [if_neg halts]

/-- A machine that runs carries out its plan, or faults because it has none. -/
theorem step_running (running : machine.condition = .running) :
    machine.step channels world =
      match machine.plan with
      | .ok (opcode, action) => machine.carryOut channels world opcode action
      | .error cause => machine.faultOutcome cause world [] := by
  rw [step, running]
  cases plan : machine.plan with
  | error cause => rfl
  | ok instruction =>
      obtain ⟨opcode, action⟩ := instruction
      cases action <;> rfl

/-- A word that names no opcode makes the step a fault; no channel is called. -/
theorem step_unknown
    (running : machine.condition = .running)
    (unknown : machine.opcode? = none) :
    machine.step channels world =
      machine.faultOutcome
        (.unknownOpcode (machine.memory.get machine.pc) machine.pc) world [] := by
  rw [step_running running, plan, unknown]

/-- A step of a running machine on a known opcode plans first, without touching machine or
channels, and then carries out the plan. -/
theorem step_known
    {opcode : Opcode}
    (running : machine.condition = .running)
    (known : machine.opcode? = some opcode) :
    machine.step channels world =
      match machine.planOpcode opcode with
      | .ok action => machine.carryOut channels world opcode action
      | .error cause => machine.faultOutcome cause world [] := by
  rw [step_running running, plan, known]
  dsimp only
  cases machine.planOpcode opcode <;> rfl

/-- A plan is made for the opcode at the program counter. -/
theorem plan_eq_ok_iff
    {opcode : Opcode}
    {action : Action} :
    machine.plan = .ok (opcode, action) ↔
      machine.opcode? = some opcode ∧ machine.planOpcode opcode = .ok action := by
  unfold plan
  cases machine.opcode? with
  | none => simp
  | some found =>
      simp only [Option.some.injEq]
      constructor
      · intro planned
        cases plannedFound : machine.planOpcode found with
        | error cause =>
            rw [plannedFound] at planned
            cases planned
        | ok other =>
            rw [plannedFound] at planned
            cases planned
            exact ⟨rfl, plannedFound⟩
      · rintro ⟨rfl, planned⟩
        rw [planned]
        rfl

/-- A machine that does not run stays as it is. -/
theorem step_stopped (stopped : machine.condition ≠ .running) :
    machine.step channels world = { machine, world } := by
  unfold step
  split
  · contradiction
  · rfl

end

/-! ## Plans that call no channel -/

/-- An action that changes the machine alone. -/
def Settles (action : Action) : Prop :=
  ∃ effect, action = .settle effect

theorem yields_settle (effect : Effect) :
    Yields Settles (pure (.settle effect)) :=
  yields_pure ⟨effect, rfl⟩

/-- A check that is made before a settled plan leaves it settled, or faults. -/
theorem yields_settle_bind
    {α : Type}
    {check : Except Cause α}
    {rest : α -> Except Cause Action}
    (settles : ∀ value, Yields Settles (rest value)) :
    Yields Settles (check >>= rest) :=
  yields_bind (yields_true check) fun value _ => settles value

/-- No binary operation calls a channel. -/
theorem settles_planBinary
    (machine : Machine)
    (operation : Word -> Word -> Word) :
    Yields Settles (machine.planBinary operation) :=
  yields_settle_bind fun _ => yields_settle_bind fun _ => yields_settle_bind fun _ =>
    yields_settle _

/-- No conditional jump calls a channel. -/
theorem settles_planBranch
    (machine : Machine)
    (taken : Word -> Bool) :
    Yields Settles (machine.planBranch taken) := by
  refine yields_settle_bind ?_
  intro word
  cases taken word with
  | true => exact yields_settle_bind fun _ => yields_settle_bind fun _ => yields_settle _
  | false => exact yields_settle _

/-- Only output and input call a channel. -/
theorem settles_planOpcode
    (machine : Machine)
    {opcode : Opcode}
    (notOutput : opcode ≠ .output)
    (notInput : opcode ≠ .input) :
    Yields Settles (machine.planOpcode opcode) := by
  cases opcode with
  | halt | noop => exact yields_settle _
  | push => exact yields_settle_bind fun _ => yields_settle _
  | set | bitNot | jump | call =>
      exact yields_settle_bind fun _ => yields_settle_bind fun _ => yields_settle _
  | readMemory | writeMemory =>
      exact yields_settle_bind fun _ => yields_settle_bind fun _ => yields_settle_bind fun _ =>
        yields_settle _
  | equal | greater | add | multiply | bitAnd | bitOr => exact settles_planBinary machine _
  | jumpIf | jumpUnless => exact settles_planBranch machine _
  | modulo =>
      refine yields_settle_bind ?_
      intro divisor
      by_cases zero : divisor = 0
      · rw [if_pos zero]
        exact yields_error _
      · rw [if_neg zero]
        exact yields_settle_bind fun _ => yields_settle_bind fun _ => yields_settle _
  | pop =>
      unfold planOpcode
      cases machine.stack with
      | nil => exact yields_error _
      | cons top rest => exact yields_settle_bind fun _ => yields_settle _
  | ret =>
      unfold planOpcode
      cases machine.stack with
      | nil => exact yields_settle _
      | cons top rest => exact yields_settle_bind fun _ => yields_settle _
  | output => contradiction
  | input => contradiction

/-- Only input reads. -/
theorem opcode_of_receive
    {machine : Machine}
    {opcode : Opcode}
    {target : Operand}
    (planned : machine.planOpcode opcode = .ok (.receive target)) : opcode = .input := by
  by_cases input : opcode = .input
  · exact input
  · by_cases output : opcode = .output
    · subst output
      rw [planOpcode] at planned
      cases sourced : machine.source 1 <;> rw [sourced] at planned <;> cases planned
    · obtain ⟨effect, impossible⟩ := settles_planOpcode machine output input _ planned
      cases impossible

end Machine
end WordMachine
