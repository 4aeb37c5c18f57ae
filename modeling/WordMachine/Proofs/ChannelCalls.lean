import WordMachine.Proofs.Step

/-!
# Calls of channels

Recorded channels do what the channels do, and list their calls with the replies.
`Machine.channelCalls` is the list of one step: it is empty, or holds the one
call that the plan of the step asks for.
-/

namespace WordMachine

variable {World : Type}

/-- A call of a channel, with its reply. -/
inductive ChannelCall where
  /-- A value was read. -/
  | read (reply : Reply Value)
  /-- A character code was written. -/
  | write (code : Int) (reply : Reply Unit)

/-- What disrupts whoever made a call: an interruption, or what comes out of the value that was
delivered. -/
def ChannelCall.disruption? : ChannelCall -> Option Disruption
  | .read (.interrupted words) | .write _ (.interrupted words) => some (.interruption words)
  | .read (.done value) => value.disruption?
  | .read (.failed _) | .write _ _ => none

/-- Channels with nothing behind them: there is no input, and output is lost. -/
def Channels.vacant : Channels Unit where
  read := fun world => (.failed { kind := .endOfInput }, world)
  write := fun _ world => ({ reply := .done () }, world)

/-- Channels with one value behind them, which every read delivers, while output is lost. -/
def Channels.delivering (value : Value) : Channels Unit where
  read := fun world => (.done value, world)
  write := fun _ world => ({ reply := .done () }, world)

/-- The channels in a world that lists the calls, the earliest first. -/
def Channels.recorded (channels : Channels World) : Channels (World × List ChannelCall) where
  read := fun (world, calls) =>
    let (reply, world) := channels.read world
    (reply, (world, calls ++ [.read reply]))
  write := fun code (world, calls) =>
    let (receipt, world) := channels.write code world
    (receipt, (world, calls ++ [.write code receipt.reply]))

theorem Channels.read_recorded
    (channels : Channels World)
    (world : World)
    (calls : List ChannelCall) :
    channels.recorded.read (world, calls) =
      ((channels.read world).1, (channels.read world).2,
        calls ++ [.read (channels.read world).1]) :=
  rfl

theorem Channels.write_recorded
    (channels : Channels World)
    (code : Int)
    (world : World)
    (calls : List ChannelCall) :
    channels.recorded.write code (world, calls) =
      ((channels.write code world).1, (channels.write code world).2,
        calls ++ [.write code (channels.write code world).1.reply]) :=
  rfl

/-- The call that an action makes. -/
def Action.channelCalls
    (channels : Channels World)
    (world : World) : Action -> List ChannelCall
  | .settle _ => []
  | .send code => [.write code.toNat (channels.write code.toNat world).1.reply]
  | .receive _ => [.read (channels.read world).1]

namespace Machine

/-- The calls that a step makes. -/
def channelCalls
    (channels : Channels World)
    (machine : Machine)
    (world : World) : List ChannelCall :=
  (machine.step channels.recorded (world, [])).world.2

/-- An outcome in a world that lists the calls. -/
def Outcome.recording
    (outcome : Outcome World)
    (calls : List ChannelCall) : Outcome (World × List ChannelCall) where
  machine := outcome.machine
  world := (outcome.world, calls)
  notices := outcome.notices
  interrupted := outcome.interrupted

section

variable
  (channels : Channels World)
  {machine : Machine}
  (world : World)
  (calls : List ChannelCall)

/-- Recording the calls of the channels changes nothing else in carrying out an action. -/
theorem carryOut_recorded
    (opcode : Opcode)
    (action : Action) :
    machine.carryOut channels.recorded (world, calls) opcode action =
      (machine.carryOut channels world opcode action).recording
        (calls ++ action.channelCalls channels world) := by
  cases action with
  | settle effect => simp [carryOut, Action.channelCalls, Outcome.recording]
  | send code =>
      unfold carryOut Action.channelCalls
      dsimp only
      rw [Channels.write_recorded]
      rcases channels.write code.toNat world with ⟨⟨reply, notices⟩, after⟩
      cases reply <;> rfl
  | receive target =>
      unfold carryOut Action.channelCalls
      dsimp only
      rw [Channels.read_recorded]
      rcases channels.read world with ⟨reply, after⟩
      cases reply with
      | done value =>
          dsimp only
          rcases receivedWord value with (_ | _) | _ <;> rfl
      | failed failure => rfl
      | interrupted words => rfl

theorem channelCalls_of_stopped (stopped : machine.condition ≠ .running) :
    machine.channelCalls channels world = [] := by
  rw [channelCalls, step_stopped stopped]

/-- An instruction that faults while it is planned calls no channel. -/
theorem channelCalls_of_error
    {cause : Cause}
    (running : machine.condition = .running)
    (planned : machine.plan = .error cause) :
    machine.channelCalls channels world = [] := by
  rw [channelCalls, step_running running, planned]
  rfl

/-- A step calls the channels as its planned action does. -/
theorem channelCalls_of_ok
    {opcode : Opcode}
    {action : Action}
    (running : machine.condition = .running)
    (planned : machine.plan = .ok (opcode, action)) :
    machine.channelCalls channels world = action.channelCalls channels world := by
  rw [channelCalls, step_running running, planned]
  dsimp only
  rw [carryOut_recorded]
  rfl

/-- A write is the one that was planned. -/
theorem planned_of_write_mem
    {code : Int}
    {reply : Reply Unit}
    (written : .write code reply ∈ machine.channelCalls channels world) :
    ∃ opcode, ∃ word : Word,
      machine.plan = .ok (opcode, .send word) ∧
        code = word.toNat ∧
        reply = (channels.write word.toNat world).1.reply := by
  by_cases running : machine.condition = .running
  · cases planned : machine.plan with
    | error cause =>
        rw [channelCalls_of_error channels world running planned] at written
        cases written
    | ok instruction =>
        obtain ⟨opcode, action⟩ := instruction
        rw [channelCalls_of_ok channels world running planned] at written
        cases action with
        | settle effect => cases written
        | receive target => cases List.mem_singleton.mp written
        | send word =>
            cases List.mem_singleton.mp written
            exact ⟨opcode, word, rfl, rfl, rfl⟩
  · rw [channelCalls_of_stopped channels world running] at written
    cases written

/-- A read is replied to by the input channel. -/
theorem reply_of_read_mem
    {reply : Reply Value}
    (read : .read reply ∈ machine.channelCalls channels world) :
    reply = (channels.read world).1 := by
  by_cases running : machine.condition = .running
  · cases planned : machine.plan with
    | error cause =>
        rw [channelCalls_of_error channels world running planned] at read
        cases read
    | ok instruction =>
        obtain ⟨opcode, action⟩ := instruction
        rw [channelCalls_of_ok channels world running planned] at read
        cases action with
        | settle effect => cases read
        | send word => cases List.mem_singleton.mp read
        | receive target =>
            cases List.mem_singleton.mp read
            rfl
  · rw [channelCalls_of_stopped channels world running] at read
    cases read

end

end Machine
end WordMachine
