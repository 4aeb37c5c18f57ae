import WordMachine.Snapshot.Change

/-!
# Notices

A notice is one event that the log records.  `Notice.level`, `Notice.origin` and
`Notice.message` say how it appears there.
-/

namespace WordMachine

/-- How important a notice is. -/
inductive Level where
  /-- Of use only to whoever traces a program. -/
  | debug
  /-- An ordinary event. -/
  | info
  /-- An event that may be unwanted. -/
  | warning
  /-- A failure. -/
  | error
  /-- A grave failure. -/
  | critical
deriving DecidableEq, Repr

namespace Level

/-- All levels, the least important first. -/
def all : List Level :=
  [.debug, .info, .warning, .error, .critical]

/-- The name in capital letters. -/
def name : Level -> String
  | .debug => "DEBUG"
  | .info => "INFO"
  | .warning => "WARNING"
  | .error => "ERROR"
  | .critical => "CRITICAL"

/-- The level with a given name. -/
def ofName? (name : Text) : Option Level :=
  all.find? fun level => Text.ofString level.name == name

/-- The place in the order of importance. -/
def rank : Level -> Nat
  | .debug => 0
  | .info => 1
  | .warning => 2
  | .error => 3
  | .critical => 4

theorem mem_all (level : Level) : level ∈ all := by
  cases level <;> decide

@[simp] theorem ofName?_name (level : Level) :
    ofName? level.name = some level := by
  cases level <;> decide +kernel

end Level

/-- The part of the system that a notice comes from. -/
inductive Origin where
  /-- The machine. -/
  | machine
  /-- The reader of program images. -/
  | image
  /-- The channels. -/
  | channel
  /-- The loop that runs a machine. -/
  | runner
  /-- The command line. -/
  | commandLine
  /-- The command line, where it is the main program. -/
  | mainProgram
deriving DecidableEq, Repr

/-- The name under which the log shows an origin. -/
def Origin.name : Origin -> String
  | .machine => "synacor.vm"
  | .image => "synacor.loader"
  | .channel => "synacor.ports"
  | .runner => "synacor.runner"
  | .commandLine => "synacor.cli"
  | .mainProgram => "__main__"

/-- An event that the log records. -/
inductive Notice where
  /-- A file was read. -/
  | imageRead (bytes : Nat) (path : Text)
  /-- An image was not used whole. -/
  | imageTruncated (bytes words : Nat)
  /-- Words were copied to the memory. -/
  | imageLoaded (words : Nat)
  /-- A machine faulted. -/
  | machineFaulted (fault : Fault)
  /-- Writing to the terminal failed. -/
  | outputFailed (failure : Failure)
  /-- Flushing the terminal failed. -/
  | flushFailed (failure : Failure)
  /-- A step of a traced run was made. -/
  | stepTraced (report : StepReport)
  /-- A run used up its budget. -/
  | budgetExhausted (budget : Int) (pc : Address)
  /-- A run ended because the program had ended. -/
  | programHalted (steps : Nat) (pc : Address)
  /-- A run ended because the machine had faulted. -/
  | programFaulted (steps : Nat) (fault : Fault)
  /-- A run was interrupted. -/
  | runInterrupted (origin : Origin) (pc : Address)
deriving DecidableEq, Repr

namespace Notice

/-- How important a notice is. -/
def level : Notice -> Level
  | .imageRead .. | .imageTruncated .. | .imageLoaded .. | .stepTraced .. => .debug
  | .programHalted .. => .info
  | .machineFaulted .. | .budgetExhausted .. | .programFaulted .. | .runInterrupted .. => .warning
  | .outputFailed .. | .flushFailed .. => .error

/-- Where a notice comes from. -/
def origin : Notice -> Origin
  | .imageRead .. | .imageTruncated .. => .image
  | .imageLoaded .. | .machineFaulted .. => .machine
  | .outputFailed .. | .flushFailed .. => .channel
  | .stepTraced .. | .budgetExhausted .. | .programHalted .. | .programFaulted .. => .runner
  | .runInterrupted origin _ => origin

/-- The words of a notice. -/
def message : Notice -> Text
  | .imageRead bytes path => s!"Read {bytes} bytes from " ++ path
  | .imageTruncated bytes words => s!"Image has {bytes} bytes; using the first {words} words"
  | .imageLoaded words => s!"Loaded {words} words"
  | .machineFaulted fault => "VM faulted: " ++ fault.describe
  | .outputFailed failure => "Terminal output failed, discarding output: " ++ failure.text
  | .flushFailed failure => "Terminal flush failed: " ++ failure.text
  | .stepTraced report => report.describe
  | .budgetExhausted budget pc =>
      s!"Step budget of {budget} exhausted at pc={pc.val} (0x{Text.hex 4 pc.val})"
  | .programHalted steps pc => s!"Program halted after {steps} steps at pc={pc.val}"
  | .programFaulted steps fault => s!"Program faulted after {steps} steps: " ++ fault.describe
  | .runInterrupted _ pc => s!"Interrupted at pc={pc.val}"

/-- The notice as one line of a log. -/
def line (notice : Notice) : Text :=
  (notice.level.name ++ " " ++ notice.origin.name ++ ": ") ++ notice.message

end Notice
end WordMachine
