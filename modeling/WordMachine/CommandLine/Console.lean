import WordMachine.Channel.Chain
import WordMachine.Channel.LineBuffer
import WordMachine.Channel.Script
import WordMachine.Channel.Terminal

/-!
# The console

The world of a machine that runs on the command line: input comes from a script,
if there is one, and then from the standard input, and output goes to a terminal.
-/

namespace WordMachine
namespace CommandLine

/-- Where input comes from. -/
inductive InputPart where
  /-- The script. -/
  | script
  /-- The standard input. -/
  | keyboard
deriving DecidableEq, Repr

/-- What the channels of the machine are connected to. -/
structure Console where
  /-- The parts of the input that may have more, in order. -/
  parts : List InputPart
  /-- The script. -/
  script : Script
  /-- The standard input. -/
  keyboard : LineBuffer
  /-- The standard output. -/
  terminal : Terminal

namespace Console

/-- A console with or without a script. -/
def new
    (script : Option Script)
    (input : LineFeed)
    (output : TextStream) : Console where
  parts := (script.map fun _ => InputPart.script).toList ++ [.keyboard]
  script := script.getD {}
  keyboard := { feed := input }
  terminal := { stream := output }

/-- Reads from one part of the input. -/
def readPart
    (part : InputPart)
    (console : Console) : Reply Value × Console :=
  match part with
  | .script =>
      let (reply, script) := console.script.read
      (reply, { console with script })
  | .keyboard =>
      let (reply, keyboard) := console.keyboard.read
      (reply, { console with keyboard })

/-- Reads from the first part of the input that has more. -/
def read (console : Console) : Reply Value × Console :=
  let (reply, parts, console) := Chain.read readPart console.parts console
  (reply, { console with parts })

/-- Writes to the terminal. -/
def write
    (code : Int)
    (console : Console) : Receipt × Console :=
  let (receipt, terminal) := console.terminal.write code
  (receipt, { console with terminal })

/-- The channels to the console. -/
def channels : Channels Console where
  read
  write

end Console
end CommandLine
end WordMachine
