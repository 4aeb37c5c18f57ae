import WordMachine.File.Tree
import WordMachine.Image
import WordMachine.Channel.Desk
import WordMachine.System.Run

/-!
# The bench

A bench keeps machines, sources, sinks and snapshots under names, together with
the files they are made from and the journal.  Work on it is written in
`Bench.Work`, where trouble ends the work at hand and what was done before stays
done.
-/

namespace WordMachine

/-- A machine and the numbers of the source and the sink that its channels lead to. -/
structure Station where
  /-- The machine. -/
  machine : Machine
  /-- The source behind the input channel. -/
  input : Option Nat := none
  /-- The sink behind the output channel. -/
  output : Option Nat := none

/-- Everything that is kept under a name, and what it is made from. -/
structure Bench where
  /-- What was recorded. -/
  journal : Journal
  /-- The files. -/
  files : FileTree := FileTree.empty
  /-- The sources and sinks. -/
  desk : Desk := {}
  /-- The names of sources. -/
  sources : List (Text × Nat) := []
  /-- The names of sinks. -/
  sinks : List (Text × Nat) := []
  /-- The machines. -/
  stations : List (Text × Station) := []
  /-- The snapshots. -/
  snapshots : List (Text × Snapshot) := []

/-- Why work on a bench ends early. -/
inductive Trouble where
  /-- Nothing is kept under the name. -/
  | unknownName (name : Text)
  /-- The name is kept for something that cannot do the work. -/
  | unsuitable (name : Text)
  /-- A channel failed, or what it delivered did. -/
  | channel (failure : Failure)
  /-- A channel was interrupted, with the given words. -/
  | interrupted (words : Text)
  /-- A file could not be read. -/
  | file (failure : FileFailure)
  /-- A file holds no text. -/
  | undecodable
  /-- There is no register with the number. -/
  | noRegister (shown : String)
  /-- There is no cell with the number. -/
  | noCell (shown : String)
  /-- A number denotes no operand. -/
  | operand (cause : Cause)
  /-- A view of memory does not allow assignments. -/
  | readOnly

/-- The words for trouble. -/
def Trouble.message : Trouble -> Text
  | .unknownName name => Text.quoted name
  | .unsuitable name => name
  | .channel failure => failure.text
  | .interrupted words => words
  | .file failure => failure.message
  | .undecodable => ""
  | .noRegister shown => s!"register index {shown} outside 0..7"
  | .noCell shown => s!"memory address {shown} outside 0..32767"
  | .operand cause => cause.message
  | .readOnly => "assignment destination is read-only"

/-- The trouble that a disruption makes. -/
def Trouble.ofDisruption : Disruption -> Trouble
  | .interruption words => .interrupted words
  | .failure failure => .channel failure

/-- The trouble that tells about something to be shown. -/
def Trouble.showing (trouble : String -> Trouble) : Except Disruption String -> Trouble
  | .ok shown => trouble shown
  | .error disruption => .ofDisruption disruption

namespace Bench

/-- Work on a bench. -/
abbrev Work (α : Type) : Type :=
  ExceptT Trouble (StateM Bench) α

/-- What is kept under a name. -/
def named {α : Type}
    (entries : Bench -> List (Text × α))
    (name : Text) : Work α := do
  match (entries (← get)).lookup name with
  | some entry => return entry
  | none => throw (.unknownName name)

/-- Records notices. -/
def recordAll (notices : List Notice) : Work Unit :=
  modify fun bench => { bench with journal := bench.journal.recordAll notices }

/-- The value of a reply. -/
def ofReply {α : Type} : Reply α -> Work α
  | .done value => return value
  | .failed failure => throw (.channel failure)
  | .interrupted words => throw (.interrupted words)

/-- Stores a file, if there are contents for it. -/
def writeFile
    (path : Path)
    (contents : Option (Array UInt8)) : Work Unit :=
  match contents with
  | some bytes => modify fun bench => { bench with files := bench.files.write path bytes }
  | none => return

/-- The contents of a file. -/
def readFile (path : Path) : Work (Array UInt8) := do
  match (← get).files.read path with
  | .ok bytes => return bytes
  | .error failure => throw (.file failure)

/-- The script of a text file. -/
def readScript (path : Path) : Work Script := do
  match Script.ofBytes? (← readFile path).toList with
  | some script => return script
  | none => throw .undecodable

end Bench
end WordMachine
