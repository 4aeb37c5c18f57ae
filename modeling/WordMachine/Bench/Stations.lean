import WordMachine.Bench.Basic

/-!
# Named machines

How machines are put on a bench, run there, and looked at.
-/

namespace WordMachine
namespace Bench

/-- Keeps a machine under a name. -/
def putStation
    (name : Text)
    (station : Station) : Work Unit :=
  modify fun bench =>
    { bench with stations := (name, station) :: bench.stations.filter fun entry => entry.1 ≠ name }

/-- The number of a named channel, if there is a name. -/
def channel?
    (names : Bench -> List (Text × Nat)) : Option Text -> Work (Option Nat)
  | some name => some <$> named names name
  | none => return none

/-- A new machine between the source and the sink kept under the given names. -/
def newStation (input output : Option Text) : Work Station := do
  let output ← channel? Bench.sinks output
  let input ← channel? Bench.sources input
  return { machine := Machine.fresh, input, output }

/-- Puts a new machine under a name. -/
def addStation
    (name : Text)
    (input output : Option Text) : Work Machine := do
  let station ← newStation input output
  putStation name station
  return station.machine

/-- Copies an image into a machine and tells about it. -/
def loadInto
    (station : Station)
    (bytes : Array UInt8) : Work Station := do
  recordAll (Image.loadNotices bytes)
  return { station with machine := station.machine.loadImage bytes }

/-- Puts a new machine with the program from a file under a name.  The file is stored first if
contents are given. -/
def addStationFromFile
    (name : Text)
    (input output : Option Text)
    (path : Path)
    (contents : Option (Array UInt8)) : Work Machine := do
  writeFile path contents
  let station ← newStation input output
  let bytes ← readFile path
  recordAll [.imageRead bytes.size path.display]
  let station ← loadInto station bytes
  putStation name station
  return station.machine

/-- Copies an image into the machine kept under a name, and gives the number of words copied. -/
def load
    (name : Text)
    (bytes : Array UInt8) : Work Nat := do
  let station ← named Bench.stations name
  putStation name (← loadInto station bytes)
  return (Image.decode bytes).length

/-- Lets a part of the bench work as a system. -/
def operate {α : Type}
    (name : Text)
    (operation : Channels Desk -> System Desk -> α × System Desk) : Work α := do
  let station ← named Bench.stations name
  let bench ← get
  let system : System Desk :=
    { machine := station.machine, world := bench.desk, journal := bench.journal }
  let (answer, system) := operation (Desk.channels station.input station.output) system
  set { bench with desk := system.world, journal := system.journal }
  putStation name { station with machine := system.machine }
  return answer

/-- The machine kept under a name. -/
def machine (name : Text) : Work Machine :=
  return (← named Bench.stations name).machine

/-- Executes one instruction. -/
def step (name : Text) : Work Machine := do
  match ← operate name System.step with
  | some disruption => throw (.ofDisruption disruption)
  | none => machine name

/-- Executes one instruction and reports on it. -/
def reportedStep (name : Text) : Work StepReport := do
  match ← operate name System.reportedStep with
  | .ok report => return report
  | .error disruption => throw (.ofDisruption disruption)

/-- Runs a machine, making at most as many steps as the fuel allows. -/
def run
    (name : Text)
    (options : RunOptions)
    (fuel : Nat) : Work RunReply := do
  match ← operate name fun channels => System.run channels options fuel 0 with
  | .interrupted disruption _ => throw (.ofDisruption disruption)
  | reply => return reply

/-- The register with any number. -/
def register
    (name : Text)
    (index : Int) : Work Word := do
  match (← machine name).register? index with
  | some word => return word
  | none => throw (.showing .noRegister (shownNumber index))

/-- The cell at any number. -/
def cell
    (name : Text)
    (address : Int) : Work Word := do
  match (← machine name).cell? address with
  | some word => return word
  | none => throw (.showing .noCell (shownNumber address))

/-- The value of any number as a source operand. -/
def resolve
    (name : Text)
    (operand : Int) : Work Int := do
  match (← machine name).resolve operand with
  | .ok value => return value
  | .error (.fault cause) => throw (.operand cause)
  | .error (.disruption disruption) => throw (.ofDisruption disruption)

/-- Refuses to assign to a cell through a view of the memory. -/
def assignThroughView (name : Text) : Work Unit := do
  let _ ← machine name
  throw .readOnly

/-- Keeps a snapshot of a machine under a name of its own. -/
def takeSnapshot (machineName name : Text) : Work Unit := do
  let snapshot := (← machine machineName).snapshot
  modify fun bench => { bench with snapshots := (name, snapshot) :: bench.snapshots }

end Bench
end WordMachine
