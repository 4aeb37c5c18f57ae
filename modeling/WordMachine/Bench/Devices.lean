import WordMachine.Bench.Basic

/-!
# Named sources and sinks

How sources and sinks are put on a bench, and how they are used from there.
-/

namespace WordMachine

/-- How a source is made. -/
inductive SourceDesign where
  /-- A new source that depends on nothing else. -/
  | simple (source : Source)
  /-- A script of the text in a file, which is stored first if contents are given. -/
  | scriptFile (path : Path) (contents : Option (Array UInt8))
  /-- A chain of sources. -/
  | chain (members : List SourceDesign)
  /-- A source that is kept already. -/
  | named (name : Text)

namespace Bench

/-- Puts a source on the desk and gives its number. -/
def addSource (source : Source) : Work Nat := do
  let number := (← get).desk.sources.size
  modify fun bench => { bench with desk.sources := bench.desk.sources.push source }
  return number

mutual

/-- Makes a source and gives its number. -/
def makeSource : SourceDesign -> Work Nat
  | .simple source => addSource source
  | .scriptFile path contents => do
      writeFile path contents
      addSource (.script (← readScript path))
  | .chain members => do
      addSource (.chain (← makeSources members))
  | .named name => named Bench.sources name

/-- Makes several sources and gives their numbers. -/
def makeSources : List SourceDesign -> Work (List Nat)
  | [] => return []
  | design :: designs => do
      let number ← makeSource design
      return number :: (← makeSources designs)

end

/-- Makes a source and keeps it under a name. -/
def defineSource
    (name : Text)
    (design : SourceDesign) : Work Unit := do
  let number ← makeSource design
  modify fun bench => { bench with sources := (name, number) :: bench.sources }

/-- Keeps a sink under a name. -/
def defineSink
    (name : Text)
    (sink : Sink) : Work Unit :=
  modify fun bench =>
    { bench with
      sinks := (name, bench.desk.sinks.size) :: bench.sinks
      desk.sinks := bench.desk.sinks.push sink }

/-- The source kept under a name. -/
def source (name : Text) : Work Source := do
  let number ← named Bench.sources name
  match (← get).desk.sources[number]? with
  | some source => return source
  | none => throw (.unknownName name)

/-- The sink kept under a name. -/
def sink (name : Text) : Work Sink := do
  let number ← named Bench.sinks name
  match (← get).desk.sinks[number]? with
  | some sink => return sink
  | none => throw (.unknownName name)

/-- Replaces the sink kept under a name. -/
def putSink
    (name : Text)
    (sink : Sink) : Work Unit := do
  let number ← named Bench.sinks name
  modify fun bench => { bench with desk := bench.desk.putSink number sink }

/-- Reads from the source kept under a name. -/
def read (name : Text) : Work Value := do
  let number ← named Bench.sources name
  let (reply, desk) := (← get).desk.read number
  modify fun bench => { bench with desk }
  ofReply reply

/-- The script kept under a name. -/
def script (name : Text) : Work Script := do
  match ← source name with
  | .script script => return script
  | _ => throw (.unsuitable name)

/-- Adds text to the script kept under a name. -/
def feed
    (name text : Text) : Work Unit := do
  let script ← script name
  let number ← named Bench.sources name
  modify fun bench =>
    { bench with desk := bench.desk.putSource number (.script (script.feed text)) }

/-- How many characters of the script kept under a name have not been read. -/
def remaining (name : Text) : Work Nat :=
  return (← script name).remaining

/-- How many lines were asked for by the source kept under a name. -/
def lineCalls (name : Text) : Work Nat := do
  match ← source name with
  | .lines buffer => return buffer.feed.calls
  | _ => throw (.unsuitable name)

/-- Writes codes to the sink kept under a name, up to the first that it does not take. -/
def write
    (name : Text) : List Int -> Work Unit
  | [] => return
  | code :: codes => do
      let (receipt, sink) := (← sink name).write code
      putSink name sink
      recordAll receipt.notices
      ofReply receipt.reply
      write name codes

/-- The terminal kept under a name. -/
def terminal (name : Text) : Work Terminal := do
  match ← sink name with
  | .terminal terminal => return terminal
  | _ => throw (.unsuitable name)

/-- The collector kept under a name. -/
def collector (name : Text) : Work Collector := do
  match ← sink name with
  | .collector collector => return collector
  | _ => throw (.unsuitable name)

/-- Flushes the terminal kept under a name. -/
def flush (name : Text) : Work Unit := do
  let (receipt, terminal) := (← terminal name).flush
  putSink name (.terminal terminal)
  recordAll receipt.notices
  ofReply receipt.reply

/-- The text that the collector kept under a name holds. -/
def text (name : Text) : Work Text := do
  match (← collector name).text with
  | .ok text => return text
  | .error failure => throw (.channel failure)

/-- Empties the collector kept under a name. -/
def clear (name : Text) : Work Unit := do
  putSink name (.collector (← collector name).clear)

end Bench
end WordMachine
