import WordMachine.Channel.Chain
import WordMachine.Channel.Collector
import WordMachine.Channel.LineBuffer
import WordMachine.Channel.Script
import WordMachine.Channel.Terminal

/-!
# Sources and sinks

A desk holds numbered sources and sinks.  Machines and chains refer to them by
their numbers, so that several of them can share one.  The members of a chain
have smaller numbers than the chain.
-/

namespace WordMachine

/-- Something to read from. -/
inductive Source where
  /-- No input at all. -/
  | vacant
  /-- A script. -/
  | script (script : Script)
  /-- Lines from a stream. -/
  | lines (buffer : LineBuffer)
  /-- Replies that are known beforehand. -/
  | replies (pending : List (Reply Value))
  /-- Other sources, one after the other. -/
  | chain (members : List Nat)

/-- Something to write to. -/
inductive Sink where
  /-- Discards all output. -/
  | discard
  /-- Keeps all output. -/
  | collector (collector : Collector)
  /-- Writes to a stream. -/
  | terminal (terminal : Terminal)

namespace Sink

/-- Writes one code. -/
def write
    (code : Int) : Sink -> Receipt × Sink
  | .discard => ({ reply := .done () }, .discard)
  | .collector kept =>
      let (reply, kept) := kept.write code
      ({ reply }, .collector kept)
  | .terminal screen =>
      let (receipt, screen) := screen.write code
      (receipt, .terminal screen)

end Sink

/-- Numbered sources and sinks. -/
structure Desk where
  /-- The sources. -/
  sources : Array Source := #[]
  /-- The sinks. -/
  sinks : Array Sink := #[]

namespace Desk

/-- Reads from what no source is behind. -/
def vacantReply : Reply Value :=
  .failed (.endOfInput "no input port attached")

/-- Replaces a source. -/
def putSource
    (desk : Desk)
    (number : Nat)
    (source : Source) : Desk :=
  { desk with sources := desk.sources.setIfInBounds number source }

/-- Replaces a sink. -/
def putSink
    (desk : Desk)
    (number : Nat)
    (sink : Sink) : Desk :=
  { desk with sinks := desk.sinks.setIfInBounds number sink }

/-- Reads from a numbered source, going through at most `depth` nested chains. -/
def readWithin : (depth number : Nat) -> Desk -> Reply Value × Desk
  | 0, _, desk => (vacantReply, desk)
  | depth + 1, number, desk =>
      match desk.sources[number]? with
      | none | some .vacant => (vacantReply, desk)
      | some (.script script) =>
          let (reply, script) := script.read
          (reply, desk.putSource number (.script script))
      | some (.lines buffer) =>
          let (reply, buffer) := buffer.read
          (reply, desk.putSource number (.lines buffer))
      | some (.replies []) => (.failed (.endOfInput "values exhausted"), desk)
      | some (.replies (reply :: pending)) => (reply, desk.putSource number (.replies pending))
      | some (.chain members) =>
          let (reply, members, desk) := Chain.read (readWithin depth) members desk
          (reply, desk.putSource number (.chain members))

/-- Reads from a numbered source. -/
def read
    (number : Nat)
    (desk : Desk) : Reply Value × Desk :=
  readWithin (number + 1) number desk

/-- Writes to a numbered sink. -/
def write
    (number : Nat)
    (code : Int)
    (desk : Desk) : Receipt × Desk :=
  match desk.sinks[number]? with
  | some sink =>
      let (receipt, sink) := sink.write code
      (receipt, desk.putSink number sink)
  | none => ({ reply := .done () }, desk)

/-- The channels to the given source and sink.  Without a source there is no input, and without a
sink output is discarded. -/
def channels (input output : Option Nat) : Channels Desk where
  read desk :=
    match input with
    | some number => desk.read number
    | none => (vacantReply, desk)
  write code desk :=
    match output with
    | some number => desk.write number code
    | none => ({ reply := .done () }, desk)

end Desk
end WordMachine
