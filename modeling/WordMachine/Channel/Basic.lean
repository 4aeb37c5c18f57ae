import WordMachine.Log.Notice
import WordMachine.Channel.Value

/-!
# Channels

A machine reaches the outside world through an input and an output channel.  The
channels of a world are two functions on it: what they are connected to, and in
which order it answers, is all part of the world.
-/

namespace WordMachine

/-- What a write comes back with. -/
structure Receipt where
  /-- Whether the write succeeded. -/
  reply : Reply Unit
  /-- What the channel has to tell about it. -/
  notices : List Notice := []

/-- The two channels of a machine. -/
structure Channels (World : Type) where
  /-- Reads one character code, or whatever the channel delivers in its place. -/
  read : World -> Reply Value × World
  /-- Writes one character code. -/
  write : Int -> World -> Receipt × World

end WordMachine
