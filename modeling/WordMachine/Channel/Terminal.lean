import WordMachine.Channel.Basic
import WordMachine.Channel.CodePoint
import WordMachine.Channel.Stream

/-!
# Terminal output

A terminal writes characters to a text stream and flushes it after each line
feed.  The first trouble with the stream is told once; from then on the terminal
discards all output and does not touch the stream again.
-/

namespace WordMachine

/-- Output to a text stream. -/
structure Terminal where
  /-- Where characters go. -/
  stream : TextStream
  /-- Whether output is discarded. -/
  broken : Bool := false

namespace Terminal

/-- Absorbs the trouble that a call of the stream met, and tells about it. -/
def absorb
    (tell : Failure -> Notice) :
    Reply Unit × TextStream -> Receipt × Terminal
  | (.failed failure, stream) =>
      if failure.isStreamTrouble then
        ({ reply := .done (), notices := [tell failure] }, { stream, broken := true })
      else
        ({ reply := .failed failure }, { stream })
  | (reply, stream) => ({ reply }, { stream })

/-- Writes a code point to a stream, and flushes the stream if it is a line feed. -/
def writeThrough
    (stream : TextStream)
    (point : CodePoint) : Reply Unit × TextStream :=
  match stream.write point with
  | (.done _, stream) => if point = CodePoint.ofChar '\n' then stream.flush else (.done (), stream)
  | (reply, stream) => (reply, stream)

/-- Writes one character. -/
def write
    (code : Int)
    (terminal : Terminal) : Receipt × Terminal :=
  if terminal.broken then
    ({ reply := .done () }, terminal)
  else
    absorb .outputFailed <|
      match codePoint code with
      | .ok point => writeThrough terminal.stream point
      | .error failure => (.failed failure, terminal.stream)

/-- Flushes the stream. -/
def flush (terminal : Terminal) : Receipt × Terminal :=
  if terminal.broken then
    ({ reply := .done () }, terminal)
  else
    absorb .flushFailed terminal.stream.flush

end Terminal
end WordMachine
