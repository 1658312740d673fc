import Airspace.Bus.Message
import Airspace.Log.Entry

/-!
# Consuming telemetry

A consumer reads deliveries from the bus until the stream ends or its work is
cancelled. Each message that decodes to a usable sample is handed on; one
that does not is skipped with a debug entry naming the error, the partition
and the offset. A failed read is logged as a warning, after which the
consumer waits a second before reading again; the consumers here are
cancelled within that wait, so a failed read is the last thing read.
Consuming never fails as a whole.
-/

namespace Airspace.Bus

open Airspace.Json Airspace.Telemetry

/-- What one read from the bus gives. -/
inductive Delivery where
  /-- A message. -/
  | message (m : Message)
  /-- The end of the stream. -/
  | ended
  /-- A failed read, with the error's text. -/
  | failed (error : String)
  /-- The consumer's work was cancelled. -/
  | cancelled

/-- What consuming gives: the samples handed on and the log entries written, in order. -/
structure Consumed where
  samples : List Sample := []
  entries : List Log.Entry := []

/-- The entry for a skipped message. -/
def skipEntry (m : Message) (e : TelemetryError) : Log.Entry :=
  { level := some .debug, message := "skipping message",
    fields := [("error", .string e.message), ("partition", Value.ofInt m.partition),
      ("offset", Value.ofInt m.offset)] }

/-- The entry for a failed read. -/
def readErrorEntry (error : String) : Log.Entry :=
  { level := some .warn, message := "read error", fields := [("error", .string error)] }

/-- Consumes deliveries in order, handing each sample to `handle`, which
updates a state and may write entries of its own; a fault of the handler ends
the consuming with that fault. -/
def consumeWith {σ ε : Type} (handle : σ → Sample → Except ε (σ × List Log.Entry)) :
    σ × List Log.Entry → List Delivery → Except ε (σ × List Log.Entry)
  | acc, [] | acc, .ended :: _ | acc, .cancelled :: _ => .ok acc
  | (st, es), .failed e :: _ => .ok (st, es ++ [readErrorEntry e])
  | (st, es), .message m :: rest =>
    match decodeTelemetry m with
    | .ok s => do
      let (st, more) ← handle st s
      consumeWith handle (st, es ++ more) rest
    | .error e => consumeWith handle (st, es ++ [skipEntry m e]) rest

/-- Consumes deliveries, collecting the samples. -/
def consume (deliveries : List Delivery) : Consumed :=
  let collect := fun (ss : List Sample) (s : Sample) => (.ok (ss ++ [s], []) : Except Empty (List Sample × List Log.Entry))
  match consumeWith collect ([], []) deliveries with
  | .ok (samples, entries) => { samples, entries }
  | .error e => nomatch e

end Airspace.Bus
