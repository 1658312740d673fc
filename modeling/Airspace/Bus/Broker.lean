import Airspace.Bus.Consume

/-!
# The broker as its clients see it

A broker holds topics, each a list of partitions of records. Clients learn
where partitions live from metadata: the broker lists itself (node 0) and a
second node at `127.0.0.1:1`, where nothing listens. Node 0 leads every
partition and is the controller, except for partitions marked dead and a
controller marked dead, which node 1 has. A metadata request about a topic the
broker lacks creates it with one empty partition. A broker may also stop
answering metadata after a number of requests: it then closes the connection,
which its client reads as end of stream.

A partition's offsets run from 0 to its record count, plus a shortfall when
the broker promises records it never delivers; offsets of a partition marked
so, or of one that does not exist, are refused as unknown.

Every administrative call has a deadline of 300 ms. A client looking for a
partition that metadata does not list asks again after 100 ms, and would next
ask after another 400 ms, past the deadline.
-/

namespace Airspace.Bus

open Airspace.Time Airspace.Telemetry

/-- A record of a partition. -/
structure Record where
  key : String
  value : List UInt8
  /-- When absent, the record is sent with time 2000-01-01T00:00:00Z. -/
  time : Option Timestamp

/-- The time of a record sent without one. -/
def defaultRecordTime : Timestamp := Timestamp.ofUnix 946684800

/-- The address of node 1, where nothing listens. -/
def deadNodeAddress : String := "127.0.0.1:1"

/-- The ways a broker misbehaves. -/
structure Faults where
  /-- Partitions led by node 1, by topic. -/
  dead : List (String × List Nat) := []
  /-- Partitions whose offsets are refused, by topic. -/
  offsetsRefused : List (String × List Nat) := []
  /-- Records promised beyond those held, by topic and partition. -/
  shortfall : List (String × List (Nat × Int)) := []
  controllerDead : Bool := false
  /-- The number of metadata requests answered before the broker stops answering them. -/
  metadataLimit : Option Nat := none

/-- A broker and what it has answered. -/
structure Broker where
  /-- The address clients dial. -/
  address : String
  /-- Whether anything listens at that address. -/
  reachable : Bool := true
  topics : List (String × List (List Record))
  faults : Faults := {}
  metadataAnswered : Nat := 0

/-- Why a client call failed. -/
inductive ClientError where
  /-- Nothing accepted a connection to the address. -/
  | refused (address : String)
  /-- The broker closed the connection. -/
  | closed
  /-- The broker answered with an error code. -/
  | protocol (code : Nat)
  /-- The call's deadline passed. -/
  | deadline

/-- The title and description of a broker error code. -/
def errorText : Nat → String × String
  | 3 => ("Unknown Topic Or Partition", "the request is for a topic or partition that does not exist on this broker")
  | 36 => ("Topic Already Exists", "a topic with this name already exists")
  | 37 => ("Invalid Partition Number", "the number of partitions is invalid")
  | _ => ("Unknown", "an unexpected server error")

/-- The text of a client error. -/
def ClientError.message : ClientError → String
  | .refused a => "failed to dial: failed to open connection to " ++ a ++ ": dial tcp " ++ a ++
      ": connect: connection refused"
  | .closed => "EOF"
  | .protocol code => "[" ++ toString code ++ "] " ++ (errorText code).1 ++ ": " ++ (errorText code).2
  | .deadline => "context deadline exceeded"

/-- Why a producer's write fails before anything is sent: its first request,
for the topic's partitions, goes over a plain connection, and when nothing
accepts that connection the write fails at once. A reachable broker accepts it,
and the write then waits for the records to be acknowledged. -/
def Broker.writeRefusal (b : Broker) : Option String :=
  if b.reachable then none else some ("dial tcp " ++ b.address ++ ": connect: connection refused")

/-- A failed call: what it was doing, and why. -/
structure CallError where
  context : String
  cause : ClientError

/-- The text of a failed call. -/
def CallError.message (e : CallError) : String := e.context ++ e.cause.message

/-- The partitions of a topic. -/
def Broker.partitionsOf (b : Broker) (topic : String) : Option (List (List Record)) :=
  (b.topics.find? (·.1 == topic)).map Prod.snd

/-- Whether a fault list names a partition of a topic. -/
def names (table : List (String × List Nat)) (topic : String) (p : Nat) : Bool :=
  table.any fun (t, ps) => t == topic && ps.contains p

/-- Answers a metadata request about some topics, creating those it lacks;
none when the broker no longer answers metadata. -/
def Broker.metadata (b : Broker) (topics : List String) : Option Broker :=
  match b.faults.metadataLimit with
  | some n => if b.metadataAnswered ≥ n then none else some (answer b)
  | none => some (answer b)
where
  answer (b : Broker) : Broker :=
    let missing := topics.eraseDups.filter fun t => (b.partitionsOf t).isNone
    { b with topics := b.topics ++ missing.map fun t => (t, [[]]), metadataAnswered := b.metadataAnswered + 1 }

/-- The address of the leader of a partition. -/
def Broker.leaderAddress (b : Broker) (topic : String) (p : Nat) : String :=
  if names b.faults.dead topic p then deadNodeAddress else b.address

/-- Looks a partition up and connects to its leader, asking at most `attempts` times. -/
def Broker.dialLeaderWithin (b : Broker) (topic : String) (p : Nat) : Nat → Broker × Except ClientError Unit
  | 0 => (b, .error .deadline)
  | attempts + 1 =>
    match b.metadata [topic] with
    | none => (b, .error .closed)
    | some b =>
      match b.partitionsOf topic with
      | some parts =>
        if p < parts.length then
          let leader := b.leaderAddress topic p
          if leader == deadNodeAddress then (b, .error (.refused leader)) else (b, .ok ())
        else b.dialLeaderWithin topic p attempts
      | none => b.dialLeaderWithin topic p attempts

/-- Connects to the leader of a partition within the deadline. -/
def Broker.dialLeader (b : Broker) (topic : String) (p : Nat) : Broker × Except ClientError Unit :=
  if !b.reachable then (b, .error (.refused b.address)) else b.dialLeaderWithin topic p 2

/-- A topic to create. -/
structure TopicSpec where
  topic : String
  partitions : Int
  replication : Int

/-- Creates topics through the controller; existing topics are left alone. -/
def Broker.createTopics (b : Broker) (specs : List TopicSpec) : Broker × Except CallError Unit :=
  if !b.reachable then (b, .error ⟨"dial " ++ b.address ++ ": ", .refused b.address⟩)
  else match b.metadata [] with
    | none => (b, .error ⟨"find controller: ", .closed⟩)
    | some b =>
      if b.faults.controllerDead then
        (b, .error ⟨"dial controller " ++ deadNodeAddress ++ ": ", .refused deadNodeAddress⟩)
      else
        specs.foldl (fun (acc : Broker × Except CallError Unit) spec =>
          match acc with
          | (b, .error e) => (b, .error e)
          | (b, .ok ()) =>
            if (b.partitionsOf spec.topic).isSome then (b, .ok ())
            else if spec.partitions == (0 : Int) then (b, .error ⟨"create topic " ++ spec.topic ++ ": ", .protocol 37⟩)
            else
              let count : Nat := if spec.partitions < (0 : Int) then 1 else spec.partitions.toNat
              ({ b with topics := b.topics ++ [(spec.topic, List.replicate count [])] }, .ok ()))
          (b, .ok ())

/-- The partition ids of a topic. -/
def Broker.partitionIds (b : Broker) (topic : String) : Broker × Except CallError (List Nat) :=
  match b.dialLeader topic 0 with
  | (b, .error e) => (b, .error ⟨"connect to kafka: ", e⟩)
  | (b, .ok ()) =>
    match b.metadata [topic] with
    | none => (b, .error ⟨"read partitions: ", .closed⟩)
    | some b => (b, .ok (List.range ((b.partitionsOf topic).getD []).length))

/-- What replaying a partition gives. -/
structure Replay where
  handled : Nat := 0
  samples : List Sample := []
  entries : List Log.Entry := []
  error : Option CallError := none

/-- The message of the record at an offset of a partition. -/
def Record.message (r : Record) (p : Nat) (offset : Nat) : Message :=
  ⟨r.key, r.value, r.time.getD defaultRecordTime, p, offset⟩

/-- Hands records on from an offset until the one before `last`. -/
def replayFrom (p : Nat) (last : Int) (acc : Replay) : Nat → List Record → Replay
  | _, [] => { acc with error := some ⟨"fetching message: ", .deadline⟩ }
  | offset, r :: rest =>
    let m := r.message p offset
    let acc := match decodeTelemetry m with
      | .ok s => { acc with handled := acc.handled + 1, samples := acc.samples ++ [s] }
      | .error e => { acc with entries := acc.entries ++ [skipEntry m e] }
    if (offset : Int) ≥ last - 1 then acc else replayFrom p last acc (offset + 1) rest

/-- Replays a partition from its first offset to its last at the time of the
call. -/
def Broker.replay (b : Broker) (topic : String) (p : Nat) : Broker × Replay :=
  match b.dialLeader topic p with
  | (b, .error e) => (b, { error := some ⟨"connect to partition " ++ toString p ++ ": ", e⟩ })
  | (b, .ok ()) =>
    let records := ((b.partitionsOf topic).getD []).getD p []
    if names b.faults.offsetsRefused topic p || p ≥ ((b.partitionsOf topic).getD []).length then
      (b, { error := some ⟨"read offsets of partition " ++ toString p ++ ": ", .protocol 3⟩ })
    else
      let short := ((b.faults.shortfall.find? (·.1 == topic)).bind fun (_, ps) =>
        (ps.find? (·.1 == p)).map Prod.snd).getD 0
      let last : Int := records.length + short
      if last ≤ 0 then (b, {})
      else
        match b.dialLeader topic p with
        | (b, .error _) => (b, { error := some ⟨"fetching message: ", .deadline⟩ })
        | (b, .ok ()) => (b, replayFrom p last {} 0 records)

end Airspace.Bus
