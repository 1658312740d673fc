/-!
# Bus client settings

The telemetry writer publishes to one broker address and topic, choosing the
partition by a hash of the key and creating the topic when missing. The reader
joins a consumer group on one broker and topic and starts from the first
offset; it asks for at least 10 kB and at most 10 MB per fetch and never
reports its lag.

A reader needs a topic: with a group the missing topic is refused as such,
without one as an empty topic.
-/

namespace Airspace.Bus

/-- How telemetry is written. -/
structure WriterSettings where
  address : String
  topic : String
  hashBalancer : Bool
  autoCreateTopic : Bool

/-- How telemetry is read. -/
structure ReaderSettings where
  brokers : List String
  topic : String
  groupId : String
  minBytes : Nat
  maxBytes : Nat
  /-- The lag reporting interval in nanoseconds; negative means never. -/
  readLagInterval : Int
  /-- The offset a new group starts from; `-2` is the first offset. -/
  startOffset : Int

/-- The writer for a broker and topic. -/
def writerSettings (broker topic : String) : WriterSettings := ⟨broker, topic, true, true⟩

/-- The reader for a broker, topic and group, or why it cannot be made. -/
def readerSettings (broker topic groupId : String) : Except String ReaderSettings :=
  if topic.isEmpty then
    if groupId.isEmpty then .error "cannot create a new kafka reader with an empty topic"
    else .error "either Topic or GroupTopics must be specified with GroupID"
  else .ok ⟨[broker], topic, groupId, 10000, 10000000, -1, -2⟩

end Airspace.Bus
