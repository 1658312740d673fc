import Airspace.Binary64.Basic
import Airspace.Bus.Broker
import Airspace.Bus.Clients
import Airspace.Bus.Consume
import Airspace.Bus.Message
import Airspace.Collision.Alert
import Airspace.Collision.Detector
import Airspace.Collision.Watch
import Airspace.Collision.Concurrent
import Airspace.Command.Broadcast
import Airspace.Command.Detect
import Airspace.Command.Flags
import Airspace.Command.Ingest
import Airspace.Command.Obstacles
import Airspace.Command.Programs
import Airspace.Command.Replay
import Airspace.Command.Startup
import Airspace.Command.Table
import Airspace.Command.Host
import Airspace.Decimal.Notation
import Airspace.Decimal.Parse
import Airspace.Decimal.Read
import Airspace.Decimal.Shortest
import Airspace.Elementary.Arctangent
import Airspace.Elementary.Circular
import Airspace.Elementary.Logarithm
import Airspace.Elementary.Reduction
import Airspace.Export.Kml
import Airspace.Export.Track
import Airspace.Feed.Fetch
import Airspace.Feed.StateVector
import Airspace.Geo.Distance
import Airspace.Geo.Mercator
import Airspace.Geo.Position
import Airspace.Geo.Units
import Airspace.Http.Listen
import Airspace.Http.Route
import Airspace.Http.Status
import Airspace.Http.Url
import Airspace.Json.Decode
import Airspace.Json.Syntax
import Airspace.Json.Value
import Airspace.Linear.Condition
import Airspace.Linear.Dense
import Airspace.Log.Entry
import Airspace.Log.Level
import Airspace.Main
import Airspace.Metrics.Collector
import Airspace.Metrics.Registry
import Airspace.Obstacle.Circuit
import Airspace.Obstacle.Collision
import Airspace.Obstacle.Definition
import Airspace.Obstacle.Moving
import Airspace.Obstacle.Trajectory
import Airspace.Obstacle.Wire
import Airspace.Scalar.Basic
import Airspace.Scalar.Binary64
import Airspace.Settings.Convert
import Airspace.Settings.Layers
import Airspace.Settings.Tracker
import Airspace.Spline.Evaluate
import Airspace.Spline.Periodic
import Airspace.Store.Cell
import Airspace.Store.Value
import Airspace.Store.Calendar
import Airspace.Store.FormatString
import Airspace.Store.Function
import Airspace.Store.Token
import Airspace.Store.Syntax
import Airspace.Store.Parse
import Airspace.Store.Schema
import Airspace.Store.Evaluate
import Airspace.Store.Engine
import Airspace.Store.Session
import Airspace.Store.Timestamp
import Airspace.Store.Library
import Airspace.Store.Database
import Airspace.Store.Numeric
import Airspace.Telemetry.Interpolate
import Airspace.Telemetry.Sample
import Airspace.Telemetry.Wire
import Airspace.Text.Blank
import Airspace.Text.Case
import Airspace.Text.Quoted
import Airspace.Text.Utf8
import Airspace.Time.DurationText
import Airspace.Time.Instant
import Airspace.Time.Rfc3339
import Airspace.Track.Buffer
import Airspace.Xml.Node
import Airspace.Proofs.Track.Buffer
import Airspace.Proofs.Exact.Real
import Airspace.Proofs.Linear.Assembly
import Airspace.Proofs.Spline.Systems
import Airspace.Proofs.Spline.Pieces
import Airspace.Proofs.Spline.Smooth
import Airspace.Proofs.Geo.Coincidence
import Airspace.Proofs.Obstacle.Dedupe
import Airspace.Proofs.Obstacle.Circuit
import Airspace.Proofs.Obstacle.Schedule
import Airspace.Proofs.Binary64.Encoding
import Airspace.Proofs.Binary64.Order
import Airspace.Proofs.Binary64.Rounding
import Airspace.Proofs.Binary64.Arithmetic
import Airspace.Proofs.Obstacle.Domain
import Airspace.Proofs.Text.Utf8
import Airspace.Proofs.Json.Reading
import Airspace.Proofs.Json.Mismatch
import Airspace.Proofs.Time.Rfc3339
import Airspace.Proofs.Telemetry.Wire
import Airspace.Proofs.Bus.Telemetry
import Airspace.Proofs.Feed.StateVector
import Airspace.Proofs.Telemetry.Densify
import Airspace.Proofs.Telemetry.Steps
import Airspace.Proofs.Collision.Detector
import Airspace.Proofs.Collision.Observation
import Airspace.Proofs.Collision.Suppression
import Airspace.Proofs.Collision.Serial
import Airspace.Proofs.Store.Layout
import Airspace.Proofs.Store.Step
import Airspace.Proofs.Track.Interleaving
import Airspace.Proofs.Export.Sampling
import Airspace.Proofs.Telemetry.Windows
import Airspace.Proofs.Bus.Decode
import Airspace.Proofs.Binary64.Monotone
import Airspace.Proofs.Spline.Search
import Airspace.Proofs.Store.Insert
import Airspace.Proofs.Store.Contract
import Airspace.Proofs.Store.Catalog
import Airspace.Proofs.Store.Read
import Airspace.Proofs.Store.Write
import Airspace.Proofs.Store.Lawful
import Airspace.Proofs.Store.Refinement
