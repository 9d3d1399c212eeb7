import MeshRoom.Channel.Basic
import MeshRoom.Channel.Memory
import MeshRoom.Channel.Socket
import MeshRoom.Client.Basic
import MeshRoom.Client.Lifecycle
import MeshRoom.Config
import MeshRoom.Dispatch
import MeshRoom.Dispatch.Script
import MeshRoom.Duration
import MeshRoom.Event
import MeshRoom.Geometry.Mesh
import MeshRoom.Geometry.Sphere
import MeshRoom.Geometry.Vector
import MeshRoom.Geometry.Words
import MeshRoom.Json.Decode
import MeshRoom.Json.Document
import MeshRoom.Json.Entries
import MeshRoom.Json.Token
import MeshRoom.Json.Tree
import MeshRoom.Json.Value
import MeshRoom.Main
import MeshRoom.Number.Double
import MeshRoom.Number.Format
import MeshRoom.Number.Shortest
import MeshRoom.Number.Single
import MeshRoom.Plugin.Entry
import MeshRoom.Plugin.Hook
import MeshRoom.Plugin.Loader
import MeshRoom.Plugin.Module
import MeshRoom.Plugin.Source
import MeshRoom.Proofs.Channel.Arriving
import MeshRoom.Proofs.Channel.Closing
import MeshRoom.Proofs.Channel.Endings
import MeshRoom.Proofs.Channel.Memory
import MeshRoom.Proofs.Channel.Tasks
import MeshRoom.Proofs.Client.Agreement
import MeshRoom.Proofs.Client.Booting
import MeshRoom.Proofs.Client.Framing
import MeshRoom.Proofs.Client.Greeting
import MeshRoom.Proofs.Client.Identity
import MeshRoom.Proofs.Client.Joining
import MeshRoom.Proofs.Client.Leaving
import MeshRoom.Proofs.Client.Loss
import MeshRoom.Proofs.Client.Progress
import MeshRoom.Proofs.Client.Refusal
import MeshRoom.Proofs.Client.Rendering
import MeshRoom.Proofs.Client.Starting
import MeshRoom.Proofs.Client.Watching
import MeshRoom.Proofs.Config
import MeshRoom.Proofs.Config.LocalName
import MeshRoom.Proofs.Config.Machines
import MeshRoom.Proofs.Config.Origins
import MeshRoom.Proofs.Dispatch.Routing
import MeshRoom.Proofs.Geometry.Decoding
import MeshRoom.Proofs.Geometry.Spheres
import MeshRoom.Proofs.Geometry.Words
import MeshRoom.Proofs.Json.Entries
import MeshRoom.Proofs.Json.Literal
import MeshRoom.Proofs.Json.Reading
import MeshRoom.Proofs.Json.Records
import MeshRoom.Proofs.Json.Scanning
import MeshRoom.Proofs.Json.Written
import MeshRoom.Proofs.Number.Arithmetic
import MeshRoom.Proofs.Number.Numeric
import MeshRoom.Proofs.Number.Rounding
import MeshRoom.Proofs.Number.Shortest
import MeshRoom.Proofs.Number.Unpacking
import MeshRoom.Proofs.Number.Widening
import MeshRoom.Proofs.Plugin.Loading
import MeshRoom.Proofs.Plugin.Sources
import MeshRoom.Proofs.Request.Addresses
import MeshRoom.Proofs.Request.Sending
import MeshRoom.Proofs.Request.Stamping
import MeshRoom.Proofs.Room.Rules
import MeshRoom.Proofs.Scene.Account
import MeshRoom.Proofs.Scene.Contents
import MeshRoom.Proofs.Scene.Ownership
import MeshRoom.Proofs.Scene.Reported
import MeshRoom.Proofs.Scene.Reporting
import MeshRoom.Proofs.Scene.Rules
import MeshRoom.Proofs.Scene.Served
import MeshRoom.Proofs.Session
import MeshRoom.Proofs.Sync.CanvasCursors
import MeshRoom.Proofs.Sync.CursorRuns
import MeshRoom.Proofs.Sync.Following
import MeshRoom.Proofs.Sync.Lag
import MeshRoom.Proofs.Sync.Network
import MeshRoom.Proofs.Sync.OwnCursor
import MeshRoom.Proofs.Sync.Pending
import MeshRoom.Proofs.Sync.Replication
import MeshRoom.Proofs.Sync.Settling
import MeshRoom.Proofs.Table
import MeshRoom.Proofs.Text.Base64
import MeshRoom.Proofs.Url.Authority
import MeshRoom.Proofs.Url.Hosts
import MeshRoom.Proofs.Url.Path
import MeshRoom.Proofs.Url.Reading
import MeshRoom.Proofs.View.Framing
import MeshRoom.Proofs.View.Headless
import MeshRoom.Proofs.View.Recording
import MeshRoom.Proofs.View.Screening
import MeshRoom.Proofs.Wire.Deltas
import MeshRoom.Proofs.Wire.Envelopes
import MeshRoom.Proofs.Wire.Frames
import MeshRoom.Proofs.Wire.Messages
import MeshRoom.Proofs.Wire.Notices
import MeshRoom.Proofs.Wire.Numeric
import MeshRoom.Request.Basic
import MeshRoom.Request.Server
import MeshRoom.Room.Basic
import MeshRoom.Scene.Basic
import MeshRoom.Scene.Report
import MeshRoom.Session
import MeshRoom.Sync.Cursors
import MeshRoom.Sync.Frame
import MeshRoom.Sync.Loop
import MeshRoom.Table
import MeshRoom.Text.Base64
import MeshRoom.Text.Blank
import MeshRoom.Text.Composition
import MeshRoom.Text.Digits
import MeshRoom.Text.Direction
import MeshRoom.Text.Joining
import MeshRoom.Text.Runs
import MeshRoom.Url.Basic
import MeshRoom.Url.Folding
import MeshRoom.Url.Host
import MeshRoom.Url.Label
import MeshRoom.Url.Parse
import MeshRoom.Url.Path
import MeshRoom.Url.Percent
import MeshRoom.Url.Punycode
import MeshRoom.View.Basic
import MeshRoom.View.Controls
import MeshRoom.View.Headless
import MeshRoom.View.Recording
import MeshRoom.Wire.Canvas
import MeshRoom.Wire.Envelope
import MeshRoom.Wire.Mesh
import MeshRoom.Wire.Plugin
import MeshRoom.Wire.Task
