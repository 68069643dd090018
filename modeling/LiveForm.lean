import LiveForm.Definition.Basic
import LiveForm.Definition.Field
import LiveForm.Definition.Layout
import LiveForm.Definition.Reading
import LiveForm.Definition.Writing
import LiveForm.Engine.Basic
import LiveForm.Engine.Call
import LiveForm.Engine.Load
import LiveForm.Engine.Options
import LiveForm.Engine.Submit
import LiveForm.Event.Basic
import LiveForm.Event.Bus
import LiveForm.Event.Scripts
import LiveForm.FormError
import LiveForm.Http.MediaType
import LiveForm.Http.Message
import LiveForm.Json.Basic
import LiveForm.Json.Draft
import LiveForm.Json.Loose
import LiveForm.Json.Path
import LiveForm.Json.Shape
import LiveForm.Json.Writing
import LiveForm.Keyed
import LiveForm.Layout.Outline
import LiveForm.Layout.View
import LiveForm.Layout.Widget
import LiveForm.Number.Binary64
import LiveForm.Number.Decimal
import LiveForm.Number.Reading
import LiveForm.Number.Writing
import LiveForm.Pattern.Basic
import LiveForm.Pattern.Compile
import LiveForm.Pattern.Names
import LiveForm.Pattern.Reading
import LiveForm.Pattern.Size
import LiveForm.Rehearsal.Counterpart
import LiveForm.Rehearsal.Scene
import LiveForm.Rehearsal.Step
import LiveForm.Rules.Basic
import LiveForm.Rules.Ready
import LiveForm.Rules.Validation
import LiveForm.Rules.Visibility
import LiveForm.State
import LiveForm.Store.Basic
import LiveForm.Store.Sample
import LiveForm.Store.Service
import LiveForm.Text.Blank
import LiveForm.Text.Hex
import LiveForm.Text.Quoted
import LiveForm.Text.Search
import LiveForm.Transport
import LiveForm.Unicode.Category
import LiveForm.Unicode.CharSet
import LiveForm.Unicode.Folding
import LiveForm.Unicode.Property
import LiveForm.Unicode.Script
import LiveForm.Yaml.Cursor
import LiveForm.Yaml.Node
import LiveForm.Yaml.Scalar
import LiveForm.Yaml.Token
import LiveForm.Proofs.Definition.Canonical
import LiveForm.Proofs.Definition.Check
import LiveForm.Proofs.Definition.Nulls
import LiveForm.Proofs.Definition.Refusal
import LiveForm.Proofs.Definition.RoundTrip
import LiveForm.Proofs.Definition.Text
import LiveForm.Proofs.Engine.Batches
import LiveForm.Proofs.Engine.Blame
import LiveForm.Proofs.Engine.Calls
import LiveForm.Proofs.Engine.Chronicle
import LiveForm.Proofs.Engine.Content
import LiveForm.Proofs.Engine.Displacement
import LiveForm.Proofs.Engine.Drawing
import LiveForm.Proofs.Engine.Edits
import LiveForm.Proofs.Engine.Findings
import LiveForm.Proofs.Engine.Messages
import LiveForm.Proofs.Engine.Passes
import LiveForm.Proofs.Engine.Progress
import LiveForm.Proofs.Engine.Queue
import LiveForm.Proofs.Engine.Seeding
import LiveForm.Proofs.Engine.Telling
import LiveForm.Proofs.Engine.Update
import LiveForm.Proofs.Event.Delivery
import LiveForm.Proofs.Event.Dispatch
import LiveForm.Proofs.Event.Recorder
import LiveForm.Proofs.Event.Subscriptions
import LiveForm.Proofs.Json.Access
import LiveForm.Proofs.Json.Draft
import LiveForm.Proofs.Json.Omission
import LiveForm.Proofs.Json.Overwriting
import LiveForm.Proofs.Json.Path
import LiveForm.Proofs.Json.Room
import LiveForm.Proofs.Json.Same
import LiveForm.Proofs.Json.Shape
import LiveForm.Proofs.Json.Text
import LiveForm.Proofs.Json.Token
import LiveForm.Proofs.Layout.Completeness
import LiveForm.Proofs.Layout.Depth
import LiveForm.Proofs.Layout.Outline
import LiveForm.Proofs.Layout.Resolution
import LiveForm.Proofs.Number.Rounding
import LiveForm.Proofs.Rules.Absence
import LiveForm.Proofs.Rules.FirstFailure
import LiveForm.Proofs.Rules.FullPass
import LiveForm.Proofs.Rules.Memory
import LiveForm.Proofs.Rules.Patterns
import LiveForm.Proofs.Rules.Visibility
import LiveForm.Proofs.Session.Basic
import LiveForm.Proofs.Session.Cancellation
import LiveForm.Proofs.Session.Chronicle
import LiveForm.Proofs.Session.Completion
import LiveForm.Proofs.Session.Defaults
import LiveForm.Proofs.Session.Drawing
import LiveForm.Proofs.Session.Edits
import LiveForm.Proofs.Session.Exclusion
import LiveForm.Proofs.Session.FailedLoad
import LiveForm.Proofs.Session.Flag
import LiveForm.Proofs.Session.LatestLoad
import LiveForm.Proofs.Session.Messages
import LiveForm.Proofs.Session.Mirror
import LiveForm.Proofs.Session.Passes
import LiveForm.Proofs.Session.Payload
import LiveForm.Proofs.Session.Rehearsal
import LiveForm.Proofs.Session.Stages
import LiveForm.Proofs.Session.StaleErrors
import LiveForm.Proofs.Session.Status
import LiveForm.Proofs.Session.Telling
import LiveForm.Proofs.Session.Validation
import LiveForm.Proofs.Session.View
import LiveForm.Proofs.State.Replay
import LiveForm.Proofs.Store.Preview
import LiveForm.Proofs.Store.Sample
import LiveForm.Proofs.Store.Served
import LiveForm.Proofs.Store.Soundness
