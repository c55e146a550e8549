import CoverControl.Config.Features
import CoverControl.Config.Json
import CoverControl.Config.Setting
import CoverControl.Cover.Description
import CoverControl.House
import CoverControl.Loopback
import CoverControl.Mqtt.Connection
import CoverControl.Proofs.Router
import CoverControl.Proofs.Mqtt.Server
import CoverControl.Proofs.Mqtt.Requests
import CoverControl.Proofs.Mqtt.Bookkeeping
import CoverControl.Proofs.Config
import CoverControl.Proofs.Cover.Outcome
import CoverControl.Proofs.State
import CoverControl.Proofs.Cover.Hub
import CoverControl.Proofs.Cover.Availability
import CoverControl.Proofs.Mqtt.Interleaving
import CoverControl.Proofs.Echo
import CoverControl.Proofs.Cover.Agreement
import CoverControl.Proofs.Listening
import CoverControl.Proofs.Cover.Subscriptions
import CoverControl.Proofs.Cover.Renewal
import CoverControl.Proofs.Cover.Unsubscribed
import CoverControl.Proofs.Cover.Commands
import CoverControl.Proofs.Cover.Coherence
import CoverControl.Proofs.Mqtt.Closing
import CoverControl.Proofs.Mqtt.Refusals
import CoverControl.Proofs.Aspects
import CoverControl.Proofs.Json.Object
import CoverControl.Proofs.Json.Equality
import CoverControl.Proofs.Json.Reading
import CoverControl.Proofs.Feedback
import CoverControl.Proofs.Writes
import CoverControl.Proofs.Cover.Messages
import CoverControl.Proofs.Cover.Announcements
import CoverControl.Proofs.Cover.Redelivery
import CoverControl.Proofs.Cover.Overlap
import CoverControl.Proofs.Topic
import CoverControl.Proofs.Filters
import CoverControl.Proofs.Cover.Delivery
import CoverControl.Proofs.ServerTopics
import CoverControl.Proofs.LastWriter
import CoverControl.Proofs.Scale.Direction
import CoverControl.Proofs.Scale.Halves
import CoverControl.Proofs.Bounds
import CoverControl.Proofs.Scale.Emptiness
import CoverControl.Proofs.Capabilities
import CoverControl.Proofs.Literals
import CoverControl.Proofs.TiltTopics
import CoverControl.Proofs.Registration
import CoverControl.Proofs.Calls
import CoverControl.Proofs.Decimal.Grammar
import CoverControl.Proofs.Decimal.Nearest
import CoverControl.Proofs.Payloads
