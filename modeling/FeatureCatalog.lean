import FeatureCatalog.Attributes
import FeatureCatalog.Binary64
import FeatureCatalog.Binary64.Shortest
import FeatureCatalog.Client
import FeatureCatalog.Config
import FeatureCatalog.Config.Document
import FeatureCatalog.Dict
import FeatureCatalog.Entity
import FeatureCatalog.Error
import FeatureCatalog.Feature
import FeatureCatalog.Feature.Bag
import FeatureCatalog.FeatureType
import FeatureCatalog.Graph
import FeatureCatalog.Graph.Link
import FeatureCatalog.Graph.Order
import FeatureCatalog.Identity
import FeatureCatalog.Json
import FeatureCatalog.Json.Camel
import FeatureCatalog.Json.Cursor
import FeatureCatalog.Json.Decoder
import FeatureCatalog.Json.Mismatch
import FeatureCatalog.Json.Printer
import FeatureCatalog.Json.Reader
import FeatureCatalog.Json.Scalar
import FeatureCatalog.Json.TextFault
import FeatureCatalog.Json.Typed
import FeatureCatalog.Registration
import FeatureCatalog.Session
import FeatureCatalog.Source
import FeatureCatalog.Source.Bag
import FeatureCatalog.Source.Snowflake
import FeatureCatalog.Store
import FeatureCatalog.Store.Contents
import FeatureCatalog.Store.Definition
import FeatureCatalog.Text.Characters
import FeatureCatalog.Text.Camel
import FeatureCatalog.Text.Composed
import FeatureCatalog.Text.Marks
import FeatureCatalog.Text.Numeral
import FeatureCatalog.Text.Printable
import FeatureCatalog.Text.Uppercase
import FeatureCatalog.Text.Utf8
import FeatureCatalog.Transformation
import FeatureCatalog.Url.Domain
import FeatureCatalog.Url.Domain.Alphabet
import FeatureCatalog.Url.Domain.Direction
import FeatureCatalog.Url.Domain.Folding
import FeatureCatalog.Url.Domain.Joining
import FeatureCatalog.Url.FormEncoded
import FeatureCatalog.Url.Host
import FeatureCatalog.Url.Ipv4
import FeatureCatalog.Url.Ipv6
import FeatureCatalog.Url.Origin
import FeatureCatalog.Url.Percent
import FeatureCatalog.Url.Punycode
import FeatureCatalog.Proofs.Dict
import FeatureCatalog.Proofs.Store.Bag
import FeatureCatalog.Proofs.Store.Contents
import FeatureCatalog.Proofs.Store.Mirror
import FeatureCatalog.Proofs.Store.Addition
import FeatureCatalog.Proofs.Store.Removal
import FeatureCatalog.Proofs.Outcome
import FeatureCatalog.Proofs.Store.Creation
import FeatureCatalog.Proofs.Store.Step
import FeatureCatalog.Proofs.Json.Camel
import FeatureCatalog.Proofs.Json.Record
import FeatureCatalog.Proofs.Store.Reachable
import FeatureCatalog.Proofs.Store.Names
import FeatureCatalog.Proofs.Store.Conflict
import FeatureCatalog.Proofs.Feature.Codec
import FeatureCatalog.Proofs.Text.Utf8
import FeatureCatalog.Proofs.Source.Codec
import FeatureCatalog.Proofs.Entity
import FeatureCatalog.Proofs.Graph.Order
import FeatureCatalog.Proofs.Graph.Needed
import FeatureCatalog.Proofs.Graph.Link
import FeatureCatalog.Proofs.Graph.Complaint
import FeatureCatalog.Proofs.Graph.Part
import FeatureCatalog.Proofs.Store.Fetch
import FeatureCatalog.Proofs.Store.Linkable
import FeatureCatalog.Proofs.Registration.Run
import FeatureCatalog.Proofs.Store.Readable
import FeatureCatalog.Proofs.Client.Fetchable
import FeatureCatalog.Proofs.Graph.Unregistered
import FeatureCatalog.Proofs.Registration.Plan
import FeatureCatalog.Proofs.Registration.Progress
import FeatureCatalog.Proofs.Registration.Resume
import FeatureCatalog.Proofs.Registration.Replay
import FeatureCatalog.Proofs.Registration.Recorded
import FeatureCatalog.Proofs.Graph.Renumber
import FeatureCatalog.Proofs.Client.RoundTrip
import FeatureCatalog.Proofs.Registration.Transcript
import FeatureCatalog.Proofs.Registration.Precedence
import FeatureCatalog.Proofs.Registration.Reached
import FeatureCatalog.Proofs.Graph.Cycle
import FeatureCatalog.Proofs.Graph.Postorder
import FeatureCatalog.Proofs.Graph.Linked
import FeatureCatalog.Proofs.Registration.Checks
import FeatureCatalog.Proofs.Source.RoundTrip
import FeatureCatalog.Proofs.Feature.RoundTrip
import FeatureCatalog.Proofs.Registration.WriteBack
import FeatureCatalog.Proofs.Registration.Failure
import FeatureCatalog.Proofs.Registration.Growth
import FeatureCatalog.Proofs.Registration.Confirmed
import FeatureCatalog.Proofs.Registration.Again
import FeatureCatalog.Proofs.Graph.Decoded
import FeatureCatalog.Proofs.Client.Refetch
import FeatureCatalog.Proofs.Config
import FeatureCatalog.Proofs.Store.Apart
import FeatureCatalog.Proofs.Store.Authorized
import FeatureCatalog.Proofs.Client.Run
import FeatureCatalog.Proofs.Client.Credentials
import FeatureCatalog.Proofs.Store.Atomic
import FeatureCatalog.Proofs.Graph.Accepted
import FeatureCatalog.Proofs.Graph.Carried
import FeatureCatalog.Proofs.Store.Stable
import FeatureCatalog.Proofs.Store.Deletion
import FeatureCatalog.Proofs.Store.Undone
import FeatureCatalog.Proofs.Source.Canonical
import FeatureCatalog.Proofs.Source.Dispatch
import FeatureCatalog.Proofs.Json.Spelling
import FeatureCatalog.Proofs.Feature.Spelling
import FeatureCatalog.Proofs.Feature.Layout
import FeatureCatalog.Proofs.Graph.Inputs
import FeatureCatalog.Proofs.Registration.Summary
import FeatureCatalog.Proofs.Store.Payload
import FeatureCatalog.Proofs.Graph.Incremental
import FeatureCatalog.Proofs.Source.Parameters
import FeatureCatalog.Proofs.Store.Projects
import FeatureCatalog.Proofs.Client.Listing
import FeatureCatalog.Proofs.Text.Camel
import FeatureCatalog.Proofs.Json.Projection
import FeatureCatalog.Proofs.Graph.Termination
