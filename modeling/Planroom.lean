import Planroom.Text.Blank
import Planroom.Text.Lowercase
import Planroom.Text.Position
import Planroom.Text.Cut
import Planroom.Text.Decimal
import Planroom.Number.Shortest
import Planroom.Json.Document
import Planroom.Json.Printer
import Planroom.Uuid
import Planroom.Timestamp
import Planroom.Artifact.Uri
import Planroom.Artifact.Anchor
import Planroom.User
import Planroom.Page
import Planroom.Rpc.Envelope
import Planroom.Audit.Event
import Planroom.Http.Problem
import Planroom.Tool.Argument
import Planroom.Settings.Basic
import Planroom.Server.Handshake
import Planroom.Artifact.Encoding
import Planroom.Store.Access
import Planroom.Rpc.Dispatch
import Planroom.Server.Methods
import Planroom.Http.Site
import Planroom.Proofs.Store.Numbering
import Planroom.Proofs.Rpc.Batch
import Planroom.Proofs.Store.Anchors
import Planroom.Proofs.Store.Persistence
import Planroom.Proofs.Store.Coherence
import Planroom.Proofs.Tool.Errands
import Planroom.Proofs.Work.Course
import Planroom.Proofs.Tool.AllOrNothing
import Planroom.Proofs.Work.AtOnce
import Planroom.Proofs.Resource.Reads
import Planroom.Proofs.Http.Comments
import Planroom.Proofs.Requests
import Planroom.Proofs.Work.ReadOnly
import Planroom.Proofs.Server.Permission
import Planroom.Proofs.Text.Cut
import Planroom.Proofs.Artifact.Lookup
import Planroom.Proofs.Artifact.Address
import Planroom.Proofs.Work.Result
import Planroom.Proofs.Store.Identifiers
import Planroom.Proofs.Resource.Addressing
import Planroom.Proofs.Store.Listing
import Planroom.Proofs.Store.Named
import Planroom.Proofs.Resource.Listing
import Planroom.Proofs.Resource.Paging
import Planroom.Proofs.Json.Members
import Planroom.Proofs.Artifact.Vocabulary
import Planroom.Proofs.Store.Encoding
import Planroom.Proofs.Rpc.Envelope
import Planroom.Proofs.Rpc.Errors
import Planroom.Proofs.Rpc.Single
import Planroom.Proofs.Store.History
import Planroom.Proofs.Store.Guards
import Planroom.Proofs.Store.Threads
import Planroom.Proofs.Store.Pages
import Planroom.Proofs.Audit.Redaction
import Planroom.Proofs.Work.Alike
import Planroom.Proofs.Rpc.Alike
import Planroom.Proofs.Rpc.Telling
import Planroom.Proofs.Work.PassingOn
import Planroom.Proofs.Http.Telling
import Planroom.Proofs.Rpc.Deaths
import Planroom.Proofs.Http.Status
import Planroom.Proofs.Text.Split
import Planroom.Proofs.Work.Asking
import Planroom.Proofs.Work.Terms
import Planroom.Proofs.Tool.Conduct
import Planroom.Proofs.Tool.Advertised
import Planroom.Proofs.Audit.Targets
import Planroom.Proofs.Store.Contributions
import Planroom.Proofs.Store.Users
import Planroom.Proofs.Rpc.Leading
import Planroom.Proofs.Http.Bearer
import Planroom.Proofs.Http.Attribution
import Planroom.Proofs.Settings.Credentials
import Planroom.Proofs.Http.Tokens
import Planroom.Proofs.Artifact.Reconcile
import Planroom.Proofs.Store.Changes
import Planroom.Proofs.Work.Idle
import Planroom.Proofs.Server.Handshake
import Planroom.Proofs.Server.Stopped
import Planroom.Proofs.Rpc.Grammar
import Planroom.Proofs.Store.Independence
import Planroom.Proofs.Store.WriteBack
import Planroom.Proofs.Store.Search
import Planroom.Proofs.Store.Links
import Planroom.Proofs.Work.Same
import Planroom.Proofs.Tool.Meaning
import Planroom.Proofs.Tool.Given
import Planroom.Proofs.Http.Naming
import Planroom.Proofs.Settings.Directory
import Planroom.Proofs.Work.Leaving
import Planroom.Proofs.Store.ReadBack
import Planroom.Proofs.Tool.ReadBack
import Planroom.Proofs.Artifact.Selection
import Planroom.Proofs.Artifact.Spelling
import Planroom.Proofs.Work.Serving
import Planroom.Proofs.Work.Hearing
import Planroom.Proofs.Work.Logging
import Planroom.Proofs.Server.Connecting
import Planroom.Proofs.Server.Discretion
import Planroom.Proofs.Rpc.Chronicle
import Planroom.Proofs.Artifact.Hidden
import Planroom.Proofs.Artifact.ReadBack
import Planroom.Proofs.Settings.Secrecy
import Planroom.Proofs.Work.Breaking
import Planroom.Proofs.Server.Breaking
import Planroom.Proofs.Http.Deadlines
