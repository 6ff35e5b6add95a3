import TokenRotation.Time
import TokenRotation.Time.Units
import TokenRotation.Bytes.Base64Url
import TokenRotation.Bytes.BigEndian
import TokenRotation.Bytes.Hex
import TokenRotation.Digest
import TokenRotation.Secret
import TokenRotation.Draws
import TokenRotation.Text.Blank
import TokenRotation.Text.Quoted
import TokenRotation.Text.Normal
import TokenRotation.Text.Direction
import TokenRotation.Text.Joining
import TokenRotation.Policy
import TokenRotation.Failure
import TokenRotation.Clock
import TokenRotation.Token.Row
import TokenRotation.Token.Verdict
import TokenRotation.Token.Status
import TokenRotation.Table
import TokenRotation.Event
import TokenRotation.Store.Call
import TokenRotation.Store.Memory
import TokenRotation.Store.Durable.Trouble
import TokenRotation.Store.Durable.Wire
import TokenRotation.Store.Durable.Precision
import TokenRotation.Store.Durable
import TokenRotation.Program
import TokenRotation.Service.Issue
import TokenRotation.Service.Consume
import TokenRotation.Service.Revoke
import TokenRotation.Service.Lookup
import TokenRotation.Service.Rotate
import TokenRotation.Service.Logout
import TokenRotation.Settings.Decimal
import TokenRotation.Settings.SocketAddress
import TokenRotation.Settings.HeaderValue
import TokenRotation.Settings.Basic
import TokenRotation.Url.Percent
import TokenRotation.Url.Punycode
import TokenRotation.Url.Ipv4
import TokenRotation.Url.Domain
import TokenRotation.Url.Basic
import TokenRotation.Settings.DatabaseUrl
import TokenRotation.Json.Text
import TokenRotation.Json.Number
import TokenRotation.Json.Skip
import TokenRotation.Http.Payload
import TokenRotation.Http.MediaType
import TokenRotation.Http.Request
import TokenRotation.Http.Response
import TokenRotation.Http.Serve
import TokenRotation.Session.Basic
import TokenRotation.Session.Boot
import TokenRotation.Session.Sample
import TokenRotation.Proofs.Evolution
import TokenRotation.Proofs.Carried
import TokenRotation.Proofs.Deeds
import TokenRotation.Proofs.SingleUse
import TokenRotation.Proofs.Interleaving
import TokenRotation.Proofs.Revocation
import TokenRotation.Proofs.Endings
import TokenRotation.Proofs.Atomicity
import TokenRotation.Proofs.Faultless
import TokenRotation.Proofs.Genealogy
import TokenRotation.Proofs.Births
import TokenRotation.Proofs.Theft
import TokenRotation.Proofs.Presentation
import TokenRotation.Proofs.Boundary
import TokenRotation.Proofs.Conduct
import TokenRotation.Proofs.Forest
import TokenRotation.Proofs.WholeFamilies
import TokenRotation.Proofs.Rounding
import TokenRotation.Proofs.Twins
import TokenRotation.Proofs.Mirrors
import TokenRotation.Proofs.Refinement
import TokenRotation.Proofs.Lifecycle
import TokenRotation.Proofs.Readiness
import TokenRotation.Proofs.Recovery
import TokenRotation.Proofs.Honesty
import TokenRotation.Proofs.Phases
import TokenRotation.Proofs.Racing
import TokenRotation.Proofs.Renaming
import TokenRotation.Proofs.Secrecy
import TokenRotation.Proofs.Surface
import TokenRotation.Proofs.Refusals
import TokenRotation.Proofs.RoundTrip
import TokenRotation.Proofs.Repetition
import TokenRotation.Proofs.Undisturbed
import TokenRotation.Proofs.Reference
import TokenRotation.Proofs.Regions
import TokenRotation.Proofs.Confinement
import TokenRotation.Proofs.Independence
import TokenRotation.Proofs.Demands
import TokenRotation.Proofs.Constraints
import TokenRotation.Proofs.Calm
import TokenRotation.Proofs.Sweeps
import TokenRotation.Proofs.Logouts
import TokenRotation.Proofs.Collisions
import TokenRotation.Proofs.Alarms
import TokenRotation.Proofs.Standard
import TokenRotation.Proofs.Spelling
import TokenRotation.Proofs.Numerals
import TokenRotation.Proofs.Addresses
import TokenRotation.Proofs.Grammar
import TokenRotation.Proofs.Calendar
import TokenRotation.Proofs.Listing
import TokenRotation.Proofs.Chronicle
