import WebAppTargets.Client.Registry
import WebAppTargets.Discovery.Run
import WebAppTargets.Endpoint
import WebAppTargets.Health
import WebAppTargets.Json.Writer
import WebAppTargets.Reconcile
import WebAppTargets.Template
import WebAppTargets.Proofs.Merge
import WebAppTargets.Proofs.Contents
import WebAppTargets.Proofs.MemoryRun
import WebAppTargets.Proofs.Convergence
import WebAppTargets.Proofs.Stickiness
import WebAppTargets.Proofs.Base64
import WebAppTargets.Proofs.MessageRoundTrip
import WebAppTargets.Proofs.Registration
import WebAppTargets.Proofs.Ending
import WebAppTargets.Proofs.Completeness
import WebAppTargets.Proofs.Enumeration
import WebAppTargets.Proofs.Exchange
import WebAppTargets.Proofs.Course
import WebAppTargets.Proofs.Records
import WebAppTargets.Proofs.Octets
import WebAppTargets.Proofs.Answers
import WebAppTargets.Proofs.Paging
import WebAppTargets.Proofs.Writes
import WebAppTargets.Proofs.Outcome
import WebAppTargets.Proofs.Parts
import WebAppTargets.Proofs.Alike
import WebAppTargets.Proofs.Recorder
import WebAppTargets.Proofs.Guard
import WebAppTargets.Proofs.Announcements
import WebAppTargets.Proofs.Looking
import WebAppTargets.Proofs.Closing
import WebAppTargets.Proofs.Session
import WebAppTargets.Proofs.AllOrNothing
import WebAppTargets.Proofs.Sending
import WebAppTargets.Proofs.Segments
import WebAppTargets.Proofs.Confinement
import WebAppTargets.Proofs.Locality
import WebAppTargets.Proofs.Refusal
import WebAppTargets.Proofs.Twins
import WebAppTargets.Proofs.Subscription
import WebAppTargets.Proofs.Lowering
import WebAppTargets.Proofs.Restating
import WebAppTargets.Proofs.Successive
import WebAppTargets.Proofs.Guises
import WebAppTargets.Proofs.Confidentiality
import WebAppTargets.Proofs.Lifecycle
import WebAppTargets.Proofs.Canonicity
import WebAppTargets.Proofs.MessageGrammar
import WebAppTargets.Proofs.Precedence
import WebAppTargets.Proofs.Keeping
import WebAppTargets.Proofs.Listing
import WebAppTargets.Proofs.SiteNames
import WebAppTargets.Proofs.JsonGrammar
import WebAppTargets.Proofs.JsonWriting
import WebAppTargets.Proofs.Numerals
import WebAppTargets.Proofs.Unrounded
import WebAppTargets.Proofs.StickyUpdate
import WebAppTargets.Proofs.Members
import WebAppTargets.Proofs.DesiredText
import WebAppTargets.Proofs.HealthCheck
import WebAppTargets.Proofs.TargetNames
import WebAppTargets.Proofs.MessageLine
import WebAppTargets.Proofs.Calendar
import WebAppTargets.Proofs.TimestampText
import WebAppTargets.Proofs.ResourceText
import WebAppTargets.Proofs.NextDay
import WebAppTargets.Proofs.TimestampParts
import WebAppTargets.Proofs.TimestampZones
