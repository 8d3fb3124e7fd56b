import Decorate.Application
import Decorate.Catalog.Basic
import Decorate.Instance.Written
import Decorate.Telemetry
import Decorate.Proofs.Collection
import Decorate.Proofs.NumberText
import Decorate.Proofs.Binding
import Decorate.Proofs.Reading
import Decorate.Proofs.Written
import Decorate.Proofs.RoundTrip
import Decorate.Proofs.Stopping
import Decorate.Proofs.Joining
import Decorate.Proofs.Ledger
import Decorate.Proofs.Claims
import Decorate.Proofs.Conservation
import Decorate.Proofs.Mentions
import Decorate.Proofs.Branches
import Decorate.Proofs.Gating
import Decorate.Proofs.Rebinding
import Decorate.Proofs.Layout
import Decorate.Proofs.Substitution
import Decorate.Proofs.DocumentText
import Decorate.Proofs.RecordForm
import Decorate.Proofs.RecordNesting
import Decorate.Proofs.VersionText
import Decorate.Proofs.Reload
import Decorate.Proofs.Blame
import Decorate.Proofs.Conformance
import Decorate.Proofs.Equality
import Decorate.Proofs.Reordering
import Decorate.Proofs.Requirements
import Decorate.Proofs.Indifference
import Decorate.Proofs.Chaining
import Decorate.Proofs.LeadingVersion
import Decorate.Proofs.Reporting
import Decorate.Proofs.Unmentioned
import Decorate.Proofs.OpenLists
import Decorate.Proofs.CutOff
import Decorate.Proofs.VersionRequests
import Decorate.Proofs.Priorities
import Decorate.Proofs.Absence
import Decorate.Proofs.Lenience
import Decorate.Proofs.Replacements
