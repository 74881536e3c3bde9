import HubSpoke.Audit.Log
import HubSpoke.Config.Load
import HubSpoke.Json.Edit
import HubSpoke.Main
import HubSpoke.Mapping.FieldTable
import HubSpoke.Proofs.Aggregation
import HubSpoke.Proofs.Conversion.Agreement
import HubSpoke.Proofs.Conversion.Failure
import HubSpoke.Proofs.Conversion.HubEdit
import HubSpoke.Proofs.Conversion.Identity
import HubSpoke.Proofs.Conversion.Narrowing
import HubSpoke.Proofs.Conversion.Needed
import HubSpoke.Proofs.Conversion.Pairing
import HubSpoke.Proofs.Conversion.RoutedEdit
import HubSpoke.Proofs.Conversion.Runs
import HubSpoke.Proofs.Conversion.Untouched
import HubSpoke.Proofs.Conversion.Validity
import HubSpoke.Proofs.Mapping.Conditions
import HubSpoke.Proofs.Review.Batch
import HubSpoke.Proofs.Review.RoundTrip
import HubSpoke.Proofs.Stash.InPlace
import HubSpoke.Proofs.Stash.Lossless
import HubSpoke.Proofs.Validation.Conflict
import HubSpoke.Proofs.Validation.Notary
import HubSpoke.Proofs.Validation.Scope
import HubSpoke.Validation.Policy
import HubSpoke.Workplace.Directory
import HubSpoke.Yaml.Reader
import HubSpoke.Yaml.Writer
