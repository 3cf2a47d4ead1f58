import RequestBinding.Destination.Conversion
import RequestBinding.Destination.Table
import RequestBinding.Settings.Loader
import RequestBinding.Proofs.Binding.Outcome
import RequestBinding.Proofs.Entries
import RequestBinding.Proofs.Binding.Calls
import RequestBinding.Proofs.Coercion.Conformance
import RequestBinding.Proofs.Binding.Conformance
import RequestBinding.Proofs.Binding.Isolation
import RequestBinding.Proofs.Base64
import RequestBinding.Proofs.Calendar.Date
import RequestBinding.Proofs.Calendar.Timestamp
import RequestBinding.Proofs.Coercion.RoundTrip
import RequestBinding.Proofs.Schema.Document
import RequestBinding.Proofs.Coercion.Walk
import RequestBinding.Proofs.Binding.Session
import RequestBinding.Proofs.Request.MediaType
import RequestBinding.Proofs.Form.PartHeaders
import RequestBinding.Proofs.Form.Multipart
import RequestBinding.Proofs.Form.RoundTrip
import RequestBinding.Proofs.Request.Body
import RequestBinding.Proofs.Binding.Chunking
import RequestBinding.Proofs.Collection
import RequestBinding.Proofs.Form.UrlEncoded
import RequestBinding.Proofs.Binding.Formats
import RequestBinding.Proofs.Form.Parts
import RequestBinding.Proofs.Binding.Forms
import RequestBinding.Proofs.Binding.Files
import RequestBinding.Proofs.Binding.Limits
import RequestBinding.Binding.Journal
import RequestBinding.Proofs.Binding.FormFaults
import RequestBinding.Proofs.Binding.Journal
import RequestBinding.Proofs.Binding.EmptyBody
import RequestBinding.Proofs.Parameter
import RequestBinding.Proofs.Settings.Variable
import RequestBinding.Proofs.Json.Fields
import RequestBinding.Proofs.Json.Path
import RequestBinding.Proofs.Toml.Sorted
import RequestBinding.Proofs.Json.Sections
import RequestBinding.Proofs.Settings.Overlay
import RequestBinding.Proofs.Coercion.Required
import RequestBinding.Proofs.Binding.Absence
import RequestBinding.Proofs.Number.IntegerText
import RequestBinding.Proofs.Coercion.Spelling
import RequestBinding.Proofs.Binding.Defaults
import RequestBinding.Proofs.Binding.BodyOwner
import RequestBinding.Proofs.Json.StringLength
import RequestBinding.Proofs.Coercion.Unwrapping
import RequestBinding.Proofs.Coercion.Recursion
import RequestBinding.Proofs.Form.Multimap
import RequestBinding.Proofs.Form.Escapes
import RequestBinding.Proofs.Coercion.Integers
import RequestBinding.Proofs.Destination.Conversion
import RequestBinding.Proofs.Calendar.Spelling
import RequestBinding.Proofs.Coercion.StringFormats
import RequestBinding.Proofs.Form.History
