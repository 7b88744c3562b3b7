import BookLookup.Main
import BookLookup.Proofs.Filter.Meaning
import BookLookup.Proofs.Filter.Composition
import BookLookup.Proofs.Filter.Tokens
import BookLookup.Proofs.Lookup
import BookLookup.Proofs.Service
import BookLookup.Proofs.Signature.LinkVerification
import BookLookup.Proofs.Signature.Unambiguous
import BookLookup.Proofs.Signature.CanonicalForm
import BookLookup.Proofs.Http.Parameters
import BookLookup.Proofs.Http.Sequence
import BookLookup.Proofs.Secret.Emission
import BookLookup.Proofs.Store.Diagnostic
import BookLookup.Proofs.Store.Interleaving
import BookLookup.Proofs.Store.Signing
import BookLookup.Proofs.Filter.Shape
import BookLookup.Proofs.Filter.Decoding
import BookLookup.Proofs.Metrics.Registry
import BookLookup.Proofs.Http.Serving
import BookLookup.Proofs.Metrics.Balance
import BookLookup.Proofs.Http.Answer
import BookLookup.Proofs.Attribute
import BookLookup.Proofs.Store.Demand
import BookLookup.Proofs.Store.PageBody
import BookLookup.Proofs.Store.Item
import BookLookup.Proofs.Link.Path
import BookLookup.Proofs.Link.Host
import BookLookup.Proofs.Http.Identified
import BookLookup.Proofs.Settings.Checks
import BookLookup.Proofs.Record.Members
import BookLookup.Proofs.Http.Lenient
import BookLookup.Proofs.Settings.NormalForm
import BookLookup.Proofs.Settings.FileText
import BookLookup.Proofs.Settings.Region
import BookLookup.Proofs.Settings.Layers
import BookLookup.Proofs.PercentEncoding.Grammar
import BookLookup.Proofs.Calendar.Gregorian
import BookLookup.Proofs.Text.FixedWidth
import BookLookup.Proofs.Signature.Stamp
import BookLookup.Proofs.Metrics.Determined
