import Draft6.Main
import Draft6.Schema.Encode
import Draft6.Schema.Same
import Draft6.Proofs.AddedSchemas
import Draft6.Proofs.CanonicalAddresses
import Draft6.Proofs.CommandOutcome
import Draft6.Proofs.Disjunction
import Draft6.Proofs.EnclosedValues
import Draft6.Proofs.FailurePointers
import Draft6.Proofs.FirstClaim
import Draft6.Proofs.FragmentReading
import Draft6.Proofs.IntegerDivisors
import Draft6.Proofs.KeywordReports
import Draft6.Proofs.LargerLimits
import Draft6.Proofs.LaterDocuments
import Draft6.Proofs.ListedAddresses
import Draft6.Proofs.LocatedErrors
import Draft6.Proofs.MemberOrder
import Draft6.Proofs.MultipleSpelling
import Draft6.Proofs.NumberBounds
import Draft6.Proofs.NumberEquality
import Draft6.Proofs.Occurrences
import Draft6.Proofs.Places
import Draft6.Proofs.PointerAddress
import Draft6.Proofs.PointerText
import Draft6.Proofs.ReferenceCycles
import Draft6.Proofs.Repetitions
import Draft6.Proofs.RoundTrip
import Draft6.Proofs.SchemaDocuments
import Draft6.Proofs.SchemaOrder
import Draft6.Proofs.Scopes
import Draft6.Proofs.SelfContained
import Draft6.Proofs.SizeReading
import Draft6.Proofs.SubschemaPaths
import Draft6.Proofs.Termination
import Draft6.Proofs.Transparency
import Draft6.Proofs.Verdict
