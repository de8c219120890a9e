import Signpost.Main
import Signpost.Proofs.Priority
import Signpost.Proofs.Grammar
import Signpost.Proofs.RoundTrip
import Signpost.Proofs.Rearrangement
import Signpost.Proofs.Search
import Signpost.Proofs.Relisting
import Signpost.Proofs.ManifestTable
import Signpost.Proofs.Agreement
import Signpost.Proofs.Growth
import Signpost.Proofs.Narrowing
import Signpost.Proofs.Acceptance
import Signpost.Proofs.Shadowing
import Signpost.Proofs.Positions
import Signpost.Proofs.Views
import Signpost.Proofs.Numerals
import Signpost.Proofs.Rebuilding
import Signpost.Proofs.Rereading
import Signpost.Proofs.Slashes
import Signpost.Proofs.Declarations
import Signpost.Proofs.LetterCase
import Signpost.Proofs.MethodNames
import Signpost.Proofs.Integers
import Signpost.Proofs.Configuration
