import Packaging.Main
import Packaging.Wire.Digest
import Packaging.Proofs.Commits
import Packaging.Proofs.CrossProduct
import Packaging.Proofs.Digest.Agreement
import Packaging.Proofs.Forge.Lookups
import Packaging.Proofs.Forge.References
import Packaging.Proofs.Forge.Responses
import Packaging.Proofs.PackageNames
import Packaging.Proofs.Release.Checking
import Packaging.Proofs.Release.Digests
import Packaging.Proofs.Release.Failures
import Packaging.Proofs.Release.Ordering
import Packaging.Proofs.Release.Records
import Packaging.Proofs.Release.Reordering
import Packaging.Proofs.Release.Report
import Packaging.Proofs.Release.Reruns
import Packaging.Proofs.Release.SidecarPaths
import Packaging.Proofs.Release.Tampering
import Packaging.Proofs.Wire.Entries
import Packaging.Proofs.Wire.Matrix
import Packaging.Proofs.Wire.PlanFile
