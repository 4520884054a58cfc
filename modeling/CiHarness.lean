import CiHarness.Main
import CiHarness.Proofs.CommandLine.Logged
import CiHarness.Proofs.CommandLine.Output
import CiHarness.Proofs.CommandLine.Preview
import CiHarness.Proofs.CommandLine.Profiles
import CiHarness.Proofs.CommandLine.Single
import CiHarness.Proofs.Container.Fault
import CiHarness.Proofs.Container.Volume
import CiHarness.Proofs.Project.Canonical
import CiHarness.Proofs.Project.Directory
import CiHarness.Proofs.Project.Parent
import CiHarness.Proofs.Run.Attribution
import CiHarness.Proofs.Run.Capture
import CiHarness.Proofs.Run.Composition
import CiHarness.Proofs.Run.Decoded
import CiHarness.Proofs.Run.Marker
import CiHarness.Proofs.Step.Catalogue
import CiHarness.Proofs.Step.Container
import CiHarness.Proofs.Step.Distinct
import CiHarness.Proofs.Step.Verilog
import CiHarness.Run.Rehearsal
