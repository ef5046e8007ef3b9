import RestDeployment.Main
import RestDeployment.CommandLine.FileTree
import RestDeployment.Occurrence.Codec
import RestDeployment.Proofs.Deployment.Order
import RestDeployment.Proofs.Deployment.Inheritance
import RestDeployment.Proofs.Deployment.Prefix
import RestDeployment.Proofs.Deployment.SessionHistory
import RestDeployment.Proofs.Deployment.Redeployment
import RestDeployment.Proofs.Deployment.Isolation
import RestDeployment.Proofs.Registration.Failures
import RestDeployment.Proofs.Registration.Repetition
import RestDeployment.Proofs.Registration.UrlConflicts
import RestDeployment.Proofs.Deployment.DescriptorFrame
import RestDeployment.Proofs.ClassTable.Superclasses
import RestDeployment.Proofs.Deployment.ApplicationClasses
import RestDeployment.Proofs.Deployment.Failures
import RestDeployment.Proofs.Deployment.BootClasses
import RestDeployment.Proofs.Deployment.DependencyOrder
import RestDeployment.Proofs.Json.RoundTrip
import RestDeployment.Proofs.Classification.ClassList
import RestDeployment.Proofs.Classification.Atomicity
import RestDeployment.Proofs.Metadata.MergePasses
import RestDeployment.Proofs.Adoption.Effect
import RestDeployment.Proofs.Adoption.Dispatching
import RestDeployment.Proofs.ClassTable.ImplementorSearch
import RestDeployment.Proofs.Hierarchy.Climb
import RestDeployment.Proofs.ClassTable.Reinsertion
import RestDeployment.Proofs.ContextParams
import RestDeployment.Proofs.ClassTable.Uses
import RestDeployment.Proofs.Metadata.Exclusivity
import RestDeployment.Proofs.Classification.Findings
import RestDeployment.Proofs.CommandLine.ClassRows
