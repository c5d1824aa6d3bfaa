import InjectionPlan.Text.Quoted
import InjectionPlan.Text.Template
import InjectionPlan.Lifetime
import InjectionPlan.Marker.Edit
import InjectionPlan.Declaration
import InjectionPlan.Snapshot
import InjectionPlan.Inheritance.InterfaceWalk
import InjectionPlan.Inheritance.BaseWalk
import InjectionPlan.Plan
import InjectionPlan.Log.Settings
import InjectionPlan.Stored.TypeExpr
import InjectionPlan.Stored.Plan
import InjectionPlan.Log.Line
import InjectionPlan.Trial.Run
import InjectionPlan.Main
import InjectionPlan.Proofs.Names
import InjectionPlan.Proofs.Chains
import InjectionPlan.Proofs.InterfaceWalk
import InjectionPlan.Proofs.InheritedInterfaces
import InjectionPlan.Proofs.BaseWalk
import InjectionPlan.Proofs.BulkExpansion
import InjectionPlan.Proofs.Outcome
import InjectionPlan.Proofs.SelfRegistration
import InjectionPlan.Proofs.Scopes
import InjectionPlan.Proofs.OpenRegistrations
import InjectionPlan.Proofs.DeclarationOrder
import InjectionPlan.Proofs.Hygiene
import InjectionPlan.Proofs.HookAccounts
import InjectionPlan.Proofs.AmbiguityWarnings
import InjectionPlan.Proofs.ContractNames
import InjectionPlan.Proofs.MarkerEdits
import InjectionPlan.Proofs.JournalAccounts
import InjectionPlan.Proofs.LastingFaults
import InjectionPlan.Proofs.StoredForms
import InjectionPlan.Proofs.RecursiveWalks
import InjectionPlan.Proofs.SourceLocations
import InjectionPlan.Proofs.DistinctPairings
import InjectionPlan.Proofs.InterfacesOfBases
import InjectionPlan.Proofs.ClassContracts
import InjectionPlan.Proofs.ClosedRules
import InjectionPlan.Proofs.Freezing
import InjectionPlan.Proofs.NearestFirst
import InjectionPlan.Proofs.LifetimeSpellings
import InjectionPlan.Proofs.MarkerHistory
import InjectionPlan.Proofs.FilledMessages
import InjectionPlan.Proofs.ClosingInSteps
import InjectionPlan.Proofs.NamedAlike
