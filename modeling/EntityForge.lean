import EntityForge.Main
import EntityForge.MemoryManifest
import EntityForge.Proofs.Generation.Routes
import EntityForge.Proofs.Model.DocumentOrder
import EntityForge.Proofs.Model.MemberResolution
import EntityForge.Proofs.Model.AnnotatedStructures
import EntityForge.Proofs.Files.Changes
import EntityForge.Proofs.Model.MergeHistory
import EntityForge.Proofs.Generation.Directory
import EntityForge.Proofs.Generation.Refinement
import EntityForge.Proofs.Generation.RoutePaths
import EntityForge.Proofs.Generation.FieldOrder
import EntityForge.Proofs.Model.MemberLocality
import EntityForge.Proofs.Model.AppliedTraits
import EntityForge.Proofs.Files.Rewriting
import EntityForge.Proofs.Generation.Regeneration
import EntityForge.Proofs.Model.RefusedMerge
import EntityForge.Proofs.Model.EntityLocality
import EntityForge.Proofs.Generation.Overwriting
import EntityForge.Proofs.Model.Acceptance
import EntityForge.Proofs.Model.TraitPrecedence
import EntityForge.Proofs.Template.Substitution
import EntityForge.Proofs.Json.Literal
import EntityForge.Proofs.ArtifactInputs
import EntityForge.Proofs.Json.MappedRecord
import EntityForge.Proofs.Interchange
import EntityForge.Proofs.Model.WrittenEntries
import EntityForge.Proofs.Generation.PathAcceptance
import EntityForge.Proofs.Model.NestedCalls
