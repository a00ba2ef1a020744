import ApiModel.Contract.Encode
import ApiModel.Main
import ApiModel.Proofs.Generation.Identifiers
import ApiModel.Proofs.Generation.References
import ApiModel.Proofs.Generation.Grouping
import ApiModel.Proofs.Generation.Operations
import ApiModel.Proofs.Generation.Appending
import ApiModel.Proofs.Generation.MethodNames
import ApiModel.Proofs.Contract.Positions
import ApiModel.Proofs.Contract.Spelling
import ApiModel.Proofs.Contract.Respelling
import ApiModel.Proofs.Contract.Rereading
import ApiModel.Proofs.Resolution.Steps
import ApiModel.Proofs.Resolution.Spelling
import ApiModel.Proofs.Resolution.Respelling
import ApiModel.Proofs.Generation.Respelling
import ApiModel.Proofs.Generation.ModelNames
import ApiModel.Proofs.Generation.Rendering
import ApiModel.Proofs.Generation.Signatures
import ApiModel.Proofs.Resolution.Acyclic
import ApiModel.Proofs.Resolution.Detectors
import ApiModel.Proofs.Resolution.Failing
import ApiModel.Proofs.Generation.Cycles
import ApiModel.Proofs.Resolution.Following
import ApiModel.Proofs.Resolution.Ways
import ApiModel.Proofs.Resolution.Faults
import ApiModel.Proofs.Generation.Inlining
import ApiModel.Proofs.Resolution.ModelForm
import ApiModel.Proofs.Generation.NamedModels
import ApiModel.Proofs.Resolution.Ancestors
import ApiModel.Proofs.Resolution.HeldProperties
import ApiModel.Proofs.Generation.Inheritance
import ApiModel.Proofs.Generation.InheritedProperties
import ApiModel.Proofs.Resolution.Meaning
import ApiModel.Proofs.Generation.Synonyms
import ApiModel.Proofs.Generation.ApiNames
import ApiModel.Proofs.Generation.Boxing
import ApiModel.Proofs.Generation.FieldSemantics
import ApiModel.Proofs.Contract.Standing
import ApiModel.Proofs.Resolution.Standing
import ApiModel.Proofs.Resolution.Targets
import ApiModel.Proofs.Generation.Discriminators
import ApiModel.Proofs.Document.Entries
import ApiModel.Proofs.Resolution.Merging
import ApiModel.Proofs.Resolution.Unfolding
import ApiModel.Proofs.Resolution.Errors
import ApiModel.Proofs.Resolution.Unmapped
import ApiModel.Proofs.Generation.Flattening
import ApiModel.Proofs.Generation.Extension
import ApiModel.Proofs.Generation.TypeMapping
import ApiModel.Proofs.Decimal.Finite
import ApiModel.Proofs.Document.Finite
import ApiModel.Proofs.Json.Fields
import ApiModel.Proofs.Json.Reader
import ApiModel.Proofs.Json.Writing
import ApiModel.Proofs.Json.Restoring
import ApiModel.Proofs.Resolution.Relocating
import ApiModel.Proofs.Resolution.Relating
import ApiModel.Proofs.Resolution.Traceless
import ApiModel.Proofs.Resolution.Transparency
import ApiModel.Proofs.Resolution.Chains
import ApiModel.Proofs.Resolution.EnumDefaults
import ApiModel.Proofs.Text.Octets
import ApiModel.Proofs.Generation.Imports
import ApiModel.Proofs.Generation.Sharing
import ApiModel.Proofs.Resolution.NullDefaults
import ApiModel.Proofs.Resolution.EnumNames
import ApiModel.Proofs.Generation.EnumNames
import ApiModel.Proofs.Resolution.Parameters
import ApiModel.Proofs.Generation.Nullability
import ApiModel.Proofs.Resolution.Quoting
import ApiModel.Proofs.Settings.SpecLocation
import ApiModel.Proofs.Generation.Substitution
import ApiModel.Proofs.Name.Requests
