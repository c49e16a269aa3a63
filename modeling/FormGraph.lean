import FormGraph.Main
import FormGraph.Proofs.ClauseEdits
import FormGraph.Proofs.Conditions
import FormGraph.Proofs.Copying
import FormGraph.Proofs.Describing.Document
import FormGraph.Proofs.Dressing.Bundle
import FormGraph.Proofs.Dressing.Unseen
import FormGraph.Proofs.Exporting.Bundle
import FormGraph.Proofs.Homogeneous.Change
import FormGraph.Proofs.Identifiers.Change
import FormGraph.Proofs.ImportTotal
import FormGraph.Proofs.Kept.Document
import FormGraph.Proofs.Mirrored.Objects
import FormGraph.Proofs.Moving.Carried
import FormGraph.Proofs.Moving.Cycles
import FormGraph.Proofs.OwnershipForest
import FormGraph.Proofs.Placing.Children
import FormGraph.Proofs.Promotion.Document
import FormGraph.Proofs.Promotion.Undone
import FormGraph.Proofs.Pruning.Unused
import FormGraph.Proofs.Reading.Reported
import FormGraph.Proofs.References.Removal
import FormGraph.Proofs.References.Integrity
import FormGraph.Proofs.References.Renaming
import FormGraph.Proofs.Registry
import FormGraph.Proofs.Removing
import FormGraph.Proofs.Rooted
import FormGraph.Proofs.SharedBranches
import FormGraph.Proofs.SiblingKeys.Change
import FormGraph.Proofs.Sources.Branches
import FormGraph.Proofs.Sources.Sharing
import FormGraph.Proofs.Sources.Typed
import FormGraph.Proofs.Writing.Emission
import FormGraph.Service.Respond
