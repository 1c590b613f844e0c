import AnchorLayout.Main
import AnchorLayout.Proofs.Solution
import AnchorLayout.Proofs.Dependencies
import AnchorLayout.Proofs.Lanes
import AnchorLayout.Proofs.Parallel
import AnchorLayout.Proofs.Answers
import AnchorLayout.Proofs.Outcome
import AnchorLayout.Proofs.Transposition
import AnchorLayout.Proofs.Mirror
import AnchorLayout.Proofs.Centering
import AnchorLayout.Proofs.Block
import AnchorLayout.Proofs.Consistency
import AnchorLayout.Proofs.ParentEdges
import AnchorLayout.Proofs.Enclosure
import AnchorLayout.Proofs.Givers
import AnchorLayout.Proofs.Rewrapping
import AnchorLayout.Proofs.BaselineChild
import AnchorLayout.Proofs.Failure
import AnchorLayout.Proofs.Matching
import AnchorLayout.Proofs.Permutation
import AnchorLayout.Proofs.Shortcut
import AnchorLayout.Proofs.Independence
import AnchorLayout.Proofs.Shifting
import AnchorLayout.Proofs.Removal
import AnchorLayout.Proofs.Roundtrip
import AnchorLayout.Proofs.Naming
import AnchorLayout.Proofs.Layering
import AnchorLayout.Proofs.Recycling
import AnchorLayout.Proofs.Headroom
import AnchorLayout.Proofs.Topmost
import AnchorLayout.Proofs.Circularity
import AnchorLayout.Proofs.Sizing
import AnchorLayout.Proofs.Unguided
import AnchorLayout.Proofs.Families
import AnchorLayout.Proofs.ContentSize
import AnchorLayout.Proofs.OpenEdges
import AnchorLayout.Proofs.Fallback
import AnchorLayout.Proofs.Versions
import AnchorLayout.Proofs.Flags
import AnchorLayout.Proofs.Fences
import AnchorLayout.Proofs.Comments
import AnchorLayout.Proofs.Walks
import AnchorLayout.Proofs.Requests
import AnchorLayout.Proofs.Stored
