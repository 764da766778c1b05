import CanisterGateway.Certification.Cbor
import CanisterGateway.Hash.Sha256

/-!
# Hash trees

A hash tree is a labelled tree of which any part may be pruned, leaving only its digest. The root
digest is the same whatever was pruned, so a signature on it vouches for all that is still there.

Labels on one level are sorted. Looking for a label therefore has more answers than "found" and
"absent": a fork may hide the label in a pruned branch, and the label of a branch that is there
tells on which side of it the wanted one would stand.
-/

namespace CanisterGateway.Certification

/-- A tree with labels, some branches of which may be pruned. -/
inductive HashTree
  | empty
  | fork (left right : HashTree)
  | labeled (label : Bytes) (tree : HashTree)
  | leaf (content : Bytes)
  | pruned (digest : Bytes)

namespace HashTree

/-! ## Digests -/

/-- The digest of content in a domain of its own. -/
def domainDigest (domain : String) (content : Bytes) : Bytes :=
  let tag := Bytes.ofText domain
  Hash.Sha256.digest (UInt8.ofNat tag.length :: tag ++ content)

/-- The root digest. -/
def digest : HashTree → Bytes
  | empty => domainDigest "ic-hashtree-empty" []
  | fork left right => domainDigest "ic-hashtree-fork" (left.digest ++ right.digest)
  | labeled label tree => domainDigest "ic-hashtree-labeled" (label ++ tree.digest)
  | leaf content => domainDigest "ic-hashtree-leaf" content
  | pruned digest => digest

/-! ## Lookup -/

/-- The answer to the search for one label. -/
inductive LabelSearch
  | found (tree : HashTree)
  | absent
  | unknown
  | less
  | greater

/-- Looks for a label on the top level of a tree. A label that stands there tells whether the wanted
one would come before (`less`) or after it (`greater`); the right branch of a fork is searched only
if the left one does not settle the question. -/
def searchLabel (wanted : Bytes) : HashTree → LabelSearch
  | empty => .absent
  | leaf _ => .absent
  | pruned _ => .unknown
  | labeled label tree =>
    if wanted = label then .found tree
    else if Bytes.lt wanted label then .less
    else .greater
  | fork left right =>
    match searchLabel wanted left with
    | .greater =>
      match searchLabel wanted right with
      | .less => .absent
      | answer => answer
    | .unknown =>
      match searchLabel wanted right with
      | .less => .unknown
      | answer => answer
    | answer => answer

/-- The answer to the search for a path. -/
inductive Lookup (α : Type)
  | found (x : α)
  | absent
  | unknown
  /-- The path ends within the tree where no leaf is. -/
  | inner

/-- The tree below a path. -/
def lookupTree : List Bytes → HashTree → Lookup HashTree
  | [], tree => .found tree
  | label :: path, tree =>
    match searchLabel label tree with
    | .found below => lookupTree path below
    | .unknown => .unknown
    | _ => .absent

/-- What a path finds if it ends at this tree. -/
def asLeaf : HashTree → Lookup Bytes
  | empty => .absent
  | leaf content => .found content
  | pruned _ => .unknown
  | labeled _ _ => .inner
  | fork _ _ => .inner

/-- The leaf at the end of a path. -/
def lookupLeaf (path : List Bytes) (tree : HashTree) : Lookup Bytes :=
  match lookupTree path tree with
  | .found below => below.asLeaf
  | .absent => .absent
  | .unknown => .unknown
  | .inner => .inner

/-- The content of the leaf at the end of a path, if it is there. -/
def leaf? (path : List Bytes) (tree : HashTree) : Option Bytes :=
  match lookupLeaf path tree with
  | .found content => some content
  | _ => none

/-- Whether there is a tree below the path. -/
def contains (path : List Bytes) (tree : HashTree) : Bool :=
  match lookupTree path tree with
  | .found _ => true
  | _ => false

/-- Whether the tree rules out that there is anything below the path. -/
def excludes (path : List Bytes) (tree : HashTree) : Bool :=
  match lookupTree path tree with
  | .absent => true
  | _ => false

/-! ## Reading -/

/-- The tree that an item writes: an array of a tag and the parts of the node. Further elements are
ignored. -/
def ofItem : Cbor.Item → Except Cbor.Fault HashTree
  | .array (.unsigned octets tag :: parts) =>
    if octets > 1 then .error .malformedTree
    else
      match tag, parts with
      | 0, _ => .ok .empty
      | 1, left :: right :: _ => do
        let left ← ofItem left
        let right ← ofItem right
        return .fork left right
      | 2, .bytes label :: tree :: _ => do
        let tree ← ofItem tree
        return .labeled label tree
      | 3, .bytes content :: _ => .ok (.leaf content)
      | 4, .bytes digest :: _ =>
        if digest.length = 32 then .ok (.pruned digest) else .error .prunedLength
      | _, _ => .error .malformedTree
  | _ => .error .malformedTree

/-- The tree that bytes write. -/
def ofBytes (bytes : Bytes) : Except Cbor.Fault HashTree := do
  ofItem (← Cbor.read bytes)

end HashTree
end CanisterGateway.Certification
