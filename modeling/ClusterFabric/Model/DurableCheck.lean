import ClusterFabric.Lib.Validation
import ClusterFabric.Model.Durable

/-! # Structural validation of durable state

`validate_persisted_state`: the rules a decoded container must satisfy before
anything is recovered from it. The first rule that is broken is reported.
-/

namespace ClusterFabric

open Lib Check

/-- A failure of a durable operation. -/
structure PersistenceFailure where
  status : PersistenceStatus
  detail : Text
  status_ne_ok : status ≠ .ok

def fail (status : PersistenceStatus) (detail : Text)
    (h : status ≠ .ok := by exact PersistenceStatus.Failing.ne_ok) : PersistenceFailure :=
  ⟨status, detail, h⟩

/-- `known()`, and accepted by `validate_identity`. -/
def StrongId.isWellFormed {tag : IdTag} (id : StrongId tag) : Bool := !id.isEmpty && id.isValid

@[simp] theorem StrongId.isWellFormed_eq {tag : IdTag} (id : StrongId tag) :
    id.isWellFormed = !id.isEmpty := by
  rw [isWellFormed, isEmpty_eq_not_isValid]
  cases id.isValid <;> rfl

/-- Quantities are ordered by unit, then by provenance. -/
def CapacityQuantity.durableKey (q : CapacityQuantity) : Text ×ₗ Nat :=
  toLex (q.unit, Enumeration.raw q.provenance)

/-- The name of a kind in the messages of the check. -/
def DomainKind.checkLabel : DomainKind → Text
  | .placement => text "placement domain"
  | .capacity => text "capacity domain"
  | .failure => text "failure domain"
  | .network => text "network domain"
  | .storage => text "storage domain"
  | .power => text "power domain"
  | .cooling => text "cooling domain"
  | .link => text "link domain"

/-- Whether a text is empty or longer than one encoded string. -/
def isUnbounded (value : Text) : Bool := value.isEmpty || maxEncodedStringBytes < value.length

namespace PersistedState

variable (p : PersistedState)

def rackIds : List RackId := p.racks.map DurableRack.rack

def rackExists (rack : RackId) : Bool := binarySearch p.rackIds rack

/-! ## Parts -/

def checkScalars : Except PersistenceFailure Unit := do
  failIf (!p.id.isWellFormed)
    (fail .invalidIdentity (text "cluster identity is missing or malformed"))
  failIf (!p.epoch.known) (fail .invalidEpoch (text "cluster epoch is zero"))
  failIf (!p.lastCoordinatorEpoch.known) (fail .invalidEpoch (text "coordinator epoch is zero"))
  failIf (!p.generation.known || !p.membershipGeneration.known || !p.topologyGeneration.known ||
      !p.connectivityGeneration.known || !p.healthGeneration.known ||
      !p.constraintGeneration.known || !p.snapshotGeneration.known ||
      !p.publicationGeneration.known)
    (fail .invalidGeneration (text "a top-level generation is zero"))
  failIf (!p.topologyEpoch.known && !p.topologyRecord.epoch.known)
    (fail .invalidEpoch (text "no topology epoch is recorded"))

/-- The bound on one top-level list. -/
def checkCount (what : String) (count limit : Nat) : Except PersistenceFailure Unit :=
  failIf (limit < count)
    (fail .absurdCount (text what ++ text " count " ++ decimal count ++ text " exceeds the bound"))

def checkEndpoint (rack : Text) (previous : Option RackEndpoint) (endpoint : RackEndpoint) :
    Except PersistenceFailure Unit := do
  failIf (!endpoint.id.isWellFormed)
    (fail .invalidIdentity (rack ++ text " has a malformed endpoint identity"))
  failIf (notAfter RackEndpoint.id previous endpoint)
    (fail .invalidState (rack ++ text " endpoints are duplicated or not sorted"))

def checkHint (rack : Text) (previous : Option RackFailureDomainHint)
    (hint : RackFailureDomainHint) : Except PersistenceFailure Unit := do
  failIf (hint.klass = .unknown)
    (fail .invalidEnum (rack ++ text " declares an UNKNOWN failure domain class"))
  failIf (!hint.id.isWellFormed)
    (fail .invalidIdentity (rack ++ text " has a malformed failure domain identity"))
  failIf (notAfter RackFailureDomainHint.key previous hint)
    (fail .invalidState (rack ++ text " failure domain hints are duplicated or not sorted"))

def checkRack (previous : Option DurableRack) (rack : DurableRack) :
    Except PersistenceFailure Unit := do
  let named := text "rack " ++ rack.rack.value
  failIf (!rack.rack.isWellFormed)
    (fail .invalidIdentity (text "a rack identity is missing or malformed"))
  failIf (!rack.generation.known)
    (fail .invalidGeneration (named ++ text " has a zero generation"))
  failIf (!rack.publisher.isWellFormed)
    (fail .invalidIdentity (named ++ text " has no valid publisher"))
  failIf (notAfter DurableRack.rack previous rack)
    (fail .duplicateRackIdentity (named ++ text " is duplicated or the rack list is not sorted"))
  failIf (maxRackEndpoints < rack.endpoints.length)
    (fail .boundsExceeded (named ++ text " declares too many endpoints"))
  sequence (checkEndpoint named) rack.endpoints
  failIf (maxFailureDomainRefs < rack.failureDomainHints.length)
    (fail .boundsExceeded (named ++ text " declares too many failure domains"))
  sequence (checkHint named) rack.failureDomainHints

def checkMember (previous : Option RackId) (member : RackId) : Except Text Unit := do
  failIf (!member.isWellFormed) (text "member identity is missing or malformed")
  failIf (notAfter (fun rack => rack) previous member)
    (text "member list is duplicated or not sorted")
  failIf (!p.rackExists member)
    (text "member rack " ++ member.value ++ text " does not exist")

/-- `member_list_ok`. -/
def memberListOk (members : List RackId) : Except Text Unit := do
  failIf (maxDomainMembers < members.length) (text "member list exceeds the bound")
  sequence p.checkMember members

/-- The member list of a domain or a constraint, whose failures name it. -/
def checkMembers (owner : Text) (members : List RackId) : Except PersistenceFailure Unit :=
  (p.memberListOk members).mapError fun detail =>
    fail .danglingReference (owner ++ text ": " ++ detail)

def checkDomain {k : DomainKind} (previous : Option (Domain k)) (domain : Domain k) :
    Except PersistenceFailure Unit := do
  let named := k.checkLabel ++ text " " ++ domain.id.value
  failIf (!domain.id.isWellFormed)
    (fail .invalidIdentity (k.checkLabel ++ text " identity is missing or malformed"))
  failIf (!domain.header.generation.known)
    (fail .invalidGeneration (named ++ text " has a zero generation"))
  failIf (notAfter Domain.id previous domain)
    (fail .invalidState (k.checkLabel ++ text " list is duplicated or not sorted"))
  p.checkMembers named domain.racks

def checkDomainList (k : DomainKind) : Except PersistenceFailure Unit := do
  failIf (maxDomainsPerClass < (p.domains k).length)
    (fail .absurdCount (k.checkLabel ++ text " count exceeds the bound"))
  sequence p.checkDomain (p.domains k)

def checkQuantity (domain : Text) (previous : Option CapacityQuantity)
    (quantity : CapacityQuantity) : Except PersistenceFailure Unit := do
  failIf (isUnbounded quantity.unit)
    (fail .invalidState (domain ++ text " has a quantity without a bounded unit"))
  failIf (quantity.value.any fun value => !value.isFinite)
    (fail .invalidState (domain ++ text " has a non-finite quantity"))
  failIf (notAfter CapacityQuantity.durableKey previous quantity)
    (fail .invalidState (domain ++ text " quantities are duplicated or not sorted"))

def checkQuantities (domain : Domain .capacity) : Except PersistenceFailure Unit := do
  let named := text "capacity domain " ++ domain.id.value
  let quantities := CapacityDetail.quantities domain.detail
  failIf (maxCapacityQuantities < quantities.length)
    (fail .boundsExceeded (named ++ text " declares too many quantities"))
  sequence (checkQuantity named) quantities

/-- A domain that a link refers to must be recorded. -/
def domainExists (k : DomainKind) (id : DomainId k) : Bool :=
  binarySearch ((p.domains k).map Domain.id) id

def checkLink (previous : Option InterRackLink) (link : InterRackLink) :
    Except PersistenceFailure Unit := do
  let named := text "link " ++ link.id.value
  failIf (!link.id.isWellFormed)
    (fail .invalidIdentity (text "an inter-rack link identity is malformed"))
  failIf (link.source.isEmpty || link.destination.isEmpty || link.source == link.destination)
    (fail .invalidState (named ++ text " does not connect two distinct racks"))
  failIf (!p.rackExists link.source || !p.rackExists link.destination)
    (fail .danglingReference (named ++ text " references an unknown rack"))
  failIf (!link.header.generation.known || !link.topologyEpoch.known)
    (fail .invalidGeneration (named ++ text " has a zero generation or epoch"))
  failIf (link.networkDomain.any fun domain => !p.domainExists .network domain)
    (fail .danglingReference (named ++ text " references an unknown network domain"))
  failIf (link.linkDomain.any fun domain => !p.domainExists .link domain)
    (fail .danglingReference (named ++ text " references an unknown link domain"))
  failIf (notAfter InterRackLink.id previous link)
    (fail .invalidState (text "inter-rack links are duplicated or not sorted"))

def checkConstraint (previous : Option ClusterConstraint) (constraint : ClusterConstraint) :
    Except PersistenceFailure Unit := do
  let named := text "constraint " ++ constraint.id.value
  failIf (!constraint.id.isWellFormed)
    (fail .invalidIdentity (text "a constraint identity is malformed"))
  failIf (constraint.kind = .unknown)
    (fail .invalidEnum (named ++ text " has an UNKNOWN kind"))
  failIf (!constraint.header.generation.known)
    (fail .invalidGeneration (named ++ text " has a zero generation"))
  p.checkMembers named constraint.racks
  failIf (notAfter ClusterConstraint.id previous constraint)
    (fail .invalidState (text "constraints are duplicated or not sorted"))

def checkRetired (previous : Option RetiredIdentity) (retired : RetiredIdentity) :
    Except PersistenceFailure Unit := do
  failIf (!retired.rack.isWellFormed)
    (fail .invalidIdentity (text "a retired rack identity is malformed"))
  failIf (!retired.lastGeneration.known)
    (fail .invalidGeneration
      (text "retired rack " ++ retired.rack.value ++ text " has a zero last generation"))
  failIf (notAfter RetiredIdentity.rack previous retired)
    (fail .invalidState (text "retired racks are duplicated or not sorted"))

def checkWithdrawn (previous : Option RackId) (rack : RackId) :
    Except PersistenceFailure Unit := do
  failIf (!rack.isWellFormed)
    (fail .invalidIdentity (text "a withdrawn rack identity is malformed"))
  failIf (notAfter (fun rack => rack) previous rack)
    (fail .invalidState (text "withdrawn racks are duplicated or not sorted"))
  failIf (p.retiredRacks.any fun entry => entry.rack == rack)
    (fail .invalidState
      (text "rack " ++ rack.value ++ text " is recorded as both withdrawn and retired"))

/-- The order of the fenced list is not checked. -/
def checkFenced (fenced : FencedAuthority) : Except PersistenceFailure Unit := do
  failIf (!fenced.boot.isWellFormed)
    (fail .invalidIdentity (text "a fenced boot identity is malformed"))
  failIf (!fenced.rack.isWellFormed)
    (fail .invalidIdentity (text "a fenced rack identity is malformed"))
  failIf (isUnbounded fenced.reason)
    (fail .invalidState
      (text "fenced boot " ++ fenced.boot.value ++ text " has no bounded reason"))

end PersistedState

/-- `validate_persisted_state`. -/
def validatePersistedState (p : PersistedState) : Except PersistenceFailure Unit := do
  p.checkScalars
  PersistedState.checkCount "rack" p.racks.length maxRacksPerCluster
  PersistedState.checkCount "link" p.links.length maxInterRackLinks
  PersistedState.checkCount "constraint" p.constraints.length maxConstraints
  sequence PersistedState.checkRack p.racks
  forEach p.checkDomainList DomainKind.all
  forEach PersistedState.checkQuantities (p.domains .capacity)
  sequence p.checkLink p.links
  sequence p.checkConstraint p.constraints
  sequence PersistedState.checkRetired p.retiredRacks
  sequence p.checkWithdrawn p.withdrawnRacks
  forEach PersistedState.checkFenced p.fencedAuthorities

end ClusterFabric
