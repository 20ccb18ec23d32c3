import Mathlib.Data.FinEnum
import Mathlib.Data.UInt

/-! # Identities and generations

`identity.hpp` and `generation.hpp`: bounded textual identities and 64-bit
counters, each tagged with the thing it names so that two kinds never mix.

An identity is default-constructed empty or parsed; the constructor that takes
text is private. So a `StrongId` carries the proof that its text is empty or
valid, and every bound on identities in the source holds by construction.
-/

namespace ClusterFabric

/-- A byte string. -/
abbrev Text := List UInt8

/-- The bytes of a literal of the source. -/
def text (s : String) : Text := s.toUTF8.data.toList

/-- The decimal rendering of a number. -/
def decimal (n : Nat) : Text := (Nat.toDigits 10 n).map fun c => c.toNat.toUInt8

/-- Bytes are compared by value. -/
instance instLinearOrderUInt8 : LinearOrder UInt8 where
  le_refl a := UInt8.le_refl a
  le_trans _ _ _ := UInt8.le_trans
  lt_iff_le_not_ge a b := by
    rw [UInt8.lt_iff_toNat_lt, UInt8.le_iff_toNat_le, UInt8.le_iff_toNat_le]
    omega
  le_antisymm _ _ := UInt8.le_antisymm
  le_total a b := by
    rw [UInt8.le_iff_toNat_le, UInt8.le_iff_toNat_le]
    omega
  toDecidableLE := inferInstance
  toDecidableEq := inferInstance
  toDecidableLT := inferInstance

/-! ## Identities -/

/-- `kMaxIdentityLength`. -/
def maxIdentityLength : Nat := 128

inductive IdentityStatus
  | ok | empty | tooLong | invalidCharacter | reserved
  deriving DecidableEq, Repr

structure IdentityValidation where
  status : IdentityStatus := .ok
  position : Nat := 0
  deriving DecidableEq

def IdentityValidation.isOk (v : IdentityValidation) : Bool := v.status == .ok

def isIdentityChar (c : UInt8) : Bool :=
  (48 ≤ c && c ≤ 57) || (97 ≤ c && c ≤ 122) || (65 ≤ c && c ≤ 90) ||
    -- '-', '_', '.', ':', '@'
    c == 45 || c == 95 || c == 46 || c == 58 || c == 64

/-- The position of the first "..". -/
def findDoubleDot : Text → Option Nat
  | a :: b :: rest =>
    if a == 46 && b == 46 then some 0 else (findDoubleDot (b :: rest)).map (· + 1)
  | _ => none

def validateIdentity (value : Text) : IdentityValidation :=
  if value.isEmpty then ⟨.empty, 0⟩
  else if maxIdentityLength < value.length then ⟨.tooLong, maxIdentityLength⟩
  else
    match value.findIdx? fun c => !isIdentityChar c with
    | some i => ⟨.invalidCharacter, i⟩
    | none =>
      if value = text "." ∨ value = text ".." then ⟨.reserved, 0⟩
      else
        match findDoubleDot value with
        | some i => ⟨.reserved, i⟩
        | none => {}

/-- Labels allow every printable character, including spaces. -/
def validateLabel (value : Text) : IdentityValidation :=
  if value.isEmpty then ⟨.empty, 0⟩
  else if maxIdentityLength < value.length then ⟨.tooLong, maxIdentityLength⟩
  else
    match value.findIdx? fun c => c < 0x20 || 0x7E < c with
    | some i => ⟨.invalidCharacter, i⟩
    | none => {}

theorem length_le_of_validateIdentity {value : Text} (h : (validateIdentity value).isOk = true) :
    value.length ≤ maxIdentityLength := by
  by_contra hlen
  have hne : value.isEmpty = false := by
    cases value with
    | nil => simp at hlen
    | cons => rfl
  rw [validateIdentity, hne, if_neg Bool.false_ne_true, if_pos (not_le.mp hlen)] at h
  cases h

theorem length_le_of_validateLabel {value : Text} (h : (validateLabel value).isOk = true) :
    value.length ≤ maxIdentityLength := by
  by_contra hlen
  have hne : value.isEmpty = false := by
    cases value with
    | nil => simp at hlen
    | cons => rfl
  rw [validateLabel, hne, if_neg Bool.false_ne_true, if_pos (not_le.mp hlen)] at h
  cases h

/-- What an identity names. -/
inductive IdTag
  | cluster | rack | rackAgentBoot | rackPublisher | rackEndpoint
  | placementDomain | capacityDomain | failureDomain | networkDomain
  | storageDomain | powerDomain | coolingDomain | linkDomain
  | interRackLink | constraint
  deriving DecidableEq, Repr

/-- A textual identity: unset, or accepted by `validateIdentity`. -/
structure StrongId (tag : IdTag) where
  value : Text
  wf : value = [] ∨ (validateIdentity value).isOk = true

namespace StrongId

variable {tag : IdTag}

/-- The default-constructed identity. -/
def unset : StrongId tag := ⟨[], .inl rfl⟩

def parse (value : Text) : Option (StrongId tag) :=
  if h : (validateIdentity value).isOk = true then some ⟨value, .inr h⟩ else none

/-- The identity with the given text, unset when the text is not valid. -/
def named (value : String) : StrongId tag := (parse (text value)).getD unset

def isEmpty (id : StrongId tag) : Bool := id.value.isEmpty

/-- `is_valid(view())`. -/
def isValid (id : StrongId tag) : Bool := (validateIdentity id.value).isOk

theorem value_injective : Function.Injective (value : StrongId tag → Text) := by
  rintro ⟨a, _⟩ ⟨b, _⟩ h
  cases h
  rfl

/-- Identities are compared as byte strings. -/
instance : LinearOrder (StrongId tag) := LinearOrder.lift' value value_injective

theorem isValid_of_not_isEmpty {id : StrongId tag} (h : id.isEmpty = false) :
    id.isValid = true := by
  rcases id.wf with hnil | hok
  · simp [isEmpty, hnil] at h
  · exact hok

theorem isEmpty_eq_not_isValid (id : StrongId tag) : id.isEmpty = !id.isValid := by
  cases h : id.isEmpty with
  | false => simp [isValid_of_not_isEmpty h]
  | true =>
    have hnil : id.value = [] := by simpa [isEmpty] using h
    simp [isValid, hnil, validateIdentity, IdentityValidation.isOk]

@[simp] theorem parse_value {id : StrongId tag} (h : id.isEmpty = false) :
    (parse id.value : Option (StrongId tag)) = some id := by
  have hok : (validateIdentity id.value).isOk = true := isValid_of_not_isEmpty h
  rw [parse, dif_pos hok]

end StrongId

abbrev ClusterId := StrongId .cluster
abbrev RackId := StrongId .rack
abbrev RackAgentBootId := StrongId .rackAgentBoot
abbrev RackPublisherId := StrongId .rackPublisher
abbrev RackEndpointId := StrongId .rackEndpoint
abbrev PlacementDomainId := StrongId .placementDomain
abbrev CapacityDomainId := StrongId .capacityDomain
abbrev FailureDomainId := StrongId .failureDomain
abbrev NetworkDomainId := StrongId .networkDomain
abbrev StorageDomainId := StrongId .storageDomain
abbrev PowerDomainId := StrongId .powerDomain
abbrev CoolingDomainId := StrongId .coolingDomain
abbrev LinkDomainId := StrongId .linkDomain
abbrev InterRackLinkId := StrongId .interRackLink
abbrev ConstraintId := StrongId .constraint

/-! ## Generations -/

/-- What a counter counts. -/
inductive CounterTag
  | clusterEpoch | coordinatorEpoch | clusterGeneration | membershipGeneration
  | topologyEpoch | topologyGeneration | connectivityGeneration | healthGeneration
  | constraintGeneration | snapshotGeneration | publicationGeneration
  | rackGeneration | domainGeneration
  deriving DecidableEq, Repr

/-- A 64-bit counter. Zero is "unknown". -/
structure StrongCounter (tag : CounterTag) where
  value : Nat
  isLt : value < 2 ^ 64

namespace StrongCounter

variable {tag : CounterTag}

/-- The default-constructed counter. -/
def unknown : StrongCounter tag := ⟨0, by decide⟩

def fromRaw (value : UInt64) : StrongCounter tag := ⟨value.toNat, value.toNat_lt⟩

theorem value_injective : Function.Injective (value : StrongCounter tag → Nat) := by
  rintro ⟨a, _⟩ ⟨b, _⟩ h
  cases h
  rfl

theorem ext_value {a b : StrongCounter tag} (h : a.value = b.value) : a = b := value_injective h

instance : LinearOrder (StrongCounter tag) := LinearOrder.lift' value value_injective

theorem lt_iff {a b : StrongCounter tag} : a < b ↔ a.value < b.value := Iff.rfl

theorem le_iff {a b : StrongCounter tag} : a ≤ b ↔ a.value ≤ b.value := Iff.rfl

def known (c : StrongCounter tag) : Bool := c.value != 0

def isZero (c : StrongCounter tag) : Bool := c.value == 0

theorem known_iff {c : StrongCounter tag} : c.known = true ↔ 0 < c.value := by
  simp [known, Nat.pos_iff_ne_zero]

/-- The successor, absent at the maximum. -/
def next (c : StrongCounter tag) : Option (StrongCounter tag) :=
  if h : c.value + 1 < 2 ^ 64 then some ⟨c.value + 1, h⟩ else none

theorem next_eq_some {c d : StrongCounter tag} : c.next = some d ↔ d.value = c.value + 1 := by
  unfold next
  split_ifs with h
  · rw [Option.some.injEq]
    constructor
    · rintro rfl
      rfl
    · intro hd
      exact ext_value hd.symm
  · simp only [false_iff]
    intro hd
    exact h (hd ▸ d.isLt)

/-- The decimal text of the counter. -/
def str (c : StrongCounter tag) : Text := decimal c.value

end StrongCounter

abbrev ClusterEpoch := StrongCounter .clusterEpoch
abbrev CoordinatorEpoch := StrongCounter .coordinatorEpoch
abbrev ClusterGeneration := StrongCounter .clusterGeneration
abbrev MembershipGeneration := StrongCounter .membershipGeneration
abbrev TopologyEpoch := StrongCounter .topologyEpoch
abbrev TopologyGeneration := StrongCounter .topologyGeneration
abbrev ConnectivityGeneration := StrongCounter .connectivityGeneration
abbrev HealthGeneration := StrongCounter .healthGeneration
abbrev ConstraintGeneration := StrongCounter .constraintGeneration
abbrev SnapshotGeneration := StrongCounter .snapshotGeneration
abbrev PublicationGeneration := StrongCounter .publicationGeneration
abbrev RackGeneration := StrongCounter .rackGeneration
abbrev DomainGeneration := StrongCounter .domainGeneration

end ClusterFabric
