import Mathlib.Algebra.Group.Nat.Defs
import WattGateway.Lib.Table

/-!
# The message gateway's data

The values that pass through `message-gateway/src/service.rs`. The types of the `wattswarm` crates
are taken with the fields the gateway reads, and their functions are the fields of `Wattswarm`. A
SHA-256 digest is kept as what was hashed (`Digest`): collisions are left out.
-/

namespace WattGateway.Message

abbrev Bytes := List UInt8

inductive DeliveryClass where
  | interactive
  | bulk
  deriving DecidableEq

namespace DeliveryClass

def all : List DeliveryClass := [interactive, bulk]

def asStr : DeliveryClass → String
  | interactive => "interactive"
  | bulk => "bulk"

@[simp] lemma mem_all (c : DeliveryClass) : c ∈ all := by cases c <;> decide

end DeliveryClass

inductive PropagationLane where
  | events
  | messages
  | rules
  | checkpoints
  | summaries
  deriving DecidableEq

inductive SwarmScope where
  | global
  | region (id : String)
  | node (id : String)
  | group (id : String)
  deriving DecidableEq

inductive ScopeHint where
  | global
  | region (id : String)
  | node (id : String)
  | group (id : String)
  deriving DecidableEq

def scopeFromHint : ScopeHint → SwarmScope
  | .global => .global
  | .region id => .region id
  | .node id => .node id
  | .group id => .group id

structure EventTransportRoute where
  scope : SwarmScope
  lane : PropagationLane
  address : String
  deriving DecidableEq

inductive EventDeliveryUrgency where
  | explicitRecipient
  | timeSensitiveControl
  | background
  deriving DecidableEq

/-- The roles the gateway names, and any other of the protocol. -/
inductive Role where
  | proposer
  | verifier
  | committer
  | finalizer
  | other (name : String)
  deriving DecidableEq

/-- The members of a network with their role sets. -/
abbrev Membership := Table String (List Role)

structure SignatureEnvelope where
  signerNodeId : String
  signatureHex : String
  deriving DecidableEq

structure MembershipUpdatedPayload where
  newMembership : Membership
  quorumThreshold : Nat
  quorumSignatures : List SignatureEnvelope

structure FeedSubscriptionUpdatedPayload where
  /-- `payload.scope()`. -/
  scope : Option ScopeHint
  subscriberNodeId : String
  active : Bool

inductive EventPayload where
  | membershipUpdated (p : MembershipUpdatedPayload)
  | feedSubscriptionUpdated (p : FeedSubscriptionUpdatedPayload)
  | policyTuned
  | networkParamsUpdated
  | checkpointCreated
  | advisoryCreated
  | advisoryApproved
  | advisoryApplied
  | eventRevoked
  | summaryRevoked
  | nodePenalized
  | other

structure Event where
  eventId : String
  authorNodeId : String
  swarmScope : String
  /-- The `Debug` text of the event kind. -/
  eventKind : String
  payload : EventPayload
  signatureHex : String

structure RuleAnnouncement where
  scope : SwarmScope
  ruleSet : String
  ruleVersion : Nat
  activationEpoch : Nat
  authoritySignerNodeId : Option String
  authoritySignatureHex : Option String

structure CheckpointAnnouncement where
  scope : SwarmScope
  checkpointId : String
  artifactPath : String
  authoritySignerNodeId : Option String
  authoritySignatureHex : Option String

structure SummaryAnnouncement where
  summaryId : String
  sourceNodeId : String
  scope : SwarmScope

structure NetworkMembershipGrant where
  networkId : String
  principalId : String
  publicKeyHex : String
  issuerGenesisId : String
  issuedAt : Nat
  expiresAt : Option Nat
  signatureHex : String

inductive PublishPayloadType where
  | event
  | message
  | rule
  | checkpoint
  | summary
  deriving DecidableEq

structure PublishRoute where
  networkId : String
  transport : EventTransportRoute

/-- What a client posts to `/v1/publish`. -/
structure PublishFrame where
  framingVersion : String
  deliveryPolicyVersion : Nat
  recordId : String
  route : PublishRoute
  payloadType : PublishPayloadType
  payload : Bytes

/-- What a client posts to `/v1/control`. -/
structure ControlFrame where
  framingVersion : String
  networkId : String
  sourcePrincipalId : String
  targetPrincipalId : String
  correlationId : String
  controlKind : String
  payload : Bytes
  signatureHex : String

structure VerifiedSession where
  networkId : String
  principalId : String

/-- `publish_receipt`: a fresh id, or the reference to an earlier receipt. -/
inductive ReceiptRef where
  | fresh
  | existing (recordId : String)
  deriving DecidableEq

structure PublishAcceptance where
  publishReceipt : ReceiptRef
  recordId : String
  deliveryClass : DeliveryClass
  deliveryPolicyVersion : Nat
  membershipVersion : Option String
  deriving DecidableEq

structure GrantAdmissionResponse where
  networkId : String
  principalId : String
  membershipVersion : String
  status : String
  deriving DecidableEq

structure ControlAcceptance where
  correlationId : String
  deliveryId : String
  deriving DecidableEq

/-- A SHA-256 digest, by what was hashed. -/
inductive Digest where
  /-- `Sha256::digest(frame.payload)`. -/
  | record (payload : Bytes)
  /-- The JSON of a transport route. -/
  | route (r : EventTransportRoute)
  /-- The JSON of `(network_id, address, membership_version)`. -/
  | scopeRoute (network address version : String)
  /-- The JSON of `(network_id, principal_id)`. -/
  | directRoute (network principal : String)
  /-- The JSON of target, kind and payload of a control frame. -/
  | controlBinding (target kind : String) (payload : Bytes)
  /-- `"{route_hash}:{membership_version}:{expected_recipients}"`. -/
  | bindingSet (routeHash : Digest) (version : String) (expected : Nat)
  /-- A text. -/
  | text (s : String)
  deriving DecidableEq

/-- The messages that signatures other than an event's own cover. -/
inductive SignedMessage where
  /-- `serde_json::to_vec(membership)`. -/
  | membership (m : Membership)
  | rule (scope : SwarmScope) (ruleSet : String) (ruleVersion activationEpoch : Nat)
  | checkpoint (scope : SwarmScope) (checkpointId artifactPath : String)
  /-- `control_frame_signing_message(frame)`. -/
  | control (frame : ControlFrame)

/-- The functions of the `wattswarm` crates the gateway calls. A `Result` whose error text the
gateway passes on is an `Option` or a `Bool`. -/
structure Wattswarm where
  verifySignature : String → SignedMessage → String → Bool
  verifyEventSignature : Event → Bool
  verifyNetworkMembershipGrant : NetworkMembershipGrant → String → Nat → Bool
  networkMembershipGrantId : NetworkMembershipGrant → Option String
  decodeEvent : Bytes → Option Event
  decodeRule : Bytes → Option RuleAnnouncement
  decodeCheckpoint : Bytes → Option CheckpointAnnouncement
  decodeSummary : Bytes → Option SummaryAnnouncement
  parseScopeHint : String → Option ScopeHint
  scopeLabel : SwarmScope → Option String
  laneStr : PropagationLane → String
  fromKindLabel : SwarmScope → PropagationLane → String → Bool → Option EventTransportRoute
  deliveryClassForRecord : PropagationLane → EventDeliveryUrgency → DeliveryClass
  deliveryPolicyVersion : Nat
  stableDeliveryId : String → String → String → Option String → Option String
  /-- `hex::encode` of a digest. -/
  hex : Digest → String

abbrev Wattswarm.LabelsGlobal (X : Wattswarm) : Prop := X.scopeLabel .global = some "global"

/-- The settings the modelled functions read; durations are in milliseconds. -/
structure Config where
  trustedNetworkGenesis : Table String String
  maxActiveTenants : Nat
  maxFanoutRecipients : Nat
  clusterQueueLimit : Nat
  mailboxShardAdmissionPercent : Nat
  maxGlobalPublishesPerSecond : Nat
  globalInteractiveReservedPerSecond : Nat
  globalPublishBurst : Nat
  reservedNonGlobalDeliveriesPerSecond : Nat
  maxFanoutDeliveriesPerSecond : Nat
  fanoutAdmissionUtilizationPercent : Nat
  maxFanoutBytesPerPublish : Nat
  mailboxMessageTtlMs : Nat
  membershipMutationWindow : Nat
  maxMembershipMutationsPerScopePerWindow : Nat
  maxMembershipBindingLag : Nat

/-! ## Machine integers -/

def u64Max : Nat := 2 ^ 64 - 1

def i64Max : Nat := 2 ^ 63 - 1

def satMul (a b : Nat) : Nat := min (a * b) u64Max

def satAdd (a b : Nat) : Nat := min (a + b) u64Max

def checkedMul (a b : Nat) : Option Nat := if a * b ≤ u64Max then some (a * b) else none

end WattGateway.Message
