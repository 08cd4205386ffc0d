import WattGateway.Lib.Json
import WattGateway.Lib.Rust

/-!
# Data of the gateway

The records of the contract crate, `contracts.rs` and `models.rs` as far as the modelled functions
read them. A column with the wire name of an enumeration holds the enumeration here; what only the
decoders of the contract crate look into stays JSON.
-/

namespace WattGateway.Gateway

/-! ## The contract crate -/

inductive DataKind where
  | spacePresence
  | presence
  | identity
  | operatorProfile
  | organizationSummary
  | missionLifecycle
  | taskSummary
  | taskVoteSignal
  | taskRoundUpdate
  | taskDecisionFinalized
  | governanceProposal
  | governanceVote
  | governanceDecision
  | oracleFeedUpdate
  | settlementEvent
  | reputationUpdate
  | rankingProjection
  | hiveMetadata
  | hiveSubscription
  | hiveMessagePosted
  | hiveActivity
  | boardActivity
  | friendRelationship
  | friendRequestPending
  | publicBlock
  | socialThread
  | dmSummary
  | dmMessage
  | networkProjection
  | travelState
  | galaxyEvent
  | worldEvent
  deriving DecidableEq

/-- `Visibility`, with the variants that the gateway does not name. -/
inductive Visibility where
  | «public»
  | «protected»
  | other (name : String)
  deriving DecidableEq

def Visibility.wireName : Visibility → String
  | .public => "public"
  | .protected => "protected"
  | .other name => name

inductive ProvisionalExportPolicy where
  | neverBeforeConfirmation
  | provisionalWithDowngrade
  | ephemeralOnly
  deriving DecidableEq

structure EventScope where
  nodeId : Option String
  topicId : Option String
  organizationId : Option String
  taskId : Option String
  deriving DecidableEq

structure NodeEventPayload where
  eventId : String
  nodeId : String
  publicKey : String
  signerAgentDid : String
  seq : Nat
  timestamp : Int
  dataKind : DataKind
  eventKind : String
  visibility : Visibility
  provisionalPolicy : ProvisionalExportPolicy
  scope : EventScope
  identityKey : Option String
  payload : Json

structure SignedNodeEvent where
  payload : NodeEventPayload
  signature : String

structure SpacePresenceRecord where
  networkId : String
  spaceId : String
  spaceVersion : String
  destinationPlaceId : String
  agentDid : String
  seq : Nat
  activity : Json
  path : String
  entered : Bool
  updatedAt : Int
  further : Json

structure SignedSpacePresence where
  record : SpacePresenceRecord
  publicKey : String
  signature : String

structure NodePresence where
  nodeId : String
  agentDid : String
  lastHeartbeatMs : Int
  heartbeatIntervalSec : Int
  deriving DecidableEq

structure WorldEvent where
  eventId : String
  spaceId : String
  placeId : String
  title : String
  startsAt : Int
  endsAt : Int
  further : Json

/-- `EventAnnouncementPayload` of `wattswarm_protocol`. -/
structure EventAnnouncementPayload where
  announcementId : String
  networkId : String
  authorityNodeId : String
  issuedAt : Nat
  content : Json
  authoritySignature : String

/-- What the authority signs: the announcement without its signature. -/
structure UnsignedAnnouncement where
  announcementId : String
  networkId : String
  authorityNodeId : String
  issuedAt : Nat
  content : Json

def EventAnnouncementPayload.unsignedPayload (a : EventAnnouncementPayload) :
    UnsignedAnnouncement :=
  ⟨a.announcementId, a.networkId, a.authorityNodeId, a.issuedAt, a.content⟩

/-! ## `contracts.rs` -/

inductive UiDeliveryMode where
  | wsStream
  | restPoll
  | restSnapshotBootstrap
  | restOnDemand
  deriving DecidableEq

/-- The columns of `DataKindMetadata` that decide what is shown where. -/
structure DataKindMetadata where
  visibility : Visibility
  uiDeliveryMode : UiDeliveryMode
  identityFields : List String
  deriving DecidableEq

def dataKindMetadata : DataKind → DataKindMetadata
  | .spacePresence => ⟨.public, .wsStream, ["space_id", "agent_did"]⟩
  | .presence => ⟨.public, .wsStream, ["node_id", "public_id", "id"]⟩
  | .organizationSummary => ⟨.public, .restSnapshotBootstrap, ["organization_id", "id"]⟩
  | .identity | .operatorProfile =>
    ⟨.public, .restSnapshotBootstrap, ["agent_did", "public_id", "id"]⟩
  | .missionLifecycle => ⟨.public, .restSnapshotBootstrap, ["mission_id", "task_id", "id"]⟩
  | .taskSummary => ⟨.public, .restSnapshotBootstrap, ["task_id", "mission_id", "id"]⟩
  | .taskVoteSignal | .taskRoundUpdate =>
    ⟨.public, .wsStream, ["task_id", "vote_id", "round_id", "id"]⟩
  | .taskDecisionFinalized => ⟨.public, .wsStream, ["task_id", "decision_id", "id"]⟩
  | .governanceProposal | .governanceVote =>
    ⟨.public, .wsStream, ["proposal_id", "vote_id", "id"]⟩
  | .governanceDecision => ⟨.public, .restSnapshotBootstrap, ["proposal_id", "vote_id", "id"]⟩
  | .oracleFeedUpdate => ⟨.public, .restPoll, ["feed_id", "id"]⟩
  | .settlementEvent | .reputationUpdate =>
    ⟨.public, .restPoll, ["settlement_id", "agent_did", "id"]⟩
  | .rankingProjection => ⟨.public, .restSnapshotBootstrap, ["agent_did", "public_id", "id"]⟩
  | .hiveMetadata => ⟨.public, .restSnapshotBootstrap, ["topic_id", "id"]⟩
  | .hiveSubscription => ⟨.public, .restSnapshotBootstrap, ["subscription_id", "id"]⟩
  | .hiveMessagePosted | .hiveActivity => ⟨.public, .wsStream, ["message_id", "topic_id", "id"]⟩
  | .boardActivity => ⟨.public, .wsStream, ["message_id", "id"]⟩
  | .friendRelationship | .friendRequestPending | .publicBlock =>
    ⟨.public, .restPoll, ["counterpart_public_id", "public_id", "id"]⟩
  | .socialThread | .dmSummary => ⟨.protected, .restOnDemand, ["thread_id", "id"]⟩
  | .dmMessage => ⟨.protected, .restOnDemand, ["message_id", "id"]⟩
  | .networkProjection => ⟨.public, .restPoll, ["node_id", "network_id", "id"]⟩
  | .travelState => ⟨.public, .restSnapshotBootstrap, ["route_id", "public_id", "id"]⟩
  | .galaxyEvent | .worldEvent => ⟨.public, .wsStream, ["event_id", "id"]⟩

def allowsPublicStream (kind : DataKind) : Bool :=
  (dataKindMetadata kind).visibility = .public && (dataKindMetadata kind).uiDeliveryMode = .wsStream

def visibilityForKind (kind : DataKind) : Visibility := (dataKindMetadata kind).visibility

/-- The first identity field that holds a text, unless the text is blank; otherwise the node. -/
def projectionIdentityKey (kind : DataKind) (value : Json) (fallbackSourceNodeId : String) :
    String :=
  let candidate := (dataKindMetadata kind).identityFields.findSome? fun key =>
    (value.get key).bind Json.asStr
  (candidate.filter fun s => !isBlank s).getD fallbackSourceNodeId

structure GatewayUiEvent where
  cursor : Nat
  eventId : String
  nodeId : String
  dataKind : DataKind
  eventKind : String
  visibility : Visibility
  provisional : Bool
  scope : EventScope
  generatedAt : Int
  payload : Json

structure UiStreamQuery where
  token : Option String
  cursor : Option Int
  limit : Option Nat
  dataKind : Option DataKind
  nodeId : Option String
  topicId : Option String
  organizationId : Option String
  taskId : Option String
  deriving DecidableEq

/-! ## `models.rs` -/

structure PublicClientSnapshot where
  generatedAt : Int
  nodeId : String
  agentIdentity : Option String
  publicId : Option String
  publicKey : String
  networkName : Option String
  networkOrgName : Option String
  networkStatus : Json
  nodes : Option (List Json)
  peers : List Json
  operator : Json
  rpcLogs : List Json
  publicBlocks : List Json
  publicTopics : List Json
  publicTopicMessages : List Json
  publicBoardMessages : List Json
  spacePresences : List SignedSpacePresence
  nodePresence : Option NodePresence
  worldEvents : List Json
  swarmTaskActivity : Json
  tasks : List Json
  organizations : List Json
  leaderboard : List Json

structure SignedPublicClientSnapshot where
  payload : PublicClientSnapshot
  signature : String
  signerAgentDid : String

structure GatewayManifest where
  generatedAt : Int
  gatewayId : String
  displayName : String
  baseUrl : String
  publicKey : String
  region : Option String
  operatorDid : Option String
  roles : List String
  supportedEndpoints : List String
  federationPeers : List String
  allowsPublicIngest : Bool
  deriving DecidableEq

structure SignedGatewayManifest where
  payload : GatewayManifest
  signature : String
  deriving DecidableEq

end WattGateway.Gateway
