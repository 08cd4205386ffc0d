import WattGateway.Gateway.Ingest

/-!
# Ways in

The handlers through which snapshots and events reach the gateway: HTTP push, pull (`sync_nodes`)
and the peer to peer network (`handle_gossip`, without its work limiter, which only delays or drops
a message). Each resolves the source and applies its pins in its own way.
-/

namespace WattGateway.Gateway

open Prog

/-! ## Answers -/

structure SyncResult where
  sourceId : Nat
  nodeId : String
  signerAgentDid : String
  generatedAt : Int
  syncStatus : String
  wattswarmCollectError : Option String
  deriving DecidableEq

inductive StatusCode where
  | badRequest
  | unauthorized
  | notFound
  | conflict
  | internalServerError
  | badGateway
  deriving DecidableEq

inductive Reply where
  | snapshotIngested
  | eventIngested (cursor : Nat)
  | eventDuplicate
  | synced (results : List SyncResult)
  | handled
  | board (values : List Json)
  | closed
  | error (code : StatusCode) (text : String)

section

variable (X : Deployment)

/-! ## Push -/

def orBadRequest {α : Type} (body : Proc α) (reply : α → Reply) : Proc Reply := do
  match ← body.attempt with
  | .ok a => return reply a
  | .error e => return .error .badRequest e

def ingestSnapshot (snapshot : SignedPublicClientSnapshot) : Proc Reply := do
  match ← tryRead
      (.findNodeSourceForIdentity snapshot.payload.nodeId snapshot.signerAgentDid) with
  | .error e => return .error .internalServerError e
  | .ok resolved =>
    if resolved.any fun source => source.2.sourceStatus ≠ .active then
      return .error .conflict "source is not active for push ingest"
    else
      orBadRequest (ingestSignedSnapshotWithOptions X snapshot (resolved.map Prod.fst)
        (resolved.bind fun source => source.2.expectedSignerAgentDid) true)
        fun _ => .snapshotIngested

def ingestNodeEvent (event : SignedNodeEvent) : Proc Reply :=
  orBadRequest (persistSignedNodeEventWithOptions X event none none true) fun
    | some cursor => .eventIngested cursor
    | none => .eventDuplicate

/-! ## Pull -/

/-- `row.payload.get(key).and_then(as_str)`. -/
def stringAt (value : Json) (key : String) : Option String := (value.get key).bind Json.asStr

/-- The time of an unsigned field, the greatest one if it does not fit. -/
def saturatedI64 (n : Nat) : Int := (i64OfNat n).getD (2 ^ 63 - 1)

def pulledProvenance (sourceNodeId : String) (generatedAt : Int) : Json :=
  .object [("source_node_id", .string sourceNodeId), ("source_cursor_or_seq", .null),
    ("ingest_path", .string "wattswarm_pull"), ("last_confirmed_at", .ofInt generatedAt),
    ("last_provisional_at", .null)]

def pulledRecord (dataKind : DataKind) (sourceNodeId : String) (sourceId : Nat) (generatedAt : Int)
    (payload : Json) : ProjectionRecord where
  dataKind := dataKind
  identityKey := projectionIdentityKey dataKind payload sourceNodeId
  sourceNodeId := sourceNodeId
  sourceId := some sourceId
  generatedAt := generatedAt
  visibility := .public
  payload := payload
  provenance := pulledProvenance sourceNodeId generatedAt

def persistNetworkProjection (sourceId : Nat) (snapshot : WattswarmNetworkProjectionSnapshot) :
    Proc Unit :=
  exec (.write (.upsertProjectionRow
    (pulledRecord .networkProjection snapshot.nodeId sourceId (saturatedI64 snapshot.generatedAt)
      (.object ([("node_id", .string snapshot.nodeId),
        ("display_name", .string snapshot.displayName), ("org_id", .string snapshot.orgId),
        ("network_id", .string snapshot.networkId), ("running", .bool snapshot.running),
        ("mode", .string snapshot.mode)] ++ snapshot.further ++
        [("peers", .array (snapshot.peers.map .string)),
          ("snapshot_generated_at", .ofNat snapshot.generatedAt)])))))

def topicSubscriptionIdentity (s : WattswarmTopicSubscriptionRow) : String :=
  s.networkId ++ "\u001f" ++ s.feedKey ++ "\u001f" ++ s.scopeHint ++ "\u001f" ++ s.subscriberNodeId

def persistSubscription (sourceId : Nat) (source : NodeSourceRow) (generatedAt : Nat)
    (s : WattswarmTopicSubscriptionRow) : Proc Unit :=
  exec (.write (.upsertProjectionRow
    (pulledRecord .hiveSubscription
      (if s.subscriberNodeId = "" then source.name else s.subscriberNodeId) sourceId
      (saturatedI64 s.updatedAt)
      (.object [("subscription_id", .string (topicSubscriptionIdentity s)),
        ("network_id", .string s.networkId), ("subscriber_node_id", .string s.subscriberNodeId),
        ("feed_key", .string s.feedKey), ("scope_hint", .string s.scopeHint),
        ("active", .bool s.active), ("updated_at", .ofNat s.updatedAt),
        ("snapshot_generated_at", .ofNat generatedAt)]))))

def collectTopicSubscriptionReadModels (sourceId : Nat) (source : NodeSourceRow)
    (baseUrl networkId : String) : Proc Unit := do
  let snapshot ← exec (.fetch (.topicSubscriptions baseUrl networkId))
  forEach snapshot.subscriptions (persistSubscription sourceId source snapshot.generatedAt)

/-- The node that an activity row is filed under: the one the source pins, or the row's. -/
def activityNodeId (source : NodeSourceRow) (rowNodeId : String) : String :=
  (source.expectedWattswarmNodeId.filter fun s => s ≠ "").getD rowNodeId

section

variable (sourceId : Nat)

section

variable (source : NodeSourceRow)

def persistTopicMessage (row : (DataKind × String × String) × ProjectionRow) (generatedAt : Nat)
    (message : WattswarmTopicMessageView) : Proc Unit :=
  exec (.write (.upsertProjectionRow
    (pulledRecord .hiveActivity (activityNodeId source row.1.2.2) sourceId
      (saturatedI64 generatedAt)
      (.object [("message_id", .string message.messageId), ("network_id", .string message.networkId),
        ("feed_key", .string message.feedKey), ("scope_hint", .string message.scopeHint),
        ("author_node_id", .string message.authorNodeId), ("content", message.content),
        ("reply_to_message_id", .ofOption message.replyToMessageId),
        ("created_at", .ofNat message.createdAt), ("topic_id", row.2.payload.index "topic_id"),
        ("organization_id", row.2.payload.index "organization_id"),
        ("snapshot_generated_at", .ofNat generatedAt)]))))

/-- The activity of the topic that a metadata row describes, if it names its feed and scope. -/
def collectTopic (baseUrl : String)
    (row : (DataKind × String × String) × ProjectionRow) : Proc Unit :=
  match stringAt row.2.payload "feed_key", stringAt row.2.payload "scope_hint" with
  | some feedKey, some scopeHint => do
    let network := ((stringAt row.2.payload "network_id").map trim).filter fun s => s ≠ ""
    let activity ← exec (.fetch (.topicActivity baseUrl
      ([("feed_key", feedKey), ("scope_hint", scopeHint), ("limit", "50")] ++
        (network.map ("network_id", ·)).toList)))
    forEach activity.messages (persistTopicMessage sourceId source row activity.generatedAt)
  | _, _ => pure ()

def collectTopicActivityReadModels (baseUrl : String) : Proc Unit := do
  let rows ← exec (.read (.listProjectionRows .hiveMetadata))
  forEach (rows.filter fun row => row.2.sourceId = some sourceId)
    (collectTopic sourceId source baseUrl)

def collectWattswarmReadModels : Proc Unit :=
  match (source.wattswarmUiBaseUrl.map trim).filter fun s => s ≠ "" with
  | none => pure ()
  | some baseUrl => do
    let network ← exec (.fetch (.networkSnapshot baseUrl))
    persistNetworkProjection sourceId network
    let _ ← (collectTopicSubscriptionReadModels sourceId source baseUrl network.networkId).attempt
    collectTopicActivityReadModels sourceId source baseUrl

end

end

/-- Over iroh, if the runtime is on, the source has contact material and a snapshot of it is
known; otherwise from its URL. -/
def fetchSnapshotForSource (source : NodeSourceRow) (knownNodeId : Option String) :
    Proc SignedPublicClientSnapshot :=
  match X.p2p, source.transportContactMaterial, knownNodeId with
  | true, some contact, some nodeId => exec (.fetch (.signedSnapshot (.iroh contact nodeId)))
  | _, _, _ => exec (.fetch (.signedSnapshot (.http (snapshotUrl source))))

/-- An error of a source ends the call, with the source's status set. -/
def syncFailed (sourceId : Nat) (status : String) (code : StatusCode) (text : String) :
    Proc (Except Reply SyncResult) := do
  writeAnyway (.updateSourceSyncStatus sourceId status (some text))
  return .error (.error code text)

def syncCollected (sourceId : Nat) (source : NodeSourceRow)
    (fetched : SignedPublicClientSnapshot) : Proc (Except Reply SyncResult) := do
  let result (status : String) (error : Option String) : Except Reply SyncResult :=
    .ok ⟨sourceId, fetched.payload.nodeId, fetched.signerAgentDid, fetched.payload.generatedAt,
      status, error⟩
  match ← (collectWattswarmReadModels sourceId source).attempt with
  | .error e => do
    writeAnyway (.updateSourceSyncStatus sourceId "partial" (some e))
    return result "partial" (some e)
  | .ok _ => do
    writeAnyway (.updateSourceSyncStatus sourceId "ok" none)
    return result "ok" none

def syncSource (known : List (String × SnapshotRow)) (source : Nat × NodeSourceRow) :
    Proc (Except Reply SyncResult) := do
  let knownNodeId := (known.find? fun row => row.2.sourceId = some source.1).map Prod.fst
  match ← (fetchSnapshotForSource X source.2 knownNodeId).attempt with
  | .error e => syncFailed source.1 "error" .badGateway e
  | .ok fetched =>
    match verifySignedSnapshot X.toCrypto fetched source.2.expectedSignerAgentDid with
    | .error e => syncFailed source.1 "invalid" .badRequest e
    | .ok _ =>
      match ← (ingestSignedSnapshotWithOptions X fetched (some source.1) none true).attempt with
      | .error e => syncFailed source.1 "error" .internalServerError e
      | .ok _ => syncCollected source.1 source.2 fetched

def syncSources (known : List (String × SnapshotRow)) :
    List (Nat × NodeSourceRow) → List SyncResult → Proc Reply
  | [], results => pure (.synced results)
  | source :: sources, results => do
    match ← syncSource X known source with
    | .error reply => return reply
    | .ok result => syncSources known sources (results ++ [result])

def resolveSources : Option Nat → Proc (Except Reply (List (Nat × NodeSourceRow)))
  | some sourceId => do
    match ← tryRead (.getNodeSource sourceId) with
    | .error e => return .error (.error .internalServerError e)
    | .ok none => return .error (.error .notFound "unknown source_id")
    | .ok (some source) =>
      if source.sourceStatus = .active then return .ok [(sourceId, source)]
      else return .error (.error .conflict "source is not active")
  | none => do
    match ← tryRead .listNodeSources with
    | .error e => return .error (.error .internalServerError e)
    | .ok sources =>
      let active := sources.filter fun source => source.2.sourceStatus = .active
      if active.isEmpty then
        return .error (.error .badRequest "no active node sources registered")
      else return .ok active

def syncNodes (sourceId : Option Nat) : Proc Reply := do
  match ← resolveSources sourceId with
  | .error reply => return reply
  | .ok sources =>
    match ← tryRead .listSnapshots with
    | .error e => return .error .internalServerError e
    | .ok known => syncSources X known sources []

/-! ## Gossip -/

inductive GatewayP2pSyncMessage where
  | snapshotAnnounceV1 (gatewayPeerId nodeId signerAgentDid : String) (generatedAt : Int)
      (contact : ContactMaterial)
  | eventV1 (gatewayPeerId : String) (event : SignedNodeEvent)

def irohDirect : String := "iroh_direct"

def validateSnapshotAnnouncement (propagationSource gatewayPeerId : String)
    (contact : ContactMaterial) : Except String Unit := do
  failIf (isBlank propagationSource) "gateway p2p gossip propagation source is empty"
  failIf (isBlank gatewayPeerId) "gateway p2p snapshot announcement peer id is empty"
  failIf (contact.transport ≠ irohDirect ∨ contact.metadataRoute ≠ irohDirect)
    "gateway p2p snapshot announcement must use iroh_direct"
  failIf (contact.peerId ≠ gatewayPeerId) ("gateway p2p snapshot contact peer mismatch: announced " ++
    gatewayPeerId ++ ", contact " ++ contact.peerId)
  let endpointId := (contact.extraEndpointId <|> contact.metadataEndpointId).getD ""
  failIf (endpointId = "") "gateway p2p snapshot contact endpoint id is empty"
  failIf (contact.metadataEndpointId.any (· ≠ endpointId) ∨ endpointId ≠ gatewayPeerId)
    "gateway p2p snapshot contact endpoint does not match gateway peer"

def snapshotIsCurrent (nodeId : String) (generatedAt : Int) : Proc Bool := do
  let stored ← exec (.read (.getSnapshotByNodeId nodeId))
  return stored.any fun row => normalizeGeneratedAtMillis generatedAt ≤ row.generatedAt

def fetchAndIngestSnapshot (nodeId signerAgentDid : String) (generatedAt : Int)
    (contact : ContactMaterial) : Proc Unit := do
  bailIf (X.p2p = false) "gateway p2p runtime is not enabled"
  let snapshot ← exec (.fetch (.signedSnapshot (.iroh contact nodeId)))
  bailIf (snapshot.payload.nodeId ≠ nodeId) ("p2p snapshot node_id mismatch: announced " ++
    nodeId ++ ", fetched " ++ snapshot.payload.nodeId)
  bailIf (snapshot.signerAgentDid ≠ signerAgentDid)
    ("p2p snapshot signer mismatch: announced " ++ signerAgentDid ++ ", fetched " ++
      snapshot.signerAgentDid)
  bailIf (snapshot.payload.generatedAt ≠ generatedAt)
    ("p2p snapshot generated_at mismatch: announced " ++ toString generatedAt ++ ", fetched " ++
      toString snapshot.payload.generatedAt)
  let source ← exec (.read
    (.findNodeSourceForIdentity snapshot.payload.nodeId snapshot.signerAgentDid))
  let _ ← ingestSignedSnapshotWithOptions X snapshot (source.map Prod.fst)
    (some snapshot.signerAgentDid) false
  return ()

/-- The fetch, if the stored snapshot is older; it is looked at before and after the wait for the
work permit. -/
def fetchUnlessCurrent (nodeId signerAgentDid : String) (generatedAt : Int)
    (contact : ContactMaterial) : Proc Unit := do
  if ← snapshotIsCurrent nodeId generatedAt then return ()
  else if ← snapshotIsCurrent nodeId generatedAt then return ()
  else fetchAndIngestSnapshot X nodeId signerAgentDid generatedAt contact

def handleGossip (propagationSource : String) : GatewayP2pSyncMessage → Proc Unit
  | .snapshotAnnounceV1 gatewayPeerId nodeId signerAgentDid generatedAt contact => do
    ofExcept (validateSnapshotAnnouncement propagationSource gatewayPeerId contact)
    if X.p2p ∧ X.localPeerId = gatewayPeerId then return ()
    else fetchUnlessCurrent X nodeId signerAgentDid generatedAt contact
  | .eventV1 gatewayPeerId event =>
    if X.p2p ∧ X.localPeerId = gatewayPeerId then pure ()
    else do
      let _ ← persistSignedNodeEventWithOptions X event none none false
      return ()

end

end WattGateway.Gateway
