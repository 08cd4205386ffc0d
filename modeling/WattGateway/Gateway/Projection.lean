import WattGateway.Gateway.Space

/-!
# Read models

What the gateway derives from a signed event or a snapshot to serve: `event_projection` of
`streaming.rs` with the payloads it normalises, and `snapshot_projection_seeds` of `read_models.rs`.
A projection carries the visibility of its data kind, not that of the event it is made from.
-/

namespace WattGateway.Gateway

/-- Milliseconds, of a time in seconds or milliseconds. -/
def normalizeGeneratedAtMillis (generatedAt : Int) : Int :=
  if 100000000000 ≤ generatedAt.natAbs then generatedAt else generatedAt * 1000

/-- `i64::try_from` of an unsigned number. -/
def i64OfNat (n : Nat) : Option Int := if n < 2 ^ 63 then some n else none

/-! ## Payloads of events -/

section

open Json (Fields)

def objectString (object : Fields) (key : String) : Option String :=
  ((object.get key).bind Json.asStr).filter fun s => !isBlank s

def insertStringIfMissing (object : Fields) (key : String) (value : Option String) : Fields :=
  match value.filter fun s => !isBlank s with
  | some s => object.orInsert key (.string s)
  | none => object

/-- The fields of the nested object, then those beside it that it does not have. -/
def mergedPayloadObject (payload : Json) (nestedKeys : List String) : Option Fields :=
  let nested := (nestedKeys.findSome? fun key => (payload.get key).bind Json.asObject).getD []
  let object := (payload.asObject.getD []).foldl
    (fun (object : Fields) kv =>
      if kv.1 ∉ nestedKeys ∧ object.containsKey kv.1 = false then object.insert kv.1 kv.2
      else object)
    nested
  if object.isEmpty then none else some object

def normalizedRankingProjectionPayload (event : NodeEventPayload) : Option Json := do
  let object : Fields ← event.payload.asObject
  let identity ← objectString object "public_id" <|> objectString object "agent_did" <|>
    objectString object "id" <|> event.identityKey
  let object := object.orInsert "public_id" (.string identity)
  let object := Fields.orInsert object "agent_did" (.string identity)
  let object := Fields.orInsert object "id" (.string identity)
  let object := Fields.orInsert object "source_node_id" (.string event.nodeId)
  return .object (Fields.orInsert object "snapshot_generated_at" (.ofInt event.timestamp))

def missionIdentity (payload : Json) : Option String :=
  ((payload.get "mission_id" <|> payload.get "task_id" <|> payload.get "id").bind
    Json.asStr).filter fun s => !isBlank s

def statusFromMissionEventKind (eventKind : String) : String :=
  if eventKind = "mission.claimed" then "claimed"
  else if eventKind = "mission.completed" then "completed"
  else if eventKind = "mission.settled" then "settled"
  else "published"

/-- A status that is no text or still `open` follows the kind of the event. -/
def normalizeMissionEventStatus (status : Json) (eventKind : String) : Json :=
  if status.asStr = none ∨ status.asStr = some "open" then
    .string (statusFromMissionEventKind eventKind)
  else status

section

variable (event : NodeEventPayload)

def normalizedMissionLifecyclePayload : Option Json := do
  let object : Fields ← event.payload.asObject
  let object := object.orInsert "task_type" (.string "wattetheria.mission")
  let object := Fields.orInsert object "source_node_id" (.string event.nodeId)
  let object := Fields.orInsert object "publisher_wattswarm_node_id" (.string event.nodeId)
  let object := Fields.orInsert object "mission_scope_hint" (.string ("node:" ++ event.nodeId))
  let object := Fields.orInsert object "mission_feed_key" (.string "wattetheria.missions")
  let status := match Fields.get object "status" with
    | some status => normalizeMissionEventStatus status event.eventKind
    | none => .string (statusFromMissionEventKind event.eventKind)
  let object := Fields.insert object "status" status
  match missionIdentity event.payload with
  | none => return .object object
  | some missionId =>
    let object := Fields.orInsert object "mission_id" (.string missionId)
    let object := Fields.orInsert object "task_id" (.string missionId)
    return .object (Fields.orInsert object "id" (.string missionId))

def normalizedHiveMetadataPayload : Option Json := do
  let object ← mergedPayloadObject event.payload ["hive", "topic"]
  let topicId := objectString object "topic_id" <|> objectString object "hive_id" <|>
    event.scope.topicId <|> event.identityKey
  let object := match topicId with
    | some topicId =>
      Fields.orInsert (Fields.orInsert object "topic_id" (.string topicId)) "hive_id"
        (.string topicId)
    | none => object
  let object := insertStringIfMissing object "organization_id" event.scope.organizationId
  let object := insertStringIfMissing object "mission_id" event.scope.taskId
  let object := Fields.orInsert object "source_node_id" (.string event.nodeId)
  return .object (Fields.orInsert object "snapshot_generated_at" (.ofInt event.timestamp))

def normalizedHiveActivityPayload : Option Json := do
  let object ← mergedPayloadObject event.payload ["message"]
  let messageId := (objectString object "message_id" <|> event.identityKey).getD event.eventId
  let object := Fields.orInsert object "message_id" (.string messageId)
  let object := insertStringIfMissing object "topic_id"
    (objectString object "hive_id" <|> event.scope.topicId)
  let object := insertStringIfMissing object "hive_id"
    (objectString object "topic_id" <|> event.scope.topicId)
  let object := insertStringIfMissing object "organization_id" event.scope.organizationId
  let object := insertStringIfMissing object "author_id"
    (objectString object "author_public_id" <|> objectString object "public_id" <|>
      objectString object "controller_id" <|> objectString object "author_node_id")
  let object := Fields.orInsert object "source_node_id" (.string event.nodeId)
  let object := Fields.orInsert object "created_at" (.ofInt event.timestamp)
  return .object (Fields.orInsert object "snapshot_generated_at" (.ofInt event.timestamp))

def normalizedBoardActivityPayload : Option Json := do
  let object ← mergedPayloadObject event.payload ["board_message"]
  let messageId := (objectString object "message_id" <|> event.identityKey).getD event.eventId
  let object := Fields.orInsert object "message_id" (.string messageId)
  let object := Fields.orInsert object "source_node_id" (.string event.nodeId)
  let object := Fields.orInsert object "created_at"
    (.ofInt (normalizeGeneratedAtMillis event.timestamp))
  return .object (Fields.orInsert object "snapshot_generated_at" (.ofInt event.timestamp))

/-- The read-model kind and the payload that an event projects to. -/
def eventProjection : Option (DataKind × Json) :=
  match event.dataKind with
  | .missionLifecycle => (normalizedMissionLifecyclePayload event).map (.taskSummary, ·)
  | .hiveMetadata => (normalizedHiveMetadataPayload event).map (.hiveMetadata, ·)
  | .hiveActivity => (normalizedHiveActivityPayload event).map (.hiveActivity, ·)
  | .hiveMessagePosted => (normalizedHiveActivityPayload event).map (.hiveActivity, ·)
  | .boardActivity => (normalizedBoardActivityPayload event).map (.boardActivity, ·)
  | .rankingProjection => (normalizedRankingProjectionPayload event).map (.rankingProjection, ·)
  | _ => none

end

/-- The projection of an event, a board row through the filter. -/
def trustedProjection (X : Deployment) (event : NodeEventPayload) :
    Except String (Option (DataKind × Json)) :=
  match eventProjection event with
  | some (.boardActivity, payload) => do
    let payload ← trustedBoardMessage X payload
    return some (.boardActivity, payload)
  | projection => .ok projection

/-- An event that projects onto its own kind is streamed as it is served. -/
def uiPayload (event : NodeEventPayload) (projection : Option (DataKind × Json)) : Json :=
  match projection with
  | some (kind, payload) => if kind = event.dataKind then payload else event.payload
  | none => event.payload

def normalizedEventScope (event : NodeEventPayload) : EventScope :=
  if event.dataKind = .missionLifecycle ∧
      event.scope.organizationId = (event.payload.get "publisher").bind Json.asStr ∧
      (((event.payload.get "publisher_kind").bind Json.asStr).any fun k => k ≠ "organization") then
    { event.scope with organizationId := none }
  else event.scope

end

/-! ## Seeds of a snapshot -/

/-- `UpsertProjectionRecord`. -/
structure ProjectionRecord where
  dataKind : DataKind
  identityKey : String
  sourceNodeId : String
  sourceId : Option Nat
  generatedAt : Int
  visibility : Visibility
  payload : Json
  provenance : Json

def attachGeneratedAt (value : Json) (generatedAt : Int) : Json :=
  match value.asObject with
  | some object => .object (Json.Fields.orInsert object "snapshot_generated_at" (.ofInt generatedAt))
  | none => value

def defaultProvenance (sourceNodeId : String) (generatedAt : Int) (ingestPath : String) : Json :=
  .object [("source_node_id", .string sourceNodeId), ("source_cursor_or_seq", .ofInt generatedAt),
    ("ingest_path", .string ingestPath), ("last_confirmed_at", .ofInt generatedAt),
    ("last_provisional_at", .null)]

section

variable (sourceId : Option Nat) (snapshot : PublicClientSnapshot)

section

variable (dataKind : DataKind)

/-- A seed whose identity is read from `value` and whose payload is `payload`. -/
def seed (value payload : Json) : ProjectionRecord where
  dataKind := dataKind
  identityKey := projectionIdentityKey dataKind value snapshot.nodeId
  sourceNodeId := snapshot.nodeId
  sourceId := sourceId
  generatedAt := snapshot.generatedAt
  visibility := visibilityForKind dataKind
  payload := payload
  provenance := defaultProvenance snapshot.nodeId snapshot.generatedAt "snapshot_push"

def singletonSeed (value : Json) : ProjectionRecord :=
  seed sourceId snapshot dataKind value value

def fanoutArray (values : List Json) : List ProjectionRecord :=
  values.map fun value =>
    seed sourceId snapshot dataKind value (attachGeneratedAt value snapshot.generatedAt)

end

def networkProjection : Json :=
  .object [("node_id", .string snapshot.nodeId), ("network_name", .ofOption snapshot.networkName),
    ("network_org_name", .ofOption snapshot.networkOrgName),
    ("network_status", snapshot.networkStatus), ("peers", .array snapshot.peers)]

def snapshotProjectionSeeds (X : Deployment) : List ProjectionRecord :=
  [singletonSeed sourceId snapshot .networkProjection (networkProjection snapshot),
    singletonSeed sourceId snapshot .operatorProfile
      (attachGeneratedAt snapshot.operator snapshot.generatedAt)] ++
  fanoutArray sourceId snapshot .publicBlock snapshot.publicBlocks ++
  fanoutArray sourceId snapshot .hiveMetadata snapshot.publicTopics ++
  fanoutArray sourceId snapshot .hiveActivity snapshot.publicTopicMessages ++
  fanoutArray sourceId snapshot .boardActivity
    (trustedBoardMessages X snapshot.publicBoardMessages) ++
  fanoutArray sourceId snapshot .taskSummary snapshot.tasks ++
  fanoutArray sourceId snapshot .organizationSummary snapshot.organizations ++
  fanoutArray sourceId snapshot .rankingProjection snapshot.leaderboard

end

/-! ## The row of an event's projection -/

def eventProvenance (event : NodeEventPayload) (provisional : Bool) : Json :=
  .object [("source_node_id", .string event.nodeId), ("source_cursor_or_seq", .ofNat event.seq),
    ("ingest_path", .string "event_push"),
    ("last_confirmed_at", if provisional then .null else .ofInt event.timestamp),
    ("last_provisional_at", if provisional then .ofInt event.timestamp else .null)]

/-- The record that `materialize_projection_row` writes. -/
def eventProjectionRecord (event : NodeEventPayload) (sourceId : Option Nat) (provisional : Bool)
    (dataKind : DataKind) (payload : Json) : ProjectionRecord where
  dataKind := dataKind
  identityKey := projectionIdentityKey dataKind payload event.nodeId
  sourceNodeId := event.nodeId
  sourceId := sourceId
  generatedAt := event.timestamp
  visibility := visibilityForKind dataKind
  payload := payload
  provenance := eventProvenance event provisional

end WattGateway.Gateway
