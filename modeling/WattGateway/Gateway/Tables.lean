import WattGateway.Gateway.Projection
import WattGateway.Lib.Table
import Mathlib.Data.List.Sort

/-!
# Tables of the gateway

The rows of `db.rs` and `space.rs`, and each statement as a function of the tables. Times are
instants in milliseconds. The sequences behind `gateway_ui_events.cursor` and
`gateway_p2p_outbox.id` are no part of the tables, since a rollback does not take back what they
have given out. The table of sources does not change.
-/

namespace WattGateway.Gateway

/-! ## Rows -/

inductive SourceStatus where
  | active
  | suspended
  | rejected
  deriving DecidableEq

/-- `TransportContactMaterial`, as far as it is checked. -/
structure ContactMaterial where
  transport : String
  peerId : String
  metadataRoute : String
  metadataEndpointId : Option String
  extraEndpointId : Option String
  deriving DecidableEq

/-- A row of `node_sources`, without its key. -/
structure NodeSourceRow where
  name : String
  exportUrl : String
  wattetheriaSnapshotExportUrl : Option String
  wattswarmUiBaseUrl : Option String
  expectedSignerAgentDid : Option String
  expectedWattswarmNodeId : Option String
  sourceStatus : SourceStatus
  createdAt : Nat
  transportContactMaterial : Option ContactMaterial
  deriving DecidableEq

abbrev Sources := Table Nat NodeSourceRow

/-- A row of `node_snapshots`, without its key `node_id`. -/
structure SnapshotRow where
  sourceId : Option Nat
  signerAgentDid : String
  publicKey : String
  generatedAt : Int
  ingestedAt : Nat
  payload : PublicClientSnapshot
  signature : String

/-- A row of `gateway_ui_events`, without its key `event_id`. -/
structure UiEventRow where
  cursor : Nat
  sourceId : Option Nat
  nodeId : String
  signerAgentDid : String
  dataKind : DataKind
  eventKind : String
  visibility : Visibility
  provisional : Bool
  topicId : Option String
  organizationId : Option String
  taskId : Option String
  generatedAt : Int
  ingestedAt : Nat
  payload : Json
  ingestPath : String
  sourceCursorOrSeq : Option Int

/-- A row of `gateway_projection_rows`, without its key. -/
structure ProjectionRow where
  sourceId : Option Nat
  generatedAt : Int
  ingestedAt : Nat
  visibility : Visibility
  payload : Json
  provenance : Json

/-- What an outbox row is to be published as. -/
inductive P2pCommand where
  | snapshotAnnounceV1 (nodeId signerAgentDid : String) (generatedAt : Int)
  | eventV1 (event : SignedNodeEvent)

/-- A row of `gateway_p2p_outbox`, without its unique key `dedupe_key`. -/
structure P2pOutboxRow where
  id : Nat
  command : P2pCommand

/-- A row of `gateway_ingest_audit`. -/
structure AuditRecord where
  recordKind : String
  dataKind : Option DataKind
  identityKey : Option String
  sourceId : Option Nat
  sourceNodeId : Option String
  generatedAt : Option Int
  ingestPath : String
  payload : Json
  provenance : Json

structure SpacePresenceRow where
  seq : Nat
  sourceNodeId : String
  sourceId : Option Nat
  payload : SignedSpacePresence

structure SpaceEventRow where
  spaceId : String
  placeId : String
  sourceNodeId : String
  sourceId : Option Nat
  payload : Json

structure NodePresenceRow where
  lastHeartbeatMs : Int
  sourceId : Option Nat
  payload : NodePresence
  deriving DecidableEq

structure Db where
  nodeSources : Sources
  nodeSnapshots : Table String SnapshotRow
  uiEvents : Table String UiEventRow
  projectionRows : Table (DataKind × String × String) ProjectionRow
  p2pOutbox : Table String P2pOutboxRow
  ingestAudit : List AuditRecord
  spacePresence : Table (String × String × String) SpacePresenceRow
  spaceEvents : Table (String × String) SpaceEventRow
  nodePresence : Table (String × String) NodePresenceRow
  /-- `last_sync_status` and `last_error` of the sources. -/
  syncStatus : Table Nat (String × Option String)

/-- The tables as `init_schema` creates them, with sources. -/
def Db.start (sources : Sources) : Db where
  nodeSources := sources
  nodeSnapshots := .empty
  uiEvents := .empty
  projectionRows := .empty
  p2pOutbox := .empty
  ingestAudit := []
  spacePresence := .empty
  spaceEvents := .empty
  nodePresence := .empty
  syncStatus := .empty

/-! ## Records -/

/-- `UpsertSnapshotRecord`. -/
structure SnapshotRecord where
  sourceId : Option Nat
  nodeId : String
  signerAgentDid : String
  publicKey : String
  generatedAt : Int
  payload : PublicClientSnapshot
  signature : String

/-- The statement that inserts an event: `insert_ui_event_inner` reads its time as seconds or
milliseconds, `insert_ui_record` as seconds. -/
inductive TimeUnit where
  | byThreshold
  | seconds
  deriving DecidableEq

def TimeUnit.instant : TimeUnit → Int → Int
  | .byThreshold, t => normalizeGeneratedAtMillis t
  | .seconds, t => t * 1000

/-- `InsertUiEventRecord`, with the statement it goes into. -/
structure UiEventRecord where
  eventId : String
  sourceId : Option Nat
  nodeId : String
  signerAgentDid : String
  dataKind : DataKind
  eventKind : String
  visibility : Visibility
  provisional : Bool
  topicId : Option String
  organizationId : Option String
  taskId : Option String
  generatedAt : Int
  timeUnit : TimeUnit
  payload : Json
  ingestPath : String
  sourceCursorOrSeq : Option Int

def UiEventRecord.row (r : UiEventRecord) (cursor now : Nat) : UiEventRow where
  cursor := cursor
  sourceId := r.sourceId
  nodeId := r.nodeId
  signerAgentDid := r.signerAgentDid
  dataKind := r.dataKind
  eventKind := r.eventKind
  visibility := r.visibility
  provisional := r.provisional
  topicId := r.topicId
  organizationId := r.organizationId
  taskId := r.taskId
  generatedAt := r.timeUnit.instant r.generatedAt
  ingestedAt := now
  payload := r.payload
  ingestPath := r.ingestPath
  sourceCursorOrSeq := r.sourceCursorOrSeq

/-- `GatewayUiEvent::try_from` of a row, whose time is given in seconds. -/
def GatewayUiEvent.ofRow (eventId : String) (row : UiEventRow) : GatewayUiEvent where
  cursor := row.cursor
  eventId := eventId
  nodeId := row.nodeId
  dataKind := row.dataKind
  eventKind := row.eventKind
  visibility := row.visibility
  provisional := row.provisional
  scope := ⟨none, row.topicId, row.organizationId, row.taskId⟩
  generatedAt := row.generatedAt / 1000
  payload := row.payload

/-- `InsertP2pOutboxRecord`. -/
structure OutboxRecord where
  dedupeKey : String
  command : P2pCommand

/-! ## Reading -/

namespace Db

variable (db : Db)

/-- The source of a row is none, or it is active. -/
def visible (sourceId : Option Nat) : Bool :=
  match sourceId with
  | none => true
  | some id => (db.nodeSources.get? id).any fun source => source.sourceStatus = .active

/-- The rank of `find_node_source_for_identity`, of a source that matches. -/
def identityRank (nodeId signerAgentDid : String) (source : NodeSourceRow) : Option Nat :=
  if source.expectedSignerAgentDid = some signerAgentDid then some 0
  else if source.expectedWattswarmNodeId = some nodeId then some 1
  else none

/-- The first match in the order of rank and age. -/
def findNodeSourceForIdentity (nodeId signerAgentDid : String) : Option (Nat × NodeSourceRow) :=
  let ranked := db.nodeSources.rows.filterMap fun source =>
    (identityRank nodeId signerAgentDid source.2).map (·, source)
  ((ranked.insertionSort fun a b =>
    a.1 < b.1 ∨ a.1 = b.1 ∧ a.2.2.createdAt ≤ b.2.2.createdAt).head?).map Prod.snd

def listNodeSources : List (Nat × NodeSourceRow) :=
  db.nodeSources.rows.insertionSort fun a b => a.2.createdAt ≤ b.2.createdAt

def listSnapshots : List (String × SnapshotRow) :=
  db.nodeSnapshots.rows.insertionSort fun a b => b.2.ingestedAt ≤ a.2.ingestedAt

def maxUiEventSourceSeq (nodeId : String) (sourceId : Option Nat) : Option Int :=
  ((db.uiEvents.select fun _ row => row.nodeId = nodeId ∧ row.sourceId = sourceId).filterMap
    fun row => row.2.sourceCursorOrSeq).max?

/-- The visible rows of a kind, newest first. -/
def listProjectionRows (dataKind : DataKind) :
    List ((DataKind × String × String) × ProjectionRow) :=
  (db.projectionRows.select fun key row => key.1 = dataKind ∧ db.visible row.sourceId).insertionSort
    fun a b => b.2.generatedAt < a.2.generatedAt ∨
      a.2.generatedAt = b.2.generatedAt ∧ a.1.2.2 ≤ b.1.2.2

/-- The visible events in the order of their cursors. -/
def visibleUiEvents : List (String × UiEventRow) :=
  (db.uiEvents.select fun _ row => db.visible row.sourceId).insertionSort
    fun a b => a.2.cursor ≤ b.2.cursor

def earliestUiEventCursor : Option Nat := (db.visibleUiEvents.head?).map fun row => row.2.cursor

structure ListUiEventsQuery where
  cursor : Int
  dataKind : Option DataKind
  nodeId : Option String
  topicId : Option String
  organizationId : Option String
  taskId : Option String
  limit : Int

def ListUiEventsQuery.matches (q : ListUiEventsQuery) (row : UiEventRow) : Bool :=
  q.cursor < row.cursor && q.dataKind.all (· = row.dataKind) && q.nodeId.all (· = row.nodeId) &&
    q.topicId.all (some · = row.topicId) && q.organizationId.all (some · = row.organizationId) &&
    q.taskId.all (some · = row.taskId)

def listUiEventsAfter (q : ListUiEventsQuery) : List (String × UiEventRow) :=
  (db.visibleUiEvents.filter fun row => q.matches row.2).take (max q.limit 1).toNat

end Db

end WattGateway.Gateway
