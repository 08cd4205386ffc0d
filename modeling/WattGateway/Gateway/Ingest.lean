import WattGateway.Gateway.World

/-!
# Ingesting snapshots and events

The functions of `db.rs`, `space.rs`, `read_models.rs`, `http.rs` and `streaming.rs` that store what
nodes have signed, as programs. Messages to NATS and to the peer to peer task are left out: their
results are ignored and nothing of the gateway reads them.
-/

namespace WattGateway.Gateway

open Prog

abbrev Proc := Prog Empty Query Ans

def exec (q : Query) : Proc q.Result := query q >>= ofExcept

/-- A read whose error the code looks at. -/
def tryRead (r : Read) : Proc (Except String r.Result) := query (Query.read r)

/-- A write whose error the code ignores. -/
def writeAnyway (a : AutoWrite) : Proc Unit := query (Query.write a) >>= fun _ => pure ()

/-! ## `db.rs` -/

/-- The outbox row that goes with a write, if it is to be announced and was made. -/
def outboxIf (written : Bool) : Option OutboxRecord → Proc Unit
  | some record => if written then exec (.stmt (.insertP2pOutbox record)) else pure ()
  | none => pure ()

def upsertSnapshotInner (record : SnapshotRecord) (announcement : Option OutboxRecord) :
    Proc Bool := do
  exec .begin
  let applied ← exec (.stmt (.upsertSnapshot record))
  outboxIf applied announcement
  exec .commit
  return applied

def insertAudit (record : UiEventRecord) : AuditRecord where
  recordKind := "ui_event_insert"
  dataKind := some record.dataKind
  identityKey := some record.eventId
  sourceId := record.sourceId
  sourceNodeId := some record.nodeId
  generatedAt := some record.generatedAt
  ingestPath := record.ingestPath
  payload := record.payload
  provenance := .object
    [("source_cursor_or_seq", (record.sourceCursorOrSeq.map Json.ofInt).getD .null),
      ("visibility", .string record.visibility.wireName), ("provisional", .bool record.provisional)]

def auditIf (written : Bool) (record : UiEventRecord) : Proc Unit :=
  if written then exec (.write (.insertAuditRecord (insertAudit record))) else pure ()

def insertUiEventInner (record : UiEventRecord) (outbox : Option OutboxRecord) :
    Proc (Option UiEventRow) := do
  exec .begin
  let row ← exec (.stmt (.insertUiEvent record))
  outboxIf row.isSome outbox
  exec .commit
  auditIf row.isSome record
  return row

/-! ## `space.rs` -/

section

variable (X : Deployment)

def upsertWorldEvent (payload : Json) (nodeId : String) (sourceId : Option Nat) : Proc Bool := do
  let world ← ofExcept (X.worldEventOfValue (payload.index "content"))
  exec (.stmt (.upsertWorldEvent world payload nodeId sourceId))

/-- The record of a space event in the tables of `space.rs`. -/
def upsertSpaceRecord (event : NodeEventPayload) (sourceId : Option Nat) : Proc Bool :=
  match event.dataKind with
  | .spacePresence => do
    let presence ← ofExcept (X.presenceOfValue event.payload)
    exec (.stmt (.upsertPresence presence event.nodeId sourceId))
  | .worldEvent => upsertWorldEvent X event.payload event.nodeId sourceId
  | _ => .fail "space persistence only accepts space records"

def spaceEventRecord (event : NodeEventPayload) (sourceId : Option Nat) : UiEventRecord where
  eventId := event.eventId
  sourceId := sourceId
  nodeId := event.nodeId
  signerAgentDid := event.signerAgentDid
  dataKind := event.dataKind
  eventKind := event.eventKind
  visibility := .public
  provisional := false
  topicId := event.scope.topicId
  organizationId := event.scope.organizationId
  taskId := event.scope.taskId
  generatedAt := event.timestamp
  timeUnit := .seconds
  payload := event.payload
  ingestPath := "event_push"
  sourceCursorOrSeq := i64OfNat event.seq

section

variable (event : SignedNodeEvent)

def eventOutbox : OutboxRecord :=
  ⟨"event:" ++ event.payload.eventId, .eventV1 event⟩

/-- The end of `persist_event`, with the row of its insert. -/
def finishSpaceEvent (announceP2p : Bool) : Option UiEventRow → Proc (Option UiEventRow)
  | none => do
    exec .rollback
    return none
  | some row => do
    outboxIf announceP2p (some (eventOutbox event))
    exec .commit
    return some row

def persistEvent (sourceId : Option Nat) (announceP2p : Bool) : Proc (Option UiEventRow) := do
  exec .begin
  if ← upsertSpaceRecord X event.payload sourceId then
    let row ← exec (.stmt (.insertUiEvent (spaceEventRecord event.payload sourceId)))
    finishSpaceEvent event announceP2p row
  else
    exec .rollback
    return none

end

def persistNodePresence (presence : NodePresence) (sourceId : Option Nat) : Proc Bool := do
  exec .begin
  let accepted ← exec (.stmt (.upsertNodePresence presence sourceId))
  exec .commit
  return accepted

section

variable (sourceId : Option Nat) (snapshot : PublicClientSnapshot) (signerAgentDid : String)

def snapshotUiRecord (eventId : String) (dataKind : DataKind) (eventKind : String)
    (generatedAt : Int) (payload : Json) : UiEventRecord where
  eventId := eventId
  sourceId := sourceId
  nodeId := snapshot.nodeId
  signerAgentDid := signerAgentDid
  dataKind := dataKind
  eventKind := eventKind
  visibility := .public
  provisional := false
  topicId := none
  organizationId := none
  taskId := none
  generatedAt := generatedAt
  timeUnit := .seconds
  payload := payload
  ingestPath := "snapshot_push"
  sourceCursorOrSeq := none

/-- The row of an event that a snapshot brings, with its id. -/
def insertSnapshotUiRecord (eventId : String) (dataKind : DataKind) (eventKind : String)
    (generatedAt : Int) (payload : Json) : Proc (Option (String × UiEventRow)) := do
  let row ← exec (.stmt (.insertUiEvent
    (snapshotUiRecord sourceId snapshot signerAgentDid eventId dataKind eventKind generatedAt
      payload)))
  return row.map (eventId, ·)

def presenceEventId (presence : SignedSpacePresence) : String :=
  "space-presence:" ++ presence.record.networkId ++ ":" ++ presence.record.spaceId ++ ":" ++
    presence.record.agentDid ++ ":" ++ toString presence.record.seq

def snapshotPresence (presence : SignedSpacePresence) : Proc (Option (String × UiEventRow)) :=
  match validatePresence X presence with
  | .error _ => pure none
  | .ok _ => do
    if ← exec (.stmt (.upsertPresence presence snapshot.nodeId sourceId)) then
      insertSnapshotUiRecord sourceId snapshot signerAgentDid (presenceEventId presence)
        .spacePresence "space.presence.changed" (presence.record.updatedAt.tdiv 1000)
        (X.presenceToValue presence)
    else return none

def nodePresenceEventId (presence : NodePresence) : String :=
  "node-presence:" ++ presence.nodeId ++ ":" ++ presence.agentDid ++ ":" ++
    toString presence.lastHeartbeatMs

def snapshotNodePresence (presence : NodePresence) : Proc (Option (String × UiEventRow)) :=
  match validateNodePresence presence snapshot.nodeId signerAgentDid with
  | .error _ => pure none
  | .ok _ => do
    if ← exec (.stmt (.upsertNodePresence presence sourceId)) then
      insertSnapshotUiRecord sourceId snapshot signerAgentDid (nodePresenceEventId presence)
        .presence heartbeatKind (presence.lastHeartbeatMs.tdiv 1000)
        (X.nodePresenceToValue presence)
    else return none

def snapshotWorldEvent (payload : Json) : Proc (Option (String × UiEventRow)) :=
  match validateWorldEvent X payload with
  | .error _ => pure none
  | .ok _ => do
    if ← upsertWorldEvent X payload snapshot.nodeId sourceId then
      let announcement ← ofExcept (X.announcementOfValue payload)
      let generatedAt ← ofOption "out of range integral type conversion attempted"
        (i64OfNat (announcement.issuedAt / 1000))
      insertSnapshotUiRecord sourceId snapshot signerAgentDid
        ("world-event:" ++ announcement.networkId ++ ":" ++ announcement.announcementId)
        .worldEvent "space.world_event.published" generatedAt payload
    else return none

def persistSnapshotSpace : Proc (List (String × UiEventRow)) := do
  exec .begin
  let presences ← collect snapshot.spacePresences
    (snapshotPresence X sourceId snapshot signerAgentDid)
  let heartbeats ← collect snapshot.nodePresence.toList
    (snapshotNodePresence X sourceId snapshot signerAgentDid)
  let worldEvents ← collect snapshot.worldEvents
    (snapshotWorldEvent X sourceId snapshot signerAgentDid)
  exec .commit
  return presences ++ heartbeats ++ worldEvents

/-! ## `read_models.rs` and `http.rs` -/

def persistSnapshotReadModels : Proc (List (String × UiEventRow)) := do
  let spaceRows ← persistSnapshotSpace X sourceId snapshot signerAgentDid
  forEach (snapshotProjectionSeeds sourceId snapshot X) fun record =>
    exec (.write (.upsertProjectionRow record))
  return spaceRows

end

def publishRow (row : String × UiEventRow) : Proc Unit :=
  exec (.publishUiEvent (.ofRow row.1 row.2))

section

variable (snapshot : SignedPublicClientSnapshot)

def snapshotRecord (sourceId : Option Nat) : SnapshotRecord where
  sourceId := sourceId
  nodeId := snapshot.payload.nodeId
  signerAgentDid := snapshot.signerAgentDid
  publicKey := snapshot.payload.publicKey
  generatedAt := snapshot.payload.generatedAt
  payload := snapshot.payload
  signature := snapshot.signature

def snapshotOutbox : OutboxRecord :=
  ⟨"snapshot:" ++ snapshot.payload.nodeId ++ ":" ++ toString snapshot.payload.generatedAt,
    .snapshotAnnounceV1 snapshot.payload.nodeId snapshot.signerAgentDid
      snapshot.payload.generatedAt⟩

/-- The artifact that peers fetch is written before the tables decide. -/
def persistArtifactIf : Proc Unit :=
  if X.p2p then exec (.persistSnapshotArtifact snapshot) else pure ()

end

def readModelsIf (applied : Bool) (snapshot : SignedPublicClientSnapshot) (sourceId : Option Nat) :
    Proc Unit :=
  if applied then do
    let spaceRows ← persistSnapshotReadModels X sourceId snapshot.payload snapshot.signerAgentDid
    forEach spaceRows publishRow
  else pure ()

def ingestSignedSnapshotWithOptions (snapshot : SignedPublicClientSnapshot)
    (sourceId : Option Nat) (expectedSignerAgentDid : Option String) (announceP2p : Bool) :
    Proc Bool := do
  ofExcept (verifySignedSnapshot X.toCrypto snapshot expectedSignerAgentDid)
  persistArtifactIf X snapshot
  let applied ← upsertSnapshotInner (snapshotRecord snapshot sourceId)
    (if announceP2p && X.p2p then some (snapshotOutbox snapshot) else none)
  readModelsIf X applied snapshot sourceId
  return applied

/-! ## `streaming.rs` -/

/-- `i64` arithmetic in a release build. -/
def i64Wrap (n : Int) : Int := (n + 2 ^ 63) % 2 ^ 64 - 2 ^ 63

def snapshotUrl (source : NodeSourceRow) : String :=
  source.wattetheriaSnapshotExportUrl.getD source.exportUrl

def gapSubject : Except String Bool → String
  | .ok true => "gateway.event.gap_snapshot_refresh_applied"
  | .ok false => "gateway.event.gap_snapshot_refresh_skipped"
  | .error _ => "gateway.event.gap_snapshot_refresh_failed"

def gapStatus : Except String Bool → String
  | .ok true => "gap_snapshot_refresh"
  | .ok false => "gap_snapshot_refresh_skipped"
  | .error _ => "gap_snapshot_refresh_error"

def gapAudit (sourceId : Nat) (source : NodeSourceRow) (nodeId : String) (missingFromSeq : Int)
    (missingToSeq : Nat) (outcome : Except String Bool) : AuditRecord where
  recordKind := gapSubject outcome
  dataKind := none
  identityKey := some nodeId
  sourceId := some sourceId
  sourceNodeId := some nodeId
  generatedAt := none
  ingestPath := "gap_snapshot_refresh"
  payload := .object [("node_id", .string nodeId), ("missing_from_seq", .ofInt missingFromSeq),
    ("missing_to_seq", .ofNat missingToSeq), ("snapshot_url", .string (snapshotUrl source))]
  provenance := .object [("event", .string (gapSubject outcome)), ("source_id", .ofNat sourceId),
    ("node_id", .string nodeId), ("missing_from_seq", .ofInt missingFromSeq),
    ("missing_to_seq", .ofNat missingToSeq), ("snapshot_url", .string (snapshotUrl source)),
    ("error", match outcome with | .ok _ => .null | .error e => .string e)]

def errorText : Except String Bool → Option String
  | .ok _ => none
  | .error e => some e

section

variable (source : Option (Nat × NodeSourceRow))

/-- A fresh snapshot of the source in place of the events that are missing; its errors are noted
and go no further. -/
def tryBackfillGap (nodeId : String)
    (expectedSignerAgentDid : Option String) (missingFromSeq : Int) (missingToSeq : Nat) :
    Proc Unit :=
  match source with
  | none => pure ()
  | some (sourceId, source) => do
    let outcome ← attempt do
      let snapshot ← exec (.fetch (.signedSnapshot (.http (snapshotUrl source))))
      ingestSignedSnapshotWithOptions X snapshot (some sourceId) expectedSignerAgentDid true
    writeAnyway (.insertAuditRecord
      (gapAudit sourceId source nodeId missingFromSeq missingToSeq outcome))
    writeAnyway (.updateSourceSyncStatus sourceId (gapStatus outcome) (errorText outcome))

/-- The refresh, if the sequence number is beyond the next one. -/
def backfillIfGap (event : NodeEventPayload)
    (expectedSignerAgentDid : Option String) : Option Int → Proc Unit
  | none => pure ()
  | some lastSeq =>
    if (i64OfNat event.seq).any (fun seq => i64Wrap (lastSeq + 1) < seq) then
      tryBackfillGap X source event.nodeId expectedSignerAgentDid (i64Wrap (lastSeq + 1))
        (event.seq - 1)
    else pure ()

end

section

variable (event : NodeEventPayload)

def isProvisional : Bool :=
  event.provisionalPolicy ≠ .neverBeforeConfirmation

/-- What an ephemeral event is streamed as. -/
def ephemeralUiEvent : GatewayUiEvent where
  cursor := 0
  eventId := event.eventId
  nodeId := event.nodeId
  dataKind := event.dataKind
  eventKind := event.eventKind
  visibility := event.visibility
  provisional := isProvisional event
  scope := normalizedEventScope event
  generatedAt := event.timestamp
  payload := event.payload

def persistEphemeral (sourceId : Option Nat) : Proc (Option Nat) :=
  if event.dataKind = .presence ∧ event.eventKind = heartbeatKind then do
    let presence ← ofExcept (X.nodePresenceOfValue event.payload)
    if ← persistNodePresence presence sourceId then
      exec (.publishUiEvent (ephemeralUiEvent event))
      return none
    else return none
  else do
    exec (.publishUiEvent (ephemeralUiEvent event))
    return none

def uiEventRecord (sourceId : Option Nat)
    (projection : Option (DataKind × Json)) : UiEventRecord where
  eventId := event.eventId
  sourceId := sourceId
  nodeId := event.nodeId
  signerAgentDid := event.signerAgentDid
  dataKind := event.dataKind
  eventKind := event.eventKind
  visibility := event.visibility
  provisional := isProvisional event
  topicId := (normalizedEventScope event).topicId
  organizationId := (normalizedEventScope event).organizationId
  taskId := (normalizedEventScope event).taskId
  generatedAt := event.timestamp
  timeUnit := .byThreshold
  payload := uiPayload event projection
  ingestPath := "event_push"
  sourceCursorOrSeq := i64OfNat event.seq

end

def insertEvent (event : SignedNodeEvent) (sourceId : Option Nat) (announceP2p : Bool)
    (projection : Option (DataKind × Json)) : Proc (Option UiEventRow) :=
  if isSpaceEvent event then persistEvent X event sourceId announceP2p
  else insertUiEventInner (uiEventRecord event.payload sourceId projection)
    (if announceP2p then some (eventOutbox event) else none)

def materializeEventProjection (event : NodeEventPayload) (sourceId : Option Nat) :
    Option (DataKind × Json) → Proc Unit
  | none => pure ()
  | some (dataKind, payload) => exec (.write (.upsertProjectionRow
      (eventProjectionRecord event sourceId (isProvisional event) dataKind payload)))

/-- A row that is there already is published again. -/
def republish (eventId : String) : Option UiEventRow → Proc Unit
  | none => pure ()
  | some row => publishRow (eventId, row)

def persistConfirmed (event : SignedNodeEvent) (sourceId : Option Nat) (announceP2p : Bool) :
    Proc (Option Nat) := do
  let projection ← ofExcept (trustedProjection X event.payload)
  match ← insertEvent X event sourceId announceP2p projection with
  | none =>
    if isSpaceEvent event then return none
    else
      materializeEventProjection event.payload sourceId projection
      let existing ← exec (.read (.getUiEventById event.payload.eventId))
      republish event.payload.eventId existing
      return none
  | some row =>
    materializeEventProjection event.payload sourceId projection
    publishRow (event.payload.eventId, row)
    return some row.cursor

/-- The source of an event that comes without one. -/
def resolveSource (event : NodeEventPayload) (sourceId : Option Nat)
    (expectedSignerAgentDid : Option String) : Proc (Option (Nat × NodeSourceRow)) :=
  if sourceId.isNone && expectedSignerAgentDid.isNone then
    exec (.read (.findNodeSourceForIdentity event.nodeId event.signerAgentDid))
  else pure none

def persistSignedNodeEventWithOptions (event : SignedNodeEvent) (sourceId : Option Nat)
    (expectedSignerAgentDid : Option String) (announceP2p : Bool) : Proc (Option Nat) := do
  let resolved ← resolveSource event.payload sourceId expectedSignerAgentDid
  bailIf (resolved.any fun source => source.2.sourceStatus ≠ .active)
    "source is not active for event push ingest"
  let sourceId := sourceId <|> resolved.map Prod.fst
  let expectedSignerAgentDid := expectedSignerAgentDid <|>
    resolved.bind fun source => source.2.expectedSignerAgentDid
  ofExcept (verifySignedNodeEvent X.toCrypto event expectedSignerAgentDid)
  ofExcept (validateEvent X event)
  let lastSeq ← exec (.read (.maxUiEventSourceSeq event.payload.nodeId sourceId))
  backfillIfGap X resolved event.payload expectedSignerAgentDid lastSeq
  if event.payload.provisionalPolicy = .ephemeralOnly then
    persistEphemeral X event.payload sourceId
  else persistConfirmed X event sourceId (announceP2p && X.p2p)

end

end WattGateway.Gateway
