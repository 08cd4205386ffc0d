import WattGateway.Gateway.Tables
import WattGateway.Lib.Interleave

/-!
# Statements, streams and the outside

What the gateway's calls share: the committed tables, the open transactions, the channels of
`UiStreamHub`, the artifact files and the answers of other hosts. One query is one statement,
request or use of a channel; each may fail, with or without effect, and the answer says so, because
the code does not end at every error. A transaction reads the tables with its own rows, waits for
rows that another has written, and is rolled back by a statement that fails.
-/

namespace WattGateway.Gateway

open Function

/-! ## Reads -/

inductive Read where
  | findNodeSourceForIdentity (nodeId signerAgentDid : String)
  | getNodeSource (id : Nat)
  | listNodeSources
  | listSnapshots
  | getSnapshotByNodeId (nodeId : String)
  | maxUiEventSourceSeq (nodeId : String) (sourceId : Option Nat)
  | getUiEventById (eventId : String)
  | listProjectionRows (dataKind : DataKind)
  | earliestUiEventCursor
  | listUiEventsAfter (q : Db.ListUiEventsQuery)

@[reducible] def Read.Result : Read → Type
  | .findNodeSourceForIdentity _ _ => Option (Nat × NodeSourceRow)
  | .getNodeSource _ => Option NodeSourceRow
  | .listNodeSources => List (Nat × NodeSourceRow)
  | .listSnapshots => List (String × SnapshotRow)
  | .getSnapshotByNodeId _ => Option SnapshotRow
  | .maxUiEventSourceSeq _ _ => Option Int
  | .getUiEventById _ => Option UiEventRow
  | .listProjectionRows _ => List ((DataKind × String × String) × ProjectionRow)
  | .earliestUiEventCursor => Option Nat
  | .listUiEventsAfter _ => List (String × UiEventRow)

def Read.eval (db : Db) : (r : Read) → r.Result
  | .findNodeSourceForIdentity nodeId signer => db.findNodeSourceForIdentity nodeId signer
  | .getNodeSource id => db.nodeSources.get? id
  | .listNodeSources => db.listNodeSources
  | .listSnapshots => db.listSnapshots
  | .getSnapshotByNodeId nodeId => db.nodeSnapshots.get? nodeId
  | .maxUiEventSourceSeq nodeId sourceId => db.maxUiEventSourceSeq nodeId sourceId
  | .getUiEventById eventId => db.uiEvents.get? eventId
  | .listProjectionRows dataKind => db.listProjectionRows dataKind
  | .earliestUiEventCursor => db.earliestUiEventCursor
  | .listUiEventsAfter q => db.listUiEventsAfter q

/-! ## Other hosts -/

/-- Where a snapshot is fetched: an export URL, or a peer's artifact of a node. -/
inductive Endpoint where
  | http (url : String)
  | iroh (contact : ContactMaterial) (nodeId : String)
  deriving DecidableEq

structure WattswarmNetworkProjectionSnapshot where
  generatedAt : Nat
  nodeId : String
  displayName : String
  orgId : String
  networkId : String
  running : Bool
  mode : String
  /-- `latitude`, `longitude` and `peer_protocol_distribution`, which only travel on. -/
  further : List (String × Json)
  peers : List String

structure WattswarmTopicMessageView where
  messageId : String
  networkId : String
  feedKey : String
  scopeHint : String
  authorNodeId : String
  content : Json
  replyToMessageId : Option String
  createdAt : Nat

structure WattswarmTopicActivitySnapshot where
  generatedAt : Nat
  messages : List WattswarmTopicMessageView

structure WattswarmTopicSubscriptionRow where
  networkId : String
  subscriberNodeId : String
  feedKey : String
  scopeHint : String
  active : Bool
  updatedAt : Nat

structure WattswarmTopicSubscriptionSnapshot where
  generatedAt : Nat
  subscriptions : List WattswarmTopicSubscriptionRow

inductive Fetch where
  | signedSnapshot (endpoint : Endpoint)
  | networkSnapshot (baseUrl : String)
  | topicSubscriptions (baseUrl networkId : String)
  | topicActivity (baseUrl : String) (query : List (String × String))
  | boardRows (baseUrl : String) (params : List (String × String))

@[reducible] def Fetch.Result : Fetch → Type
  | .signedSnapshot _ => SignedPublicClientSnapshot
  | .networkSnapshot _ => WattswarmNetworkProjectionSnapshot
  | .topicSubscriptions _ _ => WattswarmTopicSubscriptionSnapshot
  | .topicActivity _ _ => WattswarmTopicActivitySnapshot
  | .boardRows _ _ => List Json

/-- What the other hosts answer, none for an error. -/
abbrev Remote := (f : Fetch) → Option f.Result

/-! ## Transactions -/

/-- A row that a transaction has written. -/
inductive Write where
  | snapshot (nodeId : String) (row : SnapshotRow)
  | uiEvent (eventId : String) (row : UiEventRow)
  | outbox (dedupeKey : String) (row : P2pOutboxRow)
  | presence (key : String × String × String) (row : SpacePresenceRow)
  | spaceEvent (key : String × String) (row : SpaceEventRow)
  | nodePresence (key : String × String) (row : NodePresenceRow)

/-- The key of a row that a statement may write. -/
inductive Target where
  | snapshot (nodeId : String)
  | uiEvent (eventId : String)
  | outbox (dedupeKey : String)
  | presence (key : String × String × String)
  | spaceEvent (key : Option String × Option String)
  | nodePresence (key : String × String)
  deriving DecidableEq

def Write.target : Write → Target
  | .snapshot nodeId _ => .snapshot nodeId
  | .uiEvent eventId _ => .uiEvent eventId
  | .outbox dedupeKey _ => .outbox dedupeKey
  | .presence key _ => .presence key
  | .spaceEvent key _ => .spaceEvent (some key.1, some key.2)
  | .nodePresence key _ => .nodePresence key

def Write.apply (db : Db) : Write → Db
  | .snapshot nodeId row => { db with nodeSnapshots := db.nodeSnapshots.upsert nodeId fun _ => row }
  | .uiEvent eventId row => { db with uiEvents := db.uiEvents.upsert eventId fun _ => row }
  | .outbox dedupeKey row => { db with p2pOutbox := db.p2pOutbox.upsert dedupeKey fun _ => row }
  | .presence key row => { db with spacePresence := db.spacePresence.upsert key fun _ => row }
  | .spaceEvent key row => { db with spaceEvents := db.spaceEvents.upsert key fun _ => row }
  | .nodePresence key row => { db with nodePresence := db.nodePresence.upsert key fun _ => row }

structure Tx where
  startedAt : Nat
  writes : List Write

/-- The tables as the transaction sees them. -/
def Tx.view (db : Db) (tx : Tx) : Db := tx.writes.foldl Write.apply db

inductive Stmt where
  | upsertSnapshot (r : SnapshotRecord)
  | insertUiEvent (r : UiEventRecord)
  | insertP2pOutbox (r : OutboxRecord)
  | upsertPresence (presence : SignedSpacePresence) (nodeId : String) (sourceId : Option Nat)
  | upsertWorldEvent (world : WorldEvent) (payload : Json) (nodeId : String) (sourceId : Option Nat)
  | upsertNodePresence (presence : NodePresence) (sourceId : Option Nat)

@[reducible] def Stmt.Result : Stmt → Type
  | .upsertSnapshot _ => Bool
  | .insertUiEvent _ => Option UiEventRow
  | .insertP2pOutbox _ => Unit
  | .upsertPresence _ _ _ => Bool
  | .upsertWorldEvent _ _ _ _ => Bool
  | .upsertNodePresence _ _ => Bool

def presenceKey (presence : SignedSpacePresence) : String × String × String :=
  (presence.record.networkId, presence.record.spaceId, presence.record.agentDid)

def Stmt.target : Stmt → Target
  | .upsertSnapshot r => .snapshot r.nodeId
  | .insertUiEvent r => .uiEvent r.eventId
  | .insertP2pOutbox r => .outbox r.dedupeKey
  | .upsertPresence presence _ _ => .presence (presenceKey presence)
  | .upsertWorldEvent _ payload _ _ =>
    .spaceEvent ((payload.index "network_id").asStr, (payload.index "announcement_id").asStr)
  | .upsertNodePresence presence _ => .nodePresence (presence.nodeId, presence.agentDid)

def SnapshotRecord.row (r : SnapshotRecord) (now : Nat) (old : Option SnapshotRow) : SnapshotRow where
  sourceId := r.sourceId <|> old.bind SnapshotRow.sourceId
  signerAgentDid := r.signerAgentDid
  publicKey := r.publicKey
  generatedAt := normalizeGeneratedAtMillis r.generatedAt
  ingestedAt := now
  payload := r.payload
  signature := r.signature

/-- The values of the two sequences, and the time `now()` of the transaction. -/
structure Defaults where
  cursor : Nat
  outboxId : Nat
  now : Nat

def Stmt.exec (view : Db) (d : Defaults) : (s : Stmt) → Except String (s.Result × Option Write)
  | .upsertSnapshot r =>
    let old := view.nodeSnapshots.get? r.nodeId
    if old.all fun row => row.generatedAt ≤ normalizeGeneratedAtMillis r.generatedAt then
      .ok (true, some (.snapshot r.nodeId (r.row d.now old)))
    else .ok (false, none)
  | .insertUiEvent r =>
    match view.uiEvents.get? r.eventId with
    | none => .ok (some (r.row d.cursor d.now), some (.uiEvent r.eventId (r.row d.cursor d.now)))
    | some _ => .ok (none, none)
  | .insertP2pOutbox r =>
    match view.p2pOutbox.get? r.dedupeKey with
    | none => .ok ((), some (.outbox r.dedupeKey ⟨d.outboxId, r.command⟩))
    | some _ => .ok ((), none)
  | .upsertPresence presence nodeId sourceId =>
    if (view.spacePresence.get? (presenceKey presence)).all fun row =>
        row.seq < presence.record.seq then
      .ok (true, some (.presence (presenceKey presence)
        ⟨presence.record.seq, nodeId, sourceId, presence⟩))
    else .ok (false, none)
  | .upsertWorldEvent world payload nodeId sourceId =>
    match (payload.index "network_id").asStr, (payload.index "announcement_id").asStr with
    | some networkId, some announcementId =>
      match view.spaceEvents.get? (networkId, announcementId) with
      | none => .ok (true, some (.spaceEvent (networkId, announcementId)
          ⟨world.spaceId, world.placeId, nodeId, sourceId, payload⟩))
      | some _ => .ok (false, none)
    | _, _ => .error "null value violates not-null constraint"
  | .upsertNodePresence presence sourceId =>
    if (view.nodePresence.get? (presence.nodeId, presence.agentDid)).all fun row =>
        row.lastHeartbeatMs < presence.lastHeartbeatMs then
      .ok (true, some (.nodePresence (presence.nodeId, presence.agentDid)
        ⟨presence.lastHeartbeatMs, sourceId, presence⟩))
    else .ok (false, none)

/-! ## Single statements -/

/-- A statement outside a transaction that writes. -/
inductive AutoWrite where
  | upsertProjectionRow (r : ProjectionRecord)
  | insertAuditRecord (r : AuditRecord)
  | updateSourceSyncStatus (sourceId : Nat) (status : String) (error : Option String)

def ProjectionRecord.key (r : ProjectionRecord) : DataKind × String × String :=
  (r.dataKind, r.identityKey, r.sourceNodeId)

/-- The row of a projection, over the one that is there: an older one leaves it. -/
def ProjectionRecord.row (r : ProjectionRecord) (now : Nat) (old : Option ProjectionRow) :
    ProjectionRow :=
  let new : ProjectionRow :=
    { sourceId := r.sourceId <|> old.bind ProjectionRow.sourceId
      generatedAt := normalizeGeneratedAtMillis r.generatedAt
      ingestedAt := now
      visibility := r.visibility
      payload := r.payload
      provenance := r.provenance }
  match old with
  | none => new
  | some row => if row.generatedAt ≤ normalizeGeneratedAtMillis r.generatedAt then new else row

def AutoWrite.apply (db : Db) (now : Nat) : AutoWrite → Db
  | .upsertProjectionRow r =>
    { db with projectionRows := db.projectionRows.upsert r.key (r.row now) }
  | .insertAuditRecord r => { db with ingestAudit := r :: db.ingestAudit }
  | .updateSourceSyncStatus sourceId status error =>
    { db with syncStatus := db.syncStatus.upsert sourceId fun _ => (status, error) }

/-! ## The hub -/

/-- `FILTERED_UI_STREAM_CAPACITY`, which is also the capacity of the channel for all kinds. -/
def streamCapacity : Nat := 512

def publishedCapacity : Nat := 8192

/-- A receiver of a broadcast channel: what it has still to receive, and whether the channel has
overtaken it. -/
structure Receiver where
  instanceId : Nat
  dataKind : Option DataKind
  queue : List GatewayUiEvent
  lagged : Bool

def Receiver.push (e : GatewayUiEvent) (r : Receiver) : Receiver :=
  if r.queue.length < streamCapacity then { r with queue := r.queue ++ [e] }
  else { r with queue := r.queue.tail ++ [e], lagged := true }

/-- `remember`: the cache with the id, unless it is there. -/
def remember (cache : List String) (eventId : String) : Option (List String) :=
  if eventId ∈ cache then none
  else
    let cache := cache ++ [eventId]
    some (if publishedCapacity < cache.length then cache.tail else cache)

inductive Recv where
  | event (e : GatewayUiEvent)
  | lagged

/-- The frames of a stream. -/
inductive WsMessage where
  | hello (cursor : Int) (earliestAvailableCursor : Option Nat)
  | resumeRejected (reason : String) (requestedCursor : Option Int)
      (earliestAvailableCursor : Option Nat)
  | event (e : GatewayUiEvent)

/-! ## The world -/

structure World where
  db : Db
  txs : Table Nat Tx
  nextCursor : Nat
  nextOutboxId : Nat
  now : Nat
  remote : Remote
  /-- The recent event ids of each instance. -/
  published : Nat → List String
  receivers : Table Nat Receiver
  /-- The artifact of a node on an instance. -/
  artifacts : Nat → String → Option SignedPublicClientSnapshot
  /-- What a stream's client has been sent, oldest first. -/
  sent : Nat → List WsMessage

/-- A deployment that starts: the tables as created, with sources. -/
def World.start (sources : Sources) : World where
  db := .start sources
  txs := .empty
  nextCursor := 1
  nextOutboxId := 1
  now := 0
  remote := fun _ => none
  published := fun _ => []
  receivers := .empty
  artifacts := fun _ _ => none
  sent := fun _ => []

inductive Query where
  | read (r : Read)
  | fetch (f : Fetch)
  | begin
  | stmt (s : Stmt)
  | commit
  | rollback
  | write (a : AutoWrite)
  | persistSnapshotArtifact (snapshot : SignedPublicClientSnapshot)
  | publishUiEvent (e : GatewayUiEvent)
  | subscribe (dataKind : Option DataKind)
  | recv
  | send (m : WsMessage)

@[reducible] def Query.Result : Query → Type
  | .read r => r.Result
  | .fetch f => f.Result
  | .stmt s => s.Result
  | .recv => Recv
  | _ => Unit

/-- A query may be answered with an error. -/
@[reducible] def Ans (q : Query) : Type := Except String q.Result

namespace World

variable (w : World) (t : Nat)

def locked (target : Target) : Bool :=
  w.txs.rows.any fun tx => tx.1 ≠ t && tx.2.writes.any fun write => write.target = target

def dropTx : World := { w with txs := w.txs.delete fun t' _ => t' = t }

@[simp] lemma dropTx_self : (w.dropTx t).txs.get? t = none := by
  unfold dropTx
  rw [Table.get?_delete]
  cases w.txs.get? t <;> simp

lemma get?_of_dropTx {t' : Nat} {tx : Tx} (h : (w.dropTx t).txs.get? t' = some tx) :
    w.txs.get? t' = some tx := by
  unfold dropTx at h
  rw [Table.get?_delete, Option.filter_eq_some_iff] at h
  exact h.1

/-- An insert draws from its table's sequence, whether or not it inserts. -/
def draw : Stmt → World
  | .insertUiEvent _ => { w with nextCursor := w.nextCursor + 1 }
  | .insertP2pOutbox _ => { w with nextOutboxId := w.nextOutboxId + 1 }
  | _ => w

/-- A statement in the open transaction of call `t`, blocked while its row is locked. -/
def statement (s : Stmt) : Option (Except String s.Result × World) :=
  match w.txs.get? t with
  | none => some (.error "no transaction is open", w)
  | some tx =>
    if w.locked t s.target then none
    else
      match s.exec (tx.view w.db) ⟨w.nextCursor, w.nextOutboxId, tx.startedAt⟩ with
      | .error e => some (.error e, (w.draw s).dropTx t)
      | .ok (a, write) =>
        some (.ok a, { w.draw s with
          txs := w.txs.upsert t fun _ => { tx with writes := tx.writes ++ write.toList } })

def committed (tx : Tx) : World := { w.dropTx t with db := tx.view w.db }

/-- `UiStreamHub::publish` on the instance of the call. -/
def publish (inst : Nat) (e : GatewayUiEvent) : World :=
  let deliver (w : World) : World :=
    { w with
      receivers := w.receivers.update
        (fun _ r => r.instanceId = inst && r.dataKind.all (· = e.dataKind)) (Receiver.push e) }
  if e.cursor = 0 then deliver w
  else
    match remember (w.published inst) e.eventId with
    | none => w
    | some cache => deliver { w with published := update w.published inst cache }

end World

def dbError : String := "error communicating with database"

/-- What a query is answered and does, for a call on an instance. -/
def answer (inst t : Nat) (w : World) (o : Outcome) : (q : Query) → Option (Ans q × World)
  | .read r => some (if o = .ok then .ok (r.eval w.db) else .error dbError, w)
  | .fetch f =>
    match w.remote f with
    | some a => some (if o = .ok then .ok a else .error "error sending request", w)
    | none => some (.error "error sending request", w)
  | .begin =>
    if o = .ok then some (.ok (), { w with txs := w.txs.upsert t fun _ => ⟨w.now, []⟩ })
    else some (.error dbError, w.dropTx t)
  | .stmt s => if o = .ok then w.statement t s else some (.error dbError, w.dropTx t)
  | .commit =>
    match w.txs.get? t with
    | none => some (.error "no transaction is open", w)
    | some tx =>
      match o with
      | .ok => some (.ok (), w.committed t tx)
      | .lost => some (.error dbError, w.committed t tx)
      | _ => some (.error dbError, w.dropTx t)
  | .rollback => some (if o = .ok then .ok () else .error dbError, w.dropTx t)
  | .write a =>
    match o with
    | .ok => some (.ok (), { w with db := a.apply w.db w.now })
    | .lost => some (.error dbError, { w with db := a.apply w.db w.now })
    | _ => some (.error dbError, w)
  | .persistSnapshotArtifact snapshot =>
    if o = .ok then
      some (.ok (), { w with
        artifacts := update w.artifacts inst
          (update (w.artifacts inst) snapshot.payload.nodeId (some snapshot)) })
    else some (.error "write snapshot artifact", w)
  | .publishUiEvent e => some (.ok (), w.publish inst e)
  | .subscribe dataKind =>
    some (.ok (), { w with receivers := w.receivers.upsert t fun _ => ⟨inst, dataKind, [], false⟩ })
  | .recv =>
    match w.receivers.get? t with
    | none => some (.error "channel closed", w)
    | some r =>
      if r.lagged then
        some (.ok .lagged, { w with
          receivers := w.receivers.update (fun t' _ => t' = t) fun r => { r with lagged := false } })
      else
        match r.queue with
        | [] => none
        | e :: queue =>
          some (.ok (.event e), { w with
            receivers := w.receivers.update (fun t' _ => t' = t) fun r => { r with queue } })
  | .send m =>
    if o = .ok then some (.ok (), { w with sent := update w.sent t (w.sent t ++ [m]) })
    else some (.error "connection closed", w)

/-- What happens beside the calls: time passes, the server loses the connection of a call, other
hosts change what they answer. -/
inductive Env where
  | tick (d : Nat)
  | disconnect (t : Nat)
  | serve (remote : Remote)

/-- The machine, with the instance on which each call runs. -/
def machine (instances : Nat → Nat) : Machine Empty Query Ans World Env where
  clock := World.now
  perform := fun _ c => c.elim
  answer := fun t q o w => (answer (instances t) t w o q).map fun x => (.ok x.1, x.2)
  finish := fun t w => { w.dropTx t with receivers := w.receivers.delete fun t' _ => t' = t }
  env := fun
    | .tick d, w => { w with now := w.now + d }
    | .disconnect t, w => w.dropTx t
    | .serve remote, w => { w with remote := remote }

end WattGateway.Gateway
