import Mathlib.Data.List.Infix
import WattGateway.Gateway.Calls

/-!
# Ways out

The event stream (`stream` and `handle_ws` of `streaming.rs`) and the board (`public_api.rs`). A
connection replays the stored events after its cursor and then forwards what its channel brings; the
number of turns of the forwarding loop is a parameter.
-/

namespace WattGateway.Gateway

/-! ## The stream -/

def eventMatchesQuery (event : GatewayUiEvent) (query : UiStreamQuery) (allowProtected : Bool) :
    Bool :=
  (allowProtected || allowsPublicStream event.dataKind) &&
    query.dataKind.all (· = event.dataKind) && query.nodeId.all (· = event.nodeId) &&
    query.topicId.all (some · = event.scope.topicId) &&
    query.organizationId.all (some · = event.scope.organizationId) &&
    query.taskId.all (some · = event.scope.taskId)

def advanceLastSentCursor (lastSentCursor : Int) (cursor : Nat) (sent : Bool) : Int :=
  if sent ∧ 0 < cursor then max lastSentCursor cursor else lastSentCursor

def resumeRejectionReason (requestedCursor : Option Int) (earliestAvailableCursor : Option Nat) :
    Option String :=
  match requestedCursor, earliestAvailableCursor with
  | some requested, some earliest =>
    if 0 < requested ∧ requested < earliest then some "cursor_aged_out" else none
  | _, _ => none

def trySend (m : WsMessage) : Proc (Except String Unit) := Prog.query (Query.send m)

section

variable (query : UiStreamQuery) (allowProtected : Bool)

def replay : List (String × UiEventRow) → Int → Proc (Option Int)
  | [], lastSentCursor => pure (some lastSentCursor)
  | row :: rows, lastSentCursor =>
    let event := GatewayUiEvent.ofRow row.1 row.2
    if eventMatchesQuery event query allowProtected then do
      match ← trySend (.event event) with
      | .error _ => return none
      | .ok _ => replay rows (advanceLastSentCursor lastSentCursor event.cursor true)
    else replay rows (advanceLastSentCursor lastSentCursor event.cursor false)

def forward (earliestAvailableCursor : Option Nat) : Nat → Int → Proc Reply
  | 0, _ => pure .closed
  | turns + 1, lastSentCursor => do
    match ← Prog.query Query.recv with
    | .error _ => return .closed
    | .ok .lagged => do
      let _ ← trySend (.resumeRejected "stream_lagged" (some lastSentCursor)
        earliestAvailableCursor)
      return .closed
    | .ok (.event event) =>
      if 0 < event.cursor ∧ event.cursor ≤ lastSentCursor then
        forward earliestAvailableCursor turns lastSentCursor
      else if eventMatchesQuery event query allowProtected then do
        match ← trySend (.event event) with
        | .error _ => return .closed
        | .ok _ =>
          forward earliestAvailableCursor turns
            (advanceLastSentCursor lastSentCursor event.cursor true)
      else forward earliestAvailableCursor turns lastSentCursor

def listQuery : Db.ListUiEventsQuery where
  cursor := query.cursor.getD 0
  dataKind := query.dataKind
  nodeId := query.nodeId
  topicId := query.topicId
  organizationId := query.organizationId
  taskId := query.taskId
  limit := i64Wrap (query.limit.getD 200)

def serve (earliestAvailableCursor : Option Nat) (turns : Nat) : Proc Reply := do
  let rows ← tryRead (.listUiEventsAfter (listQuery query))
  match ← replay query allowProtected (rows.toOption.getD []) (query.cursor.getD 0) with
  | none => return .closed
  | some lastSentCursor => forward query allowProtected earliestAvailableCursor turns lastSentCursor

def handleWs (turns : Nat) : Proc Reply := do
  exec (.subscribe query.dataKind)
  let earliest ← tryRead .earliestUiEventCursor
  let earliestAvailableCursor := earliest.toOption.join
  match ← trySend (.hello (query.cursor.getD 0) earliestAvailableCursor) with
  | .error _ => return .closed
  | .ok _ =>
    match resumeRejectionReason query.cursor earliestAvailableCursor with
    | some reason => do
      let _ ← trySend (.resumeRejected reason query.cursor earliestAvailableCursor)
      return .closed
    | none => serve query allowProtected earliestAvailableCursor turns

end

/-- The token of the query is the administrator's. -/
def allowsProtected (X : Deployment) (query : UiStreamQuery) : Bool :=
  match query.token, X.registryAdminToken with
  | some token, some expected => token = expected
  | _, _ => false

def stream (X : Deployment) (query : UiStreamQuery) (turns : Nat) : Proc Reply :=
  if query.dataKind.any fun kind => !allowsPublicStream kind && !allowsProtected X query then
    pure (.error .unauthorized "protected stream kinds require an authorized token")
  else handleWs query (allowsProtected X query) turns

/-! ## The board -/

structure BoardQuery where
  limit : Option Nat
  networkId : Option String
  source : Option String
  category : Option String
  search : Option String
  serviceName : Option String
  authorId : Option String
  federation : Option String
  deriving DecidableEq

def matchesOptionalStringFilter (value : Json) (keys : List String) (expected : Option String) :
    Bool :=
  match expected with
  | none => true
  | some expected => keys.findSome? (stringAt value) = some expected

def asciiLower (s : String) : List Char := s.toList.map Char.toLower

section

variable (X : Deployment)

def matchesBoardFilters (value : Json) (query : BoardQuery) : Bool :=
  let source := query.source.map fun s => if s = "services" then "service" else s
  let search := (query.search.map trim).filter fun s => s ≠ ""
  matchesOptionalStringFilter value ["source"] source &&
    (search.all fun search => (X.toText value).any fun text =>
      asciiLower search <:+: asciiLower text) &&
    matchesOptionalStringFilter value ["network_id", "networkId"] query.networkId &&
    matchesOptionalStringFilter value ["category"] query.category &&
    matchesOptionalStringFilter value ["service_name"] query.serviceName &&
    matchesOptionalStringFilter value
      ["author_id", "author_public_id", "author_node_id", "authorId"] query.authorId

/-- `as_i64`, or the time of a text. -/
def valueToTimestamp : Json → Option Int
  | .number (.int n) => if -2 ^ 63 ≤ n ∧ n < 2 ^ 63 then some n else none
  | .string s => (X.parseFromRfc3339 s).map Prod.fst
  | _ => none

/-- The first of the fields that holds a time. -/
def firstTimestamp (value : Json) (keys : List String) : Option Int :=
  keys.findSome? fun key => (value.get key).bind (valueToTimestamp X)

def topicSortTimestamp (value : Json) : Int :=
  (firstTimestamp X value ["last_message_at", "updated_at", "created_at", "timestamp", "sent_at",
    "snapshot_generated_at"]).getD 0

def timestampWithFallback (value : Json) (fallbackKeys : List String) : Int :=
  if topicSortTimestamp X value ≠ 0 then topicSortTimestamp X value
  else (firstTimestamp X value fallbackKeys).getD 0

end

/-- The first value of each identity, and every value without one. -/
def dedupeValuesByKey (key : Json → Option String) : List Json → List String → List Json
  | [], _ => []
  | value :: values, seen =>
    match key value with
    | none => value :: dedupeValuesByKey key values seen
    | some identity =>
      if identity ∈ seen then dedupeValuesByKey key values seen
      else value :: dedupeValuesByKey key values (identity :: seen)

def boardMessageIdentityKey (value : Json) : Option String :=
  ["message_id", "id"].findSome? (stringAt value)

def attachSource (value : Json) (sourceNodeId : String) : Json :=
  match value.asObject with
  | some object => .object (Json.Fields.insert object "source_node_id" (.string sourceNodeId))
  | none => value

def boardLimit (query : BoardQuery) : Nat := min (max (query.limit.getD 500) 1) 500

/-- The page of the board, from the rows of this gateway and of its peers. -/
def boardPage (X : Deployment) (query : BoardQuery) (values : List Json) : List Json :=
  let values := (trustedBoardMessages X values).filter fun value => matchesBoardFilters X value query
  let sorted := values.insertionSort fun a b =>
    timestampWithFallback X b ["created_at", "sequence", "snapshot_generated_at"] ≤
      timestampWithFallback X a ["created_at", "sequence", "snapshot_generated_at"]
  (dedupeValuesByKey boardMessageIdentityKey sorted []).take (boardLimit query)

def federationEnabled (value : Option String) : Bool :=
  match value.map fun s => asciiLower (trim s) with
  | some s => s ∉ ["local", "none", "false", "0"].map String.toList
  | none => true

def boardParams (query : BoardQuery) : List (String × String) :=
  [("limit", toString (boardLimit query))] ++ (query.networkId.map ("network_id", ·)).toList ++
    (query.source.map ("source", ·)).toList ++ (query.category.map ("category", ·)).toList ++
    (query.search.map ("search", ·)).toList ++ (query.serviceName.map ("service_name", ·)).toList ++
    (query.authorId.map ("author_id", ·)).toList

def fetchFederatedArrays (params : List (String × String)) : List String → Proc (List Json)
  | [] => pure []
  | baseUrl :: baseUrls => do
    let items ← Prog.query (Query.fetch (.boardRows baseUrl params))
    let rest ← fetchFederatedArrays params baseUrls
    return items.toOption.getD [] ++ rest

/-- The board, with the base URLs of the peers it asks. -/
def aggregatePublicBoardMessages (X : Deployment) (query : BoardQuery) (peers : List String) :
    Proc Reply := do
  match ← tryRead (.listProjectionRows .boardActivity) with
  | .error e => return .error .internalServerError e
  | .ok rows => do
    let federated ← fetchFederatedArrays (boardParams query)
      (if federationEnabled query.federation then peers else [])
    return .board (boardPage X query
      (rows.map (fun row => attachSource row.2.payload row.1.2.2) ++ federated))

/-! ## The calls -/

inductive Call where
  | ingestSnapshot (snapshot : SignedPublicClientSnapshot)
  | ingestNodeEvent (event : SignedNodeEvent)
  | syncNodes (sourceId : Option Nat)
  | gossip (propagationSource : String) (message : GatewayP2pSyncMessage)
  | stream (query : UiStreamQuery) (turns : Nat)
  | board (query : BoardQuery) (peers : List String)

def Call.prog (X : Deployment) : Call → Proc Reply
  | .ingestSnapshot snapshot => Gateway.ingestSnapshot X snapshot
  | .ingestNodeEvent event => Gateway.ingestNodeEvent X event
  | .syncNodes sourceId => Gateway.syncNodes X sourceId
  | .gossip propagationSource message =>
    (handleGossip X propagationSource message).attempt >>= fun _ => pure .handled
  | .stream query turns => Gateway.stream X query turns
  | .board query peers => aggregatePublicBoardMessages X query peers

abbrev GatewaySys := Sys Empty Query Ans World Reply

def gatewayStart (X : Deployment) (sources : Sources) (calls : Nat → Call) : GatewaySys :=
  .start (.start sources) fun t => (calls t).prog X

end WattGateway.Gateway
