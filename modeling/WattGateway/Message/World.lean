import WattGateway.Lib.Interleave
import WattGateway.Message.Schema

/-!
# Database sessions and the broker

What the gateway's calls share: the committed tables, the open transactions with the advisory lock
each holds, the RabbitMQ broker, and the clock. A transaction keeps its statements with their times
and reads the tables with these applied (`Tx.view`); its commit makes that view the tables. `begin`
stands for `begin_scope_fence`: it is blocked while another transaction holds a conflicting lock,
and the end of a call releases the lock.
-/

namespace WattGateway.Message

open List

/-! ## The broker -/

/-- The exchanges messages are published to, one of each kind per class. -/
inductive Exchange where
  | direct (cls : DeliveryClass)
  | scope (cls : DeliveryClass)
  deriving DecidableEq

structure BrokerRecord where
  networkId : String
  sourcePrincipalId : String
  recordId : String
  route : EventTransportRoute
  record : Bytes
  membershipVersion : Option String
  deliveryClass : DeliveryClass
  deliveryPolicyVersion : Nat
  enqueuedAt : Nat
  expiresAt : Option Nat
  deriving DecidableEq

structure BrokerControlRecord where
  networkId : String
  correlationId : String
  sourcePrincipalId : String
  targetPrincipalId : String
  controlKind : String
  payload : Bytes
  gapRoute : EventTransportRoute
  deliveryPolicyVersion : Nat
  enqueuedAt : Nat
  expiresAt : Option Nat
  deriving DecidableEq

inductive BrokerEnvelope where
  | record (r : BrokerRecord)
  | control (c : BrokerControlRecord)
  deriving DecidableEq

/-- A message the broker has put into queues, and whether it confirmed it. -/
structure Routed where
  call : Nat
  exchange : Exchange
  key : Digest
  envelope : BrokerEnvelope
  queues : List String
  confirmed : Bool
  deriving DecidableEq

structure Broker where
  queues : List String
  bindings : List (Exchange × String × Digest)
  routed : List Routed

namespace Broker

def empty : Broker := ⟨[], [], []⟩

section

variable (b : Broker)

def boundTo (ex : Exchange) (key : Digest) : List String :=
  (b.bindings.filter fun x => x.1 = ex ∧ x.2.2 = key).map fun x => x.2.1

def queueDeclare (queue : String) : Broker :=
  if queue ∈ b.queues then b else { b with queues := queue :: b.queues }

def queueBind (ex : Exchange) (queue : String) (key : Digest) : Broker :=
  if (ex, queue, key) ∈ b.bindings then b
  else { b with bindings := (ex, queue, key) :: b.bindings }

def queueUnbind (ex : Exchange) (queue : String) (key : Digest) : Broker :=
  { b with bindings := b.bindings.filter fun x => x ≠ (ex, queue, key) }

def route (call : Nat) (ex : Exchange) (key : Digest) (envelope : BrokerEnvelope)
    (confirmed : Bool) : Broker :=
  { b with routed := ⟨call, ex, key, envelope, b.boundTo ex key, confirmed⟩ :: b.routed }

end

variable {queue : String} {b : Broker}

variable {ex : Exchange} {key : Digest}

lemma mem_boundTo : queue ∈ b.boundTo ex key ↔ (ex, queue, key) ∈ b.bindings := by
  unfold boundTo
  rw [mem_map]
  constructor
  · rintro ⟨⟨_, _, _⟩, hm, rfl⟩
    rw [mem_filter] at hm
    obtain ⟨hm, hk⟩ := hm
    simp only [decide_eq_true_eq] at hk
    obtain ⟨rfl, rfl⟩ := hk
    exact hm
  · intro hm
    exact ⟨_, mem_filter.2 ⟨hm, by simp⟩, rfl⟩

lemma mem_queueBind {x : Exchange × String × Digest} :
    x ∈ (b.queueBind ex queue key).bindings ↔ x = (ex, queue, key) ∨ x ∈ b.bindings := by
  unfold queueBind
  split
  · rename_i hm
    constructor
    · exact .inr
    · rintro (rfl | hx)
      · exact hm
      · exact hx
  · exact mem_cons

lemma mem_queueDeclare {x : String} :
    x ∈ (b.queueDeclare queue).queues ↔ x = queue ∨ x ∈ b.queues := by
  unfold queueDeclare
  split
  · rename_i hm
    constructor
    · exact .inr
    · rintro (rfl | hx)
      · exact hm
      · exact hx
  · exact mem_cons

@[simp] lemma queues_queueBind (b : Broker) (ex : Exchange) (queue : String) (key : Digest) :
    (b.queueBind ex queue key).queues = b.queues := by
  unfold queueBind
  split <;> rfl

@[simp] lemma bindings_queueDeclare (b : Broker) (queue : String) :
    (b.queueDeclare queue).bindings = b.bindings := by
  unfold queueDeclare
  split <;> rfl

@[simp] lemma routed_queueDeclare (b : Broker) (queue : String) :
    (b.queueDeclare queue).routed = b.routed := by
  unfold queueDeclare
  split <;> rfl

@[simp] lemma routed_queueBind (b : Broker) (ex : Exchange) (queue : String) (key : Digest) :
    (b.queueBind ex queue key).routed = b.routed := by
  unfold queueBind
  split <;> rfl

end Broker

/-! ## Transactions -/

/-- The text `begin_scope_fence` hashes into the advisory lock. -/
def fenceKey (network label : String) : String :=
  toString network.utf8ByteSize ++ ":" ++ network ++ label

/-- An open transaction: its lock, and its statements with their times, oldest first. -/
structure Tx where
  fence : String
  exclusive : Bool
  writes : List (Nat × Stmt)

def Tx.view (tx : Tx) (db : Db) : Except String Db :=
  tx.writes.foldlM (fun db w => w.2.run w.1 db) db

def Tx.push (tx : Tx) (w : Nat × Stmt) : Tx := { tx with writes := tx.writes ++ [w] }

structure World where
  db : Db
  txs : Table Nat Tx
  broker : Broker
  now : Nat

namespace World

/-- Another open transaction holds a lock that excludes the wanted one. -/
def Conflicts (w : World) (t : Nat) (fence : String) (exclusive : Bool) : Prop :=
  ∃ x ∈ w.txs.rows, x.1 ≠ t ∧ x.2.fence = fence ∧ (exclusive = true ∨ x.2.exclusive = true)

instance (w : World) (t : Nat) (fence : String) (exclusive : Bool) :
    Decidable (w.Conflicts t fence exclusive) :=
  inferInstanceAs (Decidable (∃ x ∈ w.txs.rows, _))

def setTx (w : World) (t : Nat) (tx : Tx) : World :=
  { w with txs := w.txs.upsert t fun _ => tx }

def dropTx (w : World) (t : Nat) : World :=
  { w with txs := w.txs.delete fun t' _ => t' = t }

def start (db : Db) (now : Nat) : World := ⟨db, .empty, .empty, now⟩

end World

/-! ## Commands and queries -/

inductive Cmd where
  /-- `begin_scope_fence`. -/
  | begin (network label : String) (exclusive : Bool)
  /-- A statement in the open transaction. -/
  | stmt (s : Stmt)
  /-- A statement through the pool, committed at once. -/
  | exec (s : Stmt)
  | commit
  | queueDeclare (queue : String)
  | queueBind (ex : Exchange) (queue : String) (key : Digest)
  | queueUnbind (ex : Exchange) (queue : String) (key : Digest)
  /-- A mandatory publish that waits for the confirm. -/
  | basicPublish (ex : Exchange) (key : Digest) (envelope : BrokerEnvelope)

inductive Query where
  /-- A query through the pool. -/
  | select (s : Select)
  /-- A query in the open transaction. -/
  | txSelect (s : Select)
  /-- `acquire_global_token`, whose bucket is left out: it may answer either way. -/
  | globalToken (network : String) (cls : DeliveryClass)
  /-- The bucket of `acquire_non_global_delivery_tokens`, left out likewise. -/
  | nonGlobalTokens (network : String) (cost : Nat)
  /-- `Utc::now()` and `Instant::now()`. -/
  | clock

abbrev Ans : Query → Type
  | .select s => s.Row
  | .txSelect s => s.Row
  | .globalToken _ _ => Bool
  | .nonGlobalTokens _ _ => Bool
  | .clock => Nat

/-- What happens besides the calls: time passes, and the expired receipts are deleted
(`cleanup_expired_metadata`). -/
inductive Env where
  | tick (ms : Nat)
  | cleanup

/-- A request that has an effect `w'` if it reaches the other side. -/
def request (o : Outcome) (e : String) (w w' : World) : Option (Except String Unit × World) :=
  match o with
  | .ok => some (.ok (), w')
  | .lost => some (.error e, w')
  | _ => some (.error e, w)

/-- A commit of the view `db`, or the end of the transaction whose statements fail. -/
def commitView (t : Nat) (o : Outcome) (w : World) :
    Except String Db → Option (Except String Unit × World)
  | .ok db => request o "commit failed" w { w.dropTx t with db := db }
  | .error e => some (.error e, w)

def execStmt (o : Outcome) (w : World) : Except String Db → Option (Except String Unit × World)
  | .ok db => request o "database error" w { w with db := db }
  | .error e => some (.error e, w)

section

variable (t : Nat)

/-- A statement of the open transaction, which fails if the view does not take it. -/
def stmtInTx (s : Stmt) (o : Outcome) (w : World) (tx : Tx) : Option (Except String Unit × World) :=
  match (tx.push (w.now, s)).view w.db with
  | .ok _ =>
    if o = .ok then some (.ok (), w.setTx t (tx.push (w.now, s)))
    else some (.error "database error", w)
  | .error e => some (.error e, w)

/-- A mandatory publish: returned if no queue is bound, else routed and confirmed, nacked, or
routed with the confirm lost. -/
def publishTo (ex : Exchange) (key : Digest) (envelope : BrokerEnvelope) (o : Outcome)
    (w : World) : Option (Except String Unit × World) :=
  if w.broker.boundTo ex key = [] then
    some (.error "RabbitMQ mandatory publish was returned", w)
  else match o with
    | .ok => some (.ok (), { w with broker := w.broker.route t ex key envelope true })
    | .refused => some (.error "RabbitMQ nacked durable publish", w)
    | .failed => some (.error "broker error", w)
    | .lost => some (.error "RabbitMQ publisher confirm timed out",
        { w with broker := w.broker.route t ex key envelope false })

def perform (c : Cmd) (o : Outcome) (w : World) : Option (Except String Unit × World) :=
  match c with
  | .begin n l e =>
    if o ≠ .ok then some (.error "database error", w)
    else if w.Conflicts t (fenceKey n l) e then none
    else some (.ok (), w.setTx t ⟨fenceKey n l, e, []⟩)
  | .stmt s =>
    match w.txs.get? t with
    | none => some (.error "no open transaction", w)
    | some tx => stmtInTx t s o w tx
  | .exec s => execStmt o w (s.run w.now w.db)
  | .commit =>
    match w.txs.get? t with
    | none => some (.error "no open transaction", w)
    | some tx => commitView t o w (tx.view w.db)
  | .queueDeclare q =>
    request o "broker error" w { w with broker := w.broker.queueDeclare q }
  | .queueBind ex q key =>
    if q ∈ w.broker.queues then
      request o "broker error" w { w with broker := w.broker.queueBind ex q key }
    else some (.error "no such queue", w)
  | .queueUnbind ex q key =>
    request o "broker error" w { w with broker := w.broker.queueUnbind ex q key }
  | .basicPublish ex key envelope => publishTo t ex key envelope o w

def reply (w : World) (refused : Bool) : (q : Query) → Except String (Ans q)
  | .select s => .ok (s.run w.now w.db)
  | .txSelect s =>
    match w.txs.get? t with
    | none => .error "no open transaction"
    | some tx => (tx.view w.db).map fun db => s.run w.now db
  | .globalToken _ _ => .ok !refused
  | .nonGlobalTokens _ _ => .ok !refused
  | .clock => .ok w.now

def answer (q : Query) (o : Outcome) (w : World) : Option (Except String (Ans q) × World) :=
  match o with
  | .ok => some (reply t w false q, w)
  | .refused => some (reply t w true q, w)
  | _ => some (.error "database error", w)

end

def Env.run : Env → World → World
  | .tick ms, w => { w with now := w.now + ms }
  | .cleanup, w => { w with
      db := { w.db with receipts := w.db.receipts.delete fun _ r => r.expiresAt ≤ w.now } }

def gateway : Machine Cmd Query Ans World Env where
  clock := World.now
  perform := perform
  answer := answer
  finish := fun t w => w.dropTx t
  env := Env.run

end WattGateway.Message
