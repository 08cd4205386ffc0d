import WattGateway.Gateway.Peers
import WattGateway.Gateway.Pins
import WattGateway.Lib.Keyset

/-!
# Announcing every snapshot to a neighbour

The task of `run_gateway_p2p_sync`: it runs `run_periodic_sync_work`, which announces snapshots page
by page from `snapshot_cursor` on, and then waits for a command, the network or a deadline. A
neighbour that joins moves both deadlines to now. A phase of the task is a place where it waits.

A full reconcile that starts after a join announces whatever stays visible (`neighbor_hears_all`),
but one that is under way goes on behind the pages it has announced (`neighbor_misses_first_page`).
-/

namespace WattGateway.Gateway.Reconcile

open List Table

variable {X : Deployment} {nodeId : String} {fullReconcile : Bool}

/-! ## The stored snapshots -/

/-- The order of the database on text: a collation, with the empty text first. -/
structure Collation where
  le : String → String → Bool
  total : ∀ a b, le a b = true ∨ le b a = true
  trans : ∀ a b c, le a b = true → le b c = true → le a c = true
  antisymm : ∀ a b, le a b = true → le b a = true → a = b
  empty_le : ∀ a, le "" a = true

def Collation.lt (C : Collation) (a b : String) : Bool := !C.le b a

/-- The collation `C`: by code points. -/
def Collation.codePoints : Collation where
  le a b := a ≤ b
  total a b := by simpa using String.le_total a b
  trans a b c hab hbc := by
    simp only [decide_eq_true_eq] at hab hbc ⊢
    exact String.le_trans hab hbc
  antisymm a b hab hba := by
    simp only [decide_eq_true_eq] at hab hba
    exact String.le_antisymm hab hba
  empty_le a := by
    rw [decide_eq_true_eq]
    intro h
    exact not_lt_nil _ (String.lt_iff.1 h)

lemma Collation.not_le_empty (C : Collation) {a : String} (h : a ≠ "") : C.le a "" = false := by
  rw [← Bool.not_eq_true]
  exact fun hle => h (C.antisymm _ _ hle (C.empty_le a))

abbrev Snapshot := String × SnapshotRow

variable {snapshots : List Snapshot}

/-- The database. No snapshot is stored under an empty node id (`snapshots_named`). -/
structure Store where
  db : Db
  named : ∀ row ∈ db.nodeSnapshots.rows, row.1 ≠ ""

def Store.Visible (store : Store) (nodeId : String) : Prop :=
  (store.db.nodeSnapshots.get? nodeId).any fun row => store.db.visible row.sourceId

instance (store : Store) (nodeId : String) : Decidable (store.Visible nodeId) :=
  inferInstanceAs (Decidable (Option.any _ _ = true))

lemma Store.Visible.ne_empty {store : Store} (h : store.Visible nodeId) : nodeId ≠ "" := by
  obtain ⟨_, hr, -⟩ := (Option.any_eq_true _ _).1 h
  exact store.named _ (get?_eq_some.1 hr)

lemma nodeId_of_verifySignedSnapshot {C : Crypto} {snapshot : SignedPublicClientSnapshot}
    {expected : Option String} (h : verifySignedSnapshot C snapshot expected = .ok ()) :
    snapshot.payload.nodeId ≠ "" := by
  unfold verifySignedSnapshot at h
  obtain ⟨_, h⟩ := rest_ok h
  obtain ⟨_, hb, -⟩ := bind_eq_ok.1 h
  rw [failIf_eq_ok] at hb
  intro he
  exact hb (by rw [he]; rfl)

section

variable {instances : Nat → Nat} {cond : GatewaySys → Action Env → Prop} {sources : Sources}
  {calls : Nat → Call} {s : GatewaySys}

lemma snapshots_named (hr : Sys.Reaches (machine instances) cond (gatewayStart X sources calls) s) :
    ∀ row ∈ s.world.db.nodeSnapshots.rows, row.1 ≠ "" := by
  rintro ⟨nodeId, row⟩ ho
  have hh : s.world.Holds (.row (.snapshot nodeId row)) := .inl (get?_eq_some.2 ho)
  obtain ⟨_, _, _, -, hd, hk⟩ := derived_of_holds hr hh
  obtain ⟨sub, _, ha, hm⟩ :=
    madeOf_of_derives hd hk (show Output.StoredFor nodeId _ from rfl)
  cases sub with
  | snapshot =>
    rw [hm.1]
    cases ha <;> exact nodeId_of_verifySignedSnapshot ‹_›
  | event => cases hm

/-- The database of a reachable state. -/
def Store.reached
    (hr : Sys.Reaches (machine instances) cond (gatewayStart X sources calls) s) : Store :=
  ⟨s.world.db, snapshots_named hr⟩

end

section Listing

variable (C : Collation) (db : Db)

def byNodeId (a b : Snapshot) : Prop := C.le a.1 b.1 = true

def byIngestedAt (a b : Snapshot) : Prop :=
  a.2.ingestedAt < b.2.ingestedAt ∨ a.2.ingestedAt = b.2.ingestedAt ∧ C.le a.1 b.1 = true

instance : DecidableRel (byNodeId C) := fun a b => inferInstanceAs (Decidable (C.le a.1 b.1 = true))

instance : DecidableRel (byIngestedAt C) := fun _ _ => inferInstanceAs (Decidable (_ ∨ _))

instance : Std.Total (byNodeId C) := ⟨fun a b => C.total a.1 b.1⟩

instance : IsTrans Snapshot (byNodeId C) := ⟨fun a b c => C.trans a.1 b.1 c.1⟩

def listVisibleSnapshotsAfterNodeId (nodeIdAfter : String) (limit : Nat) : List Snapshot :=
  Keyset.page (byNodeId C)
    (fun row => C.lt nodeIdAfter row.1 && db.visible row.2.sourceId) (max limit 1)
    db.nodeSnapshots.rows

def listVisibleSnapshotsUpdatedAfter (ingestedAfter : Nat) (nodeIdAfter : Option String)
    (limit : Nat) : List Snapshot :=
  Keyset.page (byIngestedAt C)
    (fun row => (ingestedAfter < row.2.ingestedAt ||
      row.2.ingestedAt == ingestedAfter && C.lt (nodeIdAfter.getD "") row.1) &&
        db.visible row.2.sourceId) (max limit 1)
    db.nodeSnapshots.rows

end Listing

/-! ## The task -/

inductive SnapshotReannounceCursor where
  | full (startedAt : Nat) (nodeId : String)
  | incremental (ingestedAt : Nat) (nodeId : String)
  deriving DecidableEq

def snapshotReannounceInterval : Nat := 30000

def snapshotFullReconcileInterval : Nat := 300000

def snapshotReannounceBatchInterval : Nat := 100

def snapshotReannounceBatchSize : Nat := 256

def p2pOutboxPollInterval : Nat := 1000

/-- The variables of `run_gateway_p2p_sync`, with the deadlines in milliseconds. -/
structure Task where
  snapshotCursor : Option SnapshotReannounceCursor
  nextSnapshotReannounce : Nat
  nextFullReconcile : Nat
  nextOutboxPoll : Nat
  deriving DecidableEq

def scheduleFullReconcile (now : Nat) (task : Task) : Task :=
  { task with
    nextSnapshotReannounce := min task.nextSnapshotReannounce now
    nextFullReconcile := min task.nextFullReconcile now }

def nextSnapshotReannounceDeadline (now : Nat) (hasMore : Bool) : Nat :=
  now + if hasMore then snapshotReannounceBatchInterval else snapshotReannounceInterval

def nextFullReconcileCursor (startedAt : Nat) (lastNodeId : Option String) (hasMore : Bool) :
    SnapshotReannounceCursor :=
  if hasMore then .full startedAt (lastNodeId.getD "") else .incremental startedAt ""

def startCursor (cursor : Option SnapshotReannounceCursor) (fullReconcile : Bool) (utcNow : Nat) :
    Option SnapshotReannounceCursor :=
  match cursor with
  | some (.full startedAt nodeId) => some (.full startedAt nodeId)
  | cursor => if fullReconcile then some (.full utcNow "") else cursor

namespace SnapshotReannounceCursor

def list (C : Collation) (db : Db) : SnapshotReannounceCursor → List Snapshot
  | .full _ nodeId => listVisibleSnapshotsAfterNodeId C db nodeId snapshotReannounceBatchSize
  | .incremental ingestedAt nodeId =>
    listVisibleSnapshotsUpdatedAfter C db ingestedAt (some nodeId) snapshotReannounceBatchSize

def next (snapshots : List Snapshot) (hasMore : Bool) :
    SnapshotReannounceCursor → SnapshotReannounceCursor
  | .full startedAt _ =>
    nextFullReconcileCursor startedAt (snapshots.getLast?.map Prod.fst) hasMore
  | .incremental ingestedAt nodeId =>
    match snapshots.getLast? with
    | some last => .incremental last.2.ingestedAt last.1
    | none => .incremental ingestedAt nodeId

end SnapshotReannounceCursor

/-- The messages that are sent, and whether all are. A failure comes before the message of that
number; exporting the contact material fails before the first. -/
def publishSnapshotAnnouncements (X : Deployment) (contact : ContactMaterial)
    (snapshots : List Snapshot) (failure : Option Nat) : List GatewayP2pSyncMessage × Bool :=
  let messages := snapshots.map fun row => announcement X contact row.1 row.2
  match failure with
  | some sent => if sent < messages.length then (messages.take sent, false) else (messages, true)
  | none => (messages, true)

inductive Phase where
  /-- At the start of the loop. -/
  | loop
  /-- For `drain_p2p_outbox`, in work that began at this time. -/
  | draining (now : Nat)
  /-- For the page of the cursor. -/
  | listing (fullReconcile : Bool)
  /-- With a page it is about to publish. -/
  | publishing (fullReconcile : Bool) (snapshots : List Snapshot)
  /-- In the `select!`. -/
  | waiting

structure State where
  task : Task
  phase : Phase
  store : Store
  now : Nat
  /-- What the task has sent to its neighbours, the newest first. -/
  published : List GatewayP2pSyncMessage

def State.start (store : Store) (now : Nat) : State :=
  ⟨⟨none, now, now, now⟩, .loop, store, now, []⟩

inductive Action where
  | tick (d : Nat)
  | write (store : Store)
  /-- `run_periodic_sync_work` begins. -/
  | work (utcNow : Nat)
  /-- Draining the outbox ends, after sending some of it. -/
  | drained (sent : List GatewayP2pSyncMessage) (ok : Bool) (utcNow : Nat)
  | listed (ok : Bool)
  | publish (failure : Option Nat)
  | neighborUp
  /-- Any other arm of the `select!`; a command drains the outbox. -/
  | other (sent : List GatewayP2pSyncMessage)

namespace State

variable (X : Deployment) (C : Collation) (contact : Nat → ContactMaterial)

section

variable (s : State)

def reannounced (fullReconcile hasMore : Bool) : State :=
  { s with
    phase := .waiting
    task :=
      { s.task with
        nextFullReconcile :=
          if fullReconcile && !hasMore then s.now + snapshotFullReconcileInterval
          else s.task.nextFullReconcile
        nextSnapshotReannounce := nextSnapshotReannounceDeadline s.now hasMore } }

def failed : State :=
  { s with
    phase := .waiting
    task := { s.task with nextSnapshotReannounce := s.now + 5000 } }

/-- The work that began at `now`, once the outbox is done with. -/
def reannounce (now utcNow : Nat) : State :=
  if now < s.task.nextSnapshotReannounce then { s with phase := .waiting }
  else
    let fullReconcile : Bool := s.task.nextFullReconcile ≤ now
    let cursor := startCursor s.task.snapshotCursor fullReconcile utcNow
    match cursor with
    | none => s.reannounced fullReconcile true
    | some _ =>
      { s with
        task := { s.task with snapshotCursor := cursor }
        phase := .listing fullReconcile }

def runPeriodicSyncWork (utcNow : Nat) : State :=
  if s.task.nextOutboxPoll ≤ s.now then
    { s with
      task := { s.task with nextOutboxPoll := s.now + p2pOutboxPollInterval }
      phase := .draining s.now }
  else s.reannounce s.now utcNow

def publishPage (fullReconcile : Bool) (snapshots : List Snapshot) (failure : Option Nat) : State :=
  let sent := publishSnapshotAnnouncements X (contact s.now) snapshots failure
  let s' := { s with published := sent.1.reverse ++ s.published }
  let hasMore : Bool := snapshotReannounceBatchSize ≤ snapshots.length
  if sent.2 then
    { s' with
      task := { s'.task with
        snapshotCursor :=
          s'.task.snapshotCursor.map (SnapshotReannounceCursor.next snapshots hasMore) }
    }.reannounced fullReconcile hasMore
  else s'.failed

def step : Action → State
  | .tick d => { s with now := s.now + d }
  | .write store => { s with store := store }
  | .work utcNow =>
    match s.phase with
    | .loop => s.runPeriodicSyncWork utcNow
    | _ => s
  | .drained sent ok utcNow =>
    match s.phase with
    | .draining now =>
      let s' := { s with published := sent ++ s.published }
      if ok then s'.reannounce now utcNow else { s' with phase := .waiting }
    | _ => s
  | .listed ok =>
    match s.phase, s.task.snapshotCursor with
    | .listing fullReconcile, some cursor =>
      if ok then { s with phase := .publishing fullReconcile (cursor.list C s.store.db) }
      else s.failed
    | _, _ => s
  | .publish failure =>
    match s.phase with
    | .publishing fullReconcile snapshots => s.publishPage X contact fullReconcile snapshots failure
    | _ => s
  | .neighborUp =>
    match s.phase with
    | .waiting => { s with task := scheduleFullReconcile s.now s.task, phase := .loop }
    | _ => s
  | .other sent =>
    match s.phase with
    | .waiting => { s with published := sent ++ s.published, phase := .loop }
    | _ => s

def run (actions : List Action) : State := actions.foldl (step X C contact) s

end

end State

/-! ## What a step does -/

def Phase.Calm : Phase → Prop
  | .listing _ => False
  | .publishing _ _ => False
  | _ => True

/-- The four things that a step can do to the cursor, the phase, the log and the time of the next
full reconcile. -/
inductive Does (X : Deployment) (C : Collation) (contact : ContactMaterial) (s s' : State) : Prop
  /-- It leaves the cursor, also when publishing a page fails. -/
  | rests (hcursor : s'.task.snapshotCursor = s.task.snapshotCursor)
      (hphase : s'.phase = s.phase ∨ s'.phase.Calm)
      (hnext : s'.task.nextFullReconcile ≤ s.task.nextFullReconcile)
      (hsent : s.published <:+ s'.published)
  | begins (fullReconcile : Bool) (utcNow : Nat)
      (hcursor : s'.task.snapshotCursor = startCursor s.task.snapshotCursor fullReconcile utcNow)
      (hphase : s'.phase = .listing fullReconcile)
      (hnext : s'.task.nextFullReconcile = s.task.nextFullReconcile)
      (hsent : s.published <:+ s'.published)
  | lists (fullReconcile : Bool) (cursor : SnapshotReannounceCursor)
      (hcursor : s.task.snapshotCursor = some cursor) (hphase : s.phase = .listing fullReconcile)
      (hstep : s' = { s with phase := .publishing fullReconcile (cursor.list C s.store.db) })
  | publishes (fullReconcile : Bool) (snapshots : List Snapshot)
      (hphase : s.phase = .publishing fullReconcile snapshots) (hphase' : s'.phase = .waiting)
      (hcursor : s'.task.snapshotCursor = s.task.snapshotCursor.map
        (.next snapshots (snapshotReannounceBatchSize ≤ snapshots.length)))
      (hnext : s.task.nextFullReconcile < s'.task.nextFullReconcile →
        fullReconcile = true ∧ snapshots.length < snapshotReannounceBatchSize)
      (hsent : s'.published =
        (snapshots.map fun row => announcement X contact row.1 row.2).reverse ++ s.published)

section

variable (X : Deployment) (C : Collation) (contact : Nat → ContactMaterial) (s : State)

lemma does_reannounce (sent : List GatewayP2pSyncMessage) (now utcNow : Nat) :
    Does X C (contact s.now) s
      ({ s with published := sent ++ s.published }.reannounce now utcNow) := by
  have hs : s.published <:+ sent ++ s.published := suffix_append _ _
  unfold State.reannounce
  dsimp only
  split
  · exact .rests rfl (.inr trivial) (Nat.le_refl _) hs
  · split
    · refine .rests rfl (.inr trivial) ?_ hs
      simp [State.reannounced]
    · exact .begins _ utcNow rfl rfl rfl hs

lemma does_publishPage (hp : s.phase = .publishing fullReconcile snapshots) (failure : Option Nat) :
    Does X C (contact s.now) s (s.publishPage X contact fullReconcile snapshots failure) := by
  have ha : publishSnapshotAnnouncements X (contact s.now) snapshots failure =
        (snapshots.map (fun row => announcement X (contact s.now) row.1 row.2), true) ∨
      (publishSnapshotAnnouncements X (contact s.now) snapshots failure).2 = false := by
    unfold publishSnapshotAnnouncements
    split
    · dsimp only
      split
      · exact .inr rfl
      · exact .inl rfl
    · exact .inl rfl
  unfold State.publishPage
  dsimp only
  rcases ha with ha | hf
  · rw [ha]
    refine .publishes fullReconcile snapshots hp rfl rfl (fun hl => ?_) rfl
    simp only [State.reannounced, if_true] at hl
    split at hl
    · rename_i hd
      simpa using hd
    · exact absurd hl (Nat.lt_irrefl _)
  · rw [hf, if_neg Bool.false_ne_true]
    exact .rests rfl (.inr trivial) (Nat.le_refl _) (suffix_append _ _)

lemma does_step (a : Action) : Does X C (contact s.now) s (s.step X C contact a) := by
  have hi : Does X C (contact s.now) s s :=
    .rests rfl (.inl rfl) (Nat.le_refl _) (suffix_refl _)
  cases a with
  | tick | write => exact .rests rfl (.inl rfl) (Nat.le_refl _) (suffix_refl _)
  | work utcNow =>
    rw [State.step]
    split
    · unfold State.runPeriodicSyncWork
      split
      · exact .rests rfl (.inr trivial) (Nat.le_refl _) (suffix_refl _)
      · exact does_reannounce X C contact s [] s.now utcNow
    · exact hi
  | drained sent _ utcNow =>
    rw [State.step]
    split
    · dsimp only
      split
      · exact does_reannounce X C contact s sent _ utcNow
      · exact .rests rfl (.inr trivial) (Nat.le_refl _) (suffix_append _ _)
    · exact hi
  | listed ok =>
    rw [State.step]
    split
    · rename_i fullReconcile cursor hp hc
      split
      · exact .lists fullReconcile cursor hc hp rfl
      · exact .rests rfl (.inr trivial) (Nat.le_refl _) (suffix_refl _)
    · exact hi
  | publish failure =>
    rw [State.step]
    split
    · rename_i fullReconcile snapshots hp
      exact does_publishPage X C contact s hp failure
    · exact hi
  | neighborUp =>
    rw [State.step]
    split
    · exact .rests rfl (.inr trivial) (Nat.min_le_left _ _) (suffix_refl _)
    · exact hi
  | other =>
    rw [State.step]
    split
    · exact .rests rfl (.inr trivial) (Nat.le_refl _) (suffix_append _ _)
    · exact hi

end

/-! ## A node ahead of the scan -/

def Announces (nodeId : String) : GatewayP2pSyncMessage → Prop
  | .snapshotAnnounceV1 _ nodeId' _ _ _ => nodeId' = nodeId
  | .eventV1 _ _ => False

instance (nodeId : String) (message : GatewayP2pSyncMessage) :
    Decidable (Announces nodeId message) :=
  match message with
  | .snapshotAnnounceV1 _ nodeId' _ _ _ => inferInstanceAs (Decidable (nodeId' = nodeId))
  | .eventV1 _ _ => isFalse id

/-- The node has been announced since the log was `log`. -/
def Heard (log : List GatewayP2pSyncMessage) (nodeId : String) (s : State) : Prop :=
  ∃ sent, s.published = sent ++ log ∧ ∃ message ∈ sent, Announces nodeId message

/-- The cursor of a full reconcile stands before the node, and so does the page at hand, unless the
node is on it. -/
structure Ahead (C : Collation) (nodeId : String) (s : State) : Prop where
  cursor : ∀ startedAt last, s.task.snapshotCursor = some (.full startedAt last) →
    C.le nodeId last = false
  page : ∀ fullReconcile snapshots startedAt last, s.phase = .publishing fullReconcile snapshots →
    s.task.snapshotCursor = some (.full startedAt last) → (∃ row, (nodeId, row) ∈ snapshots) ∨
      snapshots.length = snapshotReannounceBatchSize ∧ ∀ row ∈ snapshots, C.le row.1 nodeId = true

/-- Work that set out to reconcile in full has the cursor of a full reconcile. -/
def Scanning (s : State) : Prop :=
  ((∃ snapshots, s.phase = .publishing true snapshots) ∨ s.phase = .listing true) →
    ∃ startedAt last, s.task.snapshotCursor = some (.full startedAt last)

section

variable {C : Collation} {contact : ContactMaterial} {s s' : State}
  {log : List GatewayP2pSyncMessage}

lemma startCursor_full (cursor : Option SnapshotReannounceCursor) (utcNow : Nat) :
    ∃ startedAt last, startCursor cursor true utcNow = some (.full startedAt last) := by
  unfold startCursor
  split
  · exact ⟨_, _, rfl⟩
  · exact ⟨utcNow, "", rfl⟩

variable {startedAt : Nat} {last : String}

lemma of_startCursor {cursor : Option SnapshotReannounceCursor}
    {utcNow : Nat} (h : startCursor cursor fullReconcile utcNow = some (.full startedAt last)) :
    cursor = some (.full startedAt last) ∨ last = "" := by
  unfold startCursor at h
  split at h
  · exact .inl h
  · split at h
    · cases h
      exact .inr rfl
    · exact .inl h

lemma of_next {cursor : SnapshotReannounceCursor} {ha : Bool}
    (h : cursor.next snapshots ha = .full startedAt last) :
    last = (snapshots.getLast?.map Prod.fst).getD "" ∧
      ∃ before, cursor = .full startedAt before := by
  unfold SnapshotReannounceCursor.next nextFullReconcileCursor at h
  split at h
  · rename_i startedAt' before
    split at h
    · cases h
      exact ⟨rfl, before, rfl⟩
    · cases h
  · split at h <;> cases h

/-- The page of a cursor that stands before a visible node holds it, or is full of others. -/
lemma mem_list {store : Store}
    (hp : snapshots = (SnapshotReannounceCursor.full startedAt last).list C store.db)
    (hv : store.Visible nodeId) (hl : C.le nodeId last = false) :
    (∃ row, (nodeId, row) ∈ snapshots) ∨ snapshots.length = snapshotReannounceBatchSize ∧
        ∀ row ∈ snapshots, C.le row.1 nodeId = true := by
  obtain ⟨row, hr, hs⟩ := (Option.any_eq_true _ _).1 hv
  have ha : (C.lt last nodeId && store.db.visible row.sourceId) = true := by
    rw [Collation.lt, hl, hs]
    rfl
  subst hp
  exact (Keyset.mem_page_or_behind (get?_eq_some.1 hr) ha).imp_left
    fun hin => ⟨row, hin⟩

lemma Scanning.does (h : Scanning s) (hdo : Does X C contact s s') : Scanning s' := by
  intro hs
  cases hdo with
  | rests hc hp =>
    rw [hc]
    rcases hp with hp | ha
    · rw [hp] at hs
      exact h hs
    · rcases hs with ⟨snapshots, hs⟩ | hs <;> rw [hs] at ha <;> cases ha
  | begins fullReconcile _ hc hp =>
    rw [hc]
    have hf : fullReconcile = true := by
      rw [hp] at hs
      rcases hs with ⟨snapshots, hs⟩ | hs
      · cases hs
      · exact Phase.listing.inj hs
    rw [hf]
    exact startCursor_full _ _
  | lists _ _ _ hp ht =>
    rw [ht] at hs ⊢
    refine h (.inr ?_)
    rcases hs with ⟨snapshots, hs⟩ | hs
    · rw [hp, (Phase.publishing.inj hs).1]
    · cases hs
  | publishes _ _ _ hp' =>
    rw [hp'] at hs
    rcases hs with ⟨_, hs⟩ | hs <;> cases hs

lemma Heard.suffix (h : Heard log nodeId s) (hs : s.published <:+ s'.published) :
    Heard log nodeId s' := by
  obtain ⟨sent, hl, message, hm, ha⟩ := h
  obtain ⟨later, hla⟩ := hs
  refine ⟨later ++ sent, ?_, message, mem_append_right _ hm, ha⟩
  rw [← hla, hl, append_assoc]

lemma Does.published_suffix (hd : Does X C contact s s') : s.published <:+ s'.published := by
  cases hd with
  | rests _ _ _ hs => exact hs
  | begins _ _ _ _ _ hs => exact hs
  | lists _ _ _ _ ht => exact ht ▸ suffix_refl _
  | publishes _ _ _ _ _ _ hs => exact hs ▸ suffix_append _ _

lemma heard_of_page {row : SnapshotRow} (hl : log <:+ s.published) (hs : s'.published =
      (snapshots.map fun row => announcement X contact row.1 row.2).reverse ++ s.published)
    (hr : (nodeId, row) ∈ snapshots) : Heard log nodeId s' := by
  have hm : announcement X contact nodeId row ∈
      (snapshots.map fun row => announcement X contact row.1 row.2).reverse :=
    mem_reverse.2 (mem_map.2 ⟨(nodeId, row), hr, rfl⟩)
  obtain ⟨earlier, he⟩ := hl
  refine ⟨_, ?_, announcement X contact nodeId row, mem_append_left earlier hm, rfl⟩
  rw [hs, ← he, append_assoc]

/-- A node ahead of the scan stays there, until it is announced. -/
lemma Ahead.does (h : Ahead C nodeId s) (hdo : Does X C contact s s')
    (hlog : log <:+ s.published) (hvi : s.store.Visible nodeId) :
    Heard log nodeId s' ∨ Ahead C nodeId s' := by
  cases hdo with
  | rests hc hh =>
    refine .inr ⟨fun startedAt last hf => h.cursor startedAt last (hc ▸ hf), ?_⟩
    intro fullReconcile snapshots startedAt last hp hf
    rcases hh with hh | ha
    · exact h.page fullReconcile snapshots startedAt last (hh ▸ hp) (hc ▸ hf)
    · rw [hp] at ha
      cases ha
  | begins _ _ hc hh =>
    refine .inr ⟨fun startedAt last hf => ?_, fun _ _ _ _ hp => ?_⟩
    · rcases of_startCursor (hc ▸ hf) with hsa | rfl
      · exact h.cursor startedAt last hsa
      · exact C.not_le_empty hvi.ne_empty
    · rw [hh] at hp
      cases hp
  | lists _ cursor hc _ ht =>
    subst ht
    refine .inr ⟨h.cursor, fun _ _ startedAt last hp hf => ?_⟩
    obtain rfl : cursor = .full startedAt last := Option.some.inj (hc.symm.trans hf)
    exact mem_list (Phase.publishing.inj hp).2.symm hvi (h.cursor startedAt last hf)
  | publishes fullReconcile snapshots hh hh' hc _ hse =>
    by_cases hin : ∃ row, (nodeId, row) ∈ snapshots
    · obtain ⟨row, hr⟩ := hin
      exact .inl (heard_of_page hlog hse hr)
    · refine .inr ⟨fun startedAt last hf => ?_, fun _ _ _ _ hp => ?_⟩
      · -- the cursor moves to the last row of a full page, which is not the node
        rw [hc] at hf
        obtain ⟨_, hs, hn⟩ := Option.map_eq_some_iff.1 hf
        obtain ⟨hl, _, rfl⟩ := of_next hn
        obtain ⟨he, hle⟩ := (h.page _ _ _ _ hh hs).resolve_left hin
        have hne : snapshots ≠ [] := by
          rintro rfl
          cases he
        rw [getLast?_eq_some_getLast hne] at hl
        have hm := getLast_mem hne
        rw [hl, ← Bool.not_eq_true]
        intro hb
        refine hin ⟨(snapshots.getLast hne).2, ?_⟩
        rw [C.antisymm _ _ hb (hle _ hm)]
        exact hm
      · rw [hh'] at hp
        cases hp

end

/-! ## Whole runs -/

section

variable {C : Collation} {contact : Nat → ContactMaterial}

lemma scanning_start (store : Store) (now : Nat) : Scanning (State.start store now) := by
  rintro (⟨_, h⟩ | h) <;> cases h

lemma Scanning.run {s : State} (h : Scanning s) (actions : List Action) :
    Scanning (s.run X C contact actions) := by
  induction actions using List.reverseRecOn with
  | nil => exact h
  | append_singleton _ a ih =>
    rw [State.run, foldl_append]
    exact ih.does (does_step X C contact _ a)

lemma heard_or_ahead {joined : State} {since : List Action} (h : Ahead C nodeId joined)
    (hv : ∀ k ≤ since.length, (joined.run X C contact (since.take k)).store.Visible nodeId) :
    joined.published <:+ (joined.run X C contact since).published ∧
      (Heard joined.published nodeId (joined.run X C contact since) ∨
        Ahead C nodeId (joined.run X C contact since)) := by
  induction since using List.reverseRecOn with
  | nil => exact ⟨suffix_refl _, .inr h⟩
  | append_singleton since a ih =>
    have hb : ∀ k ≤ since.length, (joined.run X C contact (since.take k)).store.Visible nodeId := by
      intro k hk
      have ht := hv k (by rw [length_append]; omega)
      rwa [take_append_of_le_length hk] at ht
    obtain ⟨hl, hi⟩ := ih hb
    have hd := does_step X C contact (joined.run X C contact since) a
    rw [State.run, foldl_append]
    refine ⟨hl.trans hd.published_suffix, ?_⟩
    rcases hi with hh | ha
    · exact .inl (hh.suffix hd.published_suffix)
    · have hla := hb since.length (Nat.le_refl _)
      rw [take_length] at hla
      exact ha.does hd hl hla

end

/-- No full reconcile has announced a page and is still under way. -/
def Task.Unscanned (task : Task) : Prop :=
  ∀ startedAt nodeId, task.snapshotCursor = some (.full startedAt nodeId) → nodeId = ""

/-- When the next full reconcile is put off, every node that has been visible since a neighbour came
up has been announced since. -/
theorem neighbor_hears_all (X : Deployment) (C : Collation) (contact : Nat → ContactMaterial)
    (store : Store) (now : Nat) (before since : List Action) (a : Action) (s joined : State)
    (hs : s = (State.start store now).run X C contact before) (hwaiting : s.phase = .waiting)
    (hjoined : joined = s.step X C contact .neighborUp) (hunscanned : s.task.Unscanned)
    (hmoved : (joined.run X C contact since).task.nextFullReconcile <
      ((joined.run X C contact since).step X C contact a).task.nextFullReconcile)
    (nodeId : String)
    (hvisible : ∀ k ≤ since.length, (joined.run X C contact (since.take k)).store.Visible nodeId) :
    Heard joined.published nodeId ((joined.run X C contact since).step X C contact a) := by
  have hj : joined = { s with task := scheduleFullReconcile s.now s.task, phase := .loop } := by
    rw [hjoined, State.step, hwaiting]
  have ha : Ahead C nodeId joined := by
    have hno := (hvisible 0 (Nat.zero_le _)).ne_empty
    subst hj
    refine ⟨fun startedAt last hf => ?_, fun _ _ _ _ hpa => by cases hpa⟩
    rw [hunscanned startedAt last hf]
    exact C.not_le_empty hno
  have hc : Scanning (joined.run X C contact since) := by
    rw [hjoined, hs]
    exact (((scanning_start store now).run before).does (does_step X C contact _ _)).run since
  have hd := does_step X C contact (joined.run X C contact since) a
  obtain ⟨ho, hh | ha⟩ := heard_or_ahead ha hvisible
  · exact hh.suffix hd.published_suffix
  -- only the last page of a full reconcile puts off the next one, and it cannot leave the node out
  · cases hd with
    | rests _ _ hne _ => exact absurd hmoved (Nat.not_lt.2 hne)
    | begins _ _ _ _ hne _ => exact absurd hmoved (hne ▸ Nat.lt_irrefl _)
    | lists _ _ _ _ ht =>
      rw [ht] at hmoved
      exact absurd hmoved (Nat.lt_irrefl _)
    | publishes fullReconcile snapshots hp _ _ hne he =>
      obtain ⟨rfl, hsh⟩ := hne hmoved
      obtain ⟨startedAt, last, hf⟩ := hc (.inl ⟨snapshots, hp⟩)
      rcases ha.page true snapshots startedAt last hp hf with ⟨_, hr⟩ | ⟨hl, -⟩
      · exact heard_of_page ho he hr
      · exact absurd hl (Nat.ne_of_lt hsh)

/-! ## A neighbour between two pages -/

namespace Pages

def row : SnapshotRow := ⟨none, "k1", "k1", 1, 0, (smallSnapshot "k1" "s1").payload, "s1"⟩

def store (names : List String) (hnodup : names.Nodup) (hnamed : ∀ name ∈ names, name ≠ "") :
    Store where
  db := { Db.start .empty with
    nodeSnapshots :=
      { rows := names.map fun name => (name, row)
        nodup := by
          rw [map_map]
          exact (map_id names).symm ▸ hnodup } }
  named := by
    intro row hrow
    obtain ⟨name, hname, rfl⟩ := mem_map.1 hrow
    exact hnamed name hname

def contact (_ : Nat) : ContactMaterial := ⟨irohDirect, "gateway", irohDirect, none, some "gateway"⟩

abbrev run (s : State) (actions : List Action) : State :=
  s.run smallDeployment .codePoints contact actions

def firstPage : List Action := [.work 0, .drained [] true 0, .listed true, .publish none]

def pushes (t : Nat) : Call :=
  let first := smallSnapshot "k1" "s1"
  .ingestSnapshot { first with payload := { first.payload with nodeId := if t = 0 then "a" else "b" } }

def pushed : Store :=
  .reached (Sys.reaches_runActions (m := machine fun _ => 0)
    (replicate 20 (.run 0 .ok) ++ replicate 20 (.run 1 .ok)) (gatewayStart smallDeployment .empty pushes))

def two : State := run (.start pushed 0) firstPage

set_option maxRecDepth 100000

theorem neighbor_hears_all_again :
    two.task.nextFullReconcile = 300000 ∧ (run two [.neighborUp]).task.nextFullReconcile = 0 ∧
      ∀ nodeId ∈ ["a", "b"], Heard (run two [.neighborUp]).published nodeId
        (run two [.neighborUp, .work 1, .listed true, .publish none]) := by
  refine ⟨by decide, by decide, fun nodeId hn => ?_⟩
  refine neighbor_hears_all smallDeployment .codePoints contact
    pushed 0 firstPage [.work 1, .listed true] (.publish none) two
    (run two [.neighborUp]) rfl rfl rfl ?_ (by decide) nodeId ?_
  · intro _ _ hf
    have hd : two.task.snapshotCursor = some (.incremental 0 "") := by decide
    rw [hd] at hf
    cases hf
  · revert nodeId
    decide

def name (i : Nat) : String := .ofList [Char.ofNat (65 + i / 20), Char.ofNat (65 + i % 20)]

def names : List String := (List.range 257).map name

lemma names_nodup : names.Nodup := by
  let lt (a b : String) : Prop := a < b
  have ht : Trans lt lt lt := ⟨String.lt_trans⟩
  have hs : names.Pairwise lt := List.IsChain.pairwise (by decide)
  exact hs.imp fun hlt => fun heq => String.lt_irrefl _ (heq ▸ hlt)

def under : State :=
  run (.start (store names names_nodup (by decide)) 0) firstPage

theorem neighbor_misses_first_page :
    under.phase = .waiting ∧ under.task.snapshotCursor = some (.full 0 (name 255)) ∧
      (∀ k ≤ 2, (run (run under [.neighborUp])
        ([Action.work 1, .listed true].take k)).store.Visible (name 0)) ∧
      (run under [.neighborUp, .work 1, .listed true]).task.nextFullReconcile <
        (run under [.neighborUp, .work 1, .listed true, .publish none]).task.nextFullReconcile ∧
      ¬ Heard (run under [.neighborUp]).published (name 0)
        (run under [.neighborUp, .work 1, .listed true, .publish none]) := by
  -- the node is announced once before the neighbour comes up, and never again
  have hf : under.task.snapshotCursor = some (.full 0 (name 255)) ∧
      (∀ k ≤ 2, (run (run under [.neighborUp])
        ([Action.work 1, .listed true].take k)).store.Visible (name 0)) ∧
      (run under [.neighborUp, .work 1, .listed true]).task.nextFullReconcile <
        (run under [.neighborUp, .work 1, .listed true, .publish none]).task.nextFullReconcile ∧
      (run under [.neighborUp]).published.countP (Announces (name 0)) = 1 ∧
      (run under [.neighborUp, .work 1, .listed true, .publish none]).published.countP
        (Announces (name 0)) = 1 := by
    decide
  obtain ⟨hc, hv, hm, _, _⟩ := hf
  refine ⟨rfl, hc, hv, hm, ?_⟩
  rintro ⟨sent, hl, message, he, ha⟩
  have hp : 0 < sent.countP (Announces (name 0)) :=
    countP_pos_iff.2 ⟨message, he, decide_eq_true ha⟩
  have ht := congrArg (List.countP (Announces (name 0) ·)) hl
  rw [countP_append] at ht
  omega

end Pages

end WattGateway.Gateway.Reconcile
