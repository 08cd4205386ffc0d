import WattGateway.Gateway.Serial
import WattGateway.Gateway.Origins

/-!
# What a submission does to the tables

The effect of each function of `Ingest` that writes, as a relation between the tables before and
after: `Ingested` for a snapshot, `Received` for an event. Only the values of sequences and clocks
are left open. A space transaction is the list of its items (`SpaceItem.store`).
-/

namespace WattGateway.Gateway

open List Next Option Table Bool Db

variable {Q : Except String Unit → Core → Prop} {snapshot : PublicClientSnapshot} {c : Core}
  {signerAgentDid : String} {inst : Nat} {X : Deployment} {outbox : Option OutboxRecord}
  {view : Db} {eventId : String} {cursor now : Nat}

/-! ## Statements as functions of the tables -/

namespace Db

variable (db : Db)

def enqueue (id : Nat) (outbox : Option OutboxRecord) : Db :=
  { db with
    p2pOutbox := match outbox with
      | none => db.p2pOutbox
      | some record => db.p2pOutbox.insertNew record.dedupeKey ⟨id, record.command⟩ }

/-- The snapshot is as new as the stored one, or there is none. -/
def takesSnapshot (r : SnapshotRecord) : Bool :=
  (db.nodeSnapshots.get? r.nodeId).all fun row =>
    row.generatedAt ≤ normalizeGeneratedAtMillis r.generatedAt

def storeSnapshot (r : SnapshotRecord) (now : Nat) : Db :=
  { db with
    nodeSnapshots := db.nodeSnapshots.upsert r.nodeId fun _ =>
      r.row now (db.nodeSnapshots.get? r.nodeId) }

/-- The event, unless its id is taken. -/
def storeUiEvent (r : UiEventRecord) (cursor now : Nat) : Db :=
  { db with uiEvents := db.uiEvents.insertNew r.eventId (r.row cursor now) }

def takesPresence (presence : SignedSpacePresence) : Bool :=
  (db.spacePresence.get? (presenceKey presence)).all fun row => row.seq < presence.record.seq

def storePresence (presence : SignedSpacePresence) (nodeId : String) (sourceId : Option Nat) : Db :=
  { db with
    spacePresence := db.spacePresence.upsert (presenceKey presence) fun _ =>
      ⟨presence.record.seq, nodeId, sourceId, presence⟩ }

def takesNodePresence (presence : NodePresence) : Bool :=
  (db.nodePresence.get? (presence.nodeId, presence.agentDid)).all fun row =>
    row.lastHeartbeatMs < presence.lastHeartbeatMs

def storeNodePresence (presence : NodePresence) (sourceId : Option Nat) : Db :=
  { db with
    nodePresence := db.nodePresence.upsert (presence.nodeId, presence.agentDid) fun _ =>
      ⟨presence.lastHeartbeatMs, sourceId, presence⟩ }

/-- The key of a world event, if the payload names one. -/
def worldEventKey (payload : Json) : Option (String × String) :=
  match (payload.index "network_id").asStr, (payload.index "announcement_id").asStr with
  | some networkId, some announcementId => some (networkId, announcementId)
  | _, _ => none

def storeWorldEvent (key : String × String) (world : WorldEvent) (payload : Json) (nodeId : String)
    (sourceId : Option Nat) : Db :=
  { db with
    spaceEvents := db.spaceEvents.upsert key fun _ =>
      ⟨world.spaceId, world.placeId, nodeId, sourceId, payload⟩ }

def project (r : ProjectionRecord) (now : Nat) : Db :=
  { db with projectionRows := db.projectionRows.upsert r.key (r.row now) }

/-- The tables apart from the notes that nothing reads. -/
def noted (audit : List AuditRecord) (status : Table Nat (String × Option String)) : Db :=
  { db with ingestAudit := audit, syncStatus := status }

end Db

/-- What a statement answers and the tables after it. -/
def Stmt.effect (view : Db) (d : Defaults) (s : Stmt) : Except String (s.Result × Db) :=
  (s.exec view d).map fun x => (x.1, x.2.toList.foldl Write.apply view)

section

variable (view : Db) (d : Defaults)

lemma effect_upsertSnapshot (r : SnapshotRecord) : Stmt.effect view d (.upsertSnapshot r) =
    .ok (if view.takesSnapshot r then (true, view.storeSnapshot r d.now) else (false, view)) := by
  unfold Stmt.effect Stmt.exec takesSnapshot
  simp only
  split <;> rfl

lemma effect_insertUiEvent (r : UiEventRecord) : Stmt.effect view d (.insertUiEvent r) =
    .ok (if (view.uiEvents.get? r.eventId).isNone then some (r.row d.cursor d.now) else none,
      view.storeUiEvent r d.cursor d.now) := by
  unfold Stmt.effect Stmt.exec storeUiEvent
  simp only
  cases h : view.uiEvents.get? r.eventId with
  | none =>
    rw [insertNew_eq_upsert h]
    rfl
  | some =>
    rw [insertNew_of_some h]
    rfl

lemma effect_insertP2pOutbox (r : OutboxRecord) : Stmt.effect view d (.insertP2pOutbox r) =
    .ok ((), view.enqueue d.outboxId (some r)) := by
  unfold Stmt.effect Stmt.exec enqueue
  simp only
  cases h : view.p2pOutbox.get? r.dedupeKey with
  | none =>
    rw [insertNew_eq_upsert h]
    rfl
  | some =>
    rw [insertNew_of_some h]
    rfl

lemma effect_upsertPresence (presence : SignedSpacePresence) (nodeId : String)
    (sourceId : Option Nat) : Stmt.effect view d (.upsertPresence presence nodeId sourceId) =
    .ok (if view.takesPresence presence then (true, view.storePresence presence nodeId sourceId)
      else (false, view)) := by
  unfold Stmt.effect Stmt.exec takesPresence
  simp only
  split <;> rfl

lemma effect_upsertNodePresence (presence : NodePresence) (sourceId : Option Nat) :
    Stmt.effect view d (.upsertNodePresence presence sourceId) =
    .ok (if view.takesNodePresence presence then (true, view.storeNodePresence presence sourceId)
      else (false, view)) := by
  unfold Stmt.effect Stmt.exec takesNodePresence
  simp only
  split <;> rfl

lemma effect_upsertWorldEvent (world : WorldEvent) (payload : Json) (nodeId : String)
    (sourceId : Option Nat) : Stmt.effect view d (.upsertWorldEvent world payload nodeId sourceId) =
    match worldEventKey payload with
    | none => .error "null value violates not-null constraint"
    | some key => .ok (if (view.spaceEvents.get? key).isNone then
        (true, view.storeWorldEvent key world payload nodeId sourceId) else (false, view)) := by
  unfold Stmt.effect Stmt.exec worldEventKey
  simp only
  cases (payload.index "network_id").asStr with
  | none => rfl
  | some networkId =>
    cases (payload.index "announcement_id").asStr with
    | none => rfl
    | some announcementId =>
      simp only
      cases view.spaceEvents.get? (networkId, announcementId) <;> rfl

end

section

variable {α : Type}

/-- What must hold after a statement with this effect. -/
def AfterEffect {s : Stmt} (c : Core) (Q : Except String s.Result → Core → Prop) :
    Except String (s.Result × Db) → Prop
  | .ok x => Q (.ok x.1) { c with tx := some x.2 }
  | .error e => Q (.error e) { c with tx := none }

lemma runs_effect {s : Stmt} {Q : Except String s.Result → Core → Prop} (ho : c.tx = some view)
    (h : ∀ d, AfterEffect c Q (s.effect view d)) : Runs inst Q (exec (.stmt s)) c := by
  refine runs_stmt ho (fun d a write hx => ?_) fun d e hx => ?_
  · have hd := h d
    unfold Stmt.effect at hd
    rw [hx] at hd
    exact hd
  · have hd := h d
    unfold Stmt.effect at hd
    rw [hx] at hd
    exact hd

lemma runs_outboxIf {written : Bool}
    (ho : c.tx = some view)
    (h : ∀ id, Q (.ok ()) { c with tx := some (if written then view.enqueue id outbox else view) }) :
    Runs inst Q (outboxIf written outbox) c := by
  have hc : { c with tx := some view } = c := by rw [← ho]
  unfold outboxIf
  cases outbox with
  | none =>
    refine runs_pure ?_
    have h0 := h 0
    simp only [enqueue, ite_self, hc] at h0
    exact h0
  | some record =>
    cases written with
    | false =>
      refine runs_pure ?_
      have h0 := h 0
      simp only [false_eq_true, if_false, hc] at h0
      exact h0
    | true =>
      refine runs_effect (s := .insertP2pOutbox record) ho fun d => ?_
      rw [effect_insertP2pOutbox]
      exact h d.outboxId

lemma runs_upsertSnapshotInner {record : SnapshotRecord} {announcement : Option OutboxRecord}
    {Q : Except String Bool → Core → Prop}
    (hs : c.db.takesSnapshot record = false → Q (.ok false) { c with tx := none })
    (hne : c.db.takesSnapshot record = true → ∀ now id, Q (.ok true)
      { c with db := (c.db.storeSnapshot record now).enqueue id announcement, tx := none }) :
    Runs inst Q (upsertSnapshotInner record announcement) c := by
  unfold upsertSnapshotInner
  refine .bind (runs_begin ?_)
  refine .bind (runs_effect (s := .upsertSnapshot record) rfl fun d => ?_)
  rw [effect_upsertSnapshot]
  cases ht : c.db.takesSnapshot record with
  | false =>
    refine .bind (runs_outboxIf rfl fun id => ?_)
    refine .bind (runs_commit rfl ?_)
    exact runs_pure (hs ht)
  | true =>
    refine .bind (runs_outboxIf rfl fun id => ?_)
    refine .bind (runs_commit rfl ?_)
    exact runs_pure (hne ht d.now id)

end

/-! ## The space transaction of a snapshot -/

/-- One record of a snapshot that the space tables may take. -/
inductive SpaceItem where
  | presence (presence : SignedSpacePresence)
  | nodePresence (presence : NodePresence)
  | worldEvent (payload : Json)

variable {items : List SpaceItem}

section

variable (X : Deployment) (sourceId : Option Nat) (snapshot : PublicClientSnapshot)
  (signerAgentDid : String)

def presenceItem (presence : SignedSpacePresence) : Option SpaceItem :=
  if (validatePresence X presence).isOk then some (.presence presence) else none

def nodePresenceItem (presence : NodePresence) : Option SpaceItem :=
  if (validateNodePresence presence snapshot.nodeId signerAgentDid).isOk then
    some (.nodePresence presence)
  else none

def worldEventItem (payload : Json) : Option SpaceItem :=
  if (validateWorldEvent X payload).isOk then some (.worldEvent payload) else none

/-- The records of a snapshot that pass their checks, in the order of the transaction. -/
def spaceItems : List SpaceItem :=
  snapshot.spacePresences.filterMap (presenceItem X) ++
    (snapshot.nodePresence.toList.filterMap (nodePresenceItem snapshot signerAgentDid) ++
      snapshot.worldEvents.filterMap (worldEventItem X))

def presenceRecord (presence : SignedSpacePresence) : UiEventRecord :=
  snapshotUiRecord sourceId snapshot signerAgentDid (presenceEventId presence) .spacePresence
    "space.presence.changed" (presence.record.updatedAt.tdiv 1000) (X.presenceToValue presence)

def nodePresenceRecord (presence : NodePresence) : UiEventRecord :=
  snapshotUiRecord sourceId snapshot signerAgentDid (nodePresenceEventId presence) .presence
    heartbeatKind (presence.lastHeartbeatMs.tdiv 1000) (X.nodePresenceToValue presence)

def worldEventRecord (announcement : EventAnnouncementPayload) (generatedAt : Int) (payload : Json) :
    UiEventRecord :=
  snapshotUiRecord sourceId snapshot signerAgentDid
    ("world-event:" ++ announcement.networkId ++ ":" ++ announcement.announcementId) .worldEvent
    "space.world_event.published" generatedAt payload

/-- The tables after a record: it is stored with an event if it is news. -/
def SpaceItem.store (db : Db) (cursor now : Nat) : SpaceItem → Except String Db
  | .presence p => .ok <|
    if db.takesPresence p then
      (db.storePresence p snapshot.nodeId sourceId).storeUiEvent
        (presenceRecord X sourceId snapshot signerAgentDid p) cursor now
    else db
  | .nodePresence p => .ok <|
    if db.takesNodePresence p then
      (db.storeNodePresence p sourceId).storeUiEvent
        (nodePresenceRecord X sourceId snapshot signerAgentDid p) cursor now
    else db
  | .worldEvent payload => do
    let world ← X.worldEventOfValue (payload.index "content")
    let key ← orFail "null value violates not-null constraint" (worldEventKey payload)
    if (db.spaceEvents.get? key).isNone then
      let announcement ← X.announcementOfValue payload
      let generatedAt ← orFail "out of range integral type conversion attempted"
        (i64OfNat (announcement.issuedAt / 1000))
      return (db.storeWorldEvent key world payload snapshot.nodeId sourceId).storeUiEvent
        (worldEventRecord sourceId snapshot signerAgentDid announcement generatedAt payload)
        cursor now
    else return db

def SpaceStored : List SpaceItem → Db → Db → Prop
  | [], db, db' => db' = db
  | item :: items, db, db' => ∃ cursor now db₁,
      item.store X sourceId snapshot signerAgentDid db cursor now = .ok db₁ ∧
        SpaceStored items db₁ db'

def SpaceFails : List SpaceItem → Db → Prop
  | [], _ => False
  | item :: items, db => ∃ cursor now,
      match item.store X sourceId snapshot signerAgentDid db cursor now with
      | .error _ => True
      | .ok db₁ => SpaceFails items db₁

variable {X sourceId snapshot signerAgentDid}
variable {items' : List SpaceItem}

lemma SpaceStored.append {db db₁ db₂ : Db}
    (h : SpaceStored X sourceId snapshot signerAgentDid items db db₁)
    (h' : SpaceStored X sourceId snapshot signerAgentDid items' db₁ db₂) :
    SpaceStored X sourceId snapshot signerAgentDid (items ++ items') db db₂ := by
  induction items generalizing db with
  | nil =>
    cases h
    exact h'
  | cons _ _ ih =>
    obtain ⟨cursor, now, db₀, hs, hr⟩ := h
    exact ⟨cursor, now, db₀, hs, ih hr⟩

lemma SpaceFails.append_right {db : Db}
    (h : SpaceFails X sourceId snapshot signerAgentDid items db) (items' : List SpaceItem) :
    SpaceFails X sourceId snapshot signerAgentDid (items ++ items') db := by
  induction items generalizing db with
  | nil => exact h.elim
  | cons item _ ih =>
    obtain ⟨cursor, now, ht⟩ := h
    refine ⟨cursor, now, ?_⟩
    cases hs : item.store X sourceId snapshot signerAgentDid db cursor now with
    | error => trivial
    | ok =>
      rw [hs] at ht
      exact ih ht

lemma SpaceStored.append_fails {db db₁ : Db}
    (h : SpaceStored X sourceId snapshot signerAgentDid items db db₁)
    (h' : SpaceFails X sourceId snapshot signerAgentDid items' db₁) :
    SpaceFails X sourceId snapshot signerAgentDid (items ++ items') db := by
  induction items generalizing db with
  | nil =>
    cases h
    exact h'
  | cons _ _ ih =>
    obtain ⟨cursor, now, _, hs, hr⟩ := h
    refine ⟨cursor, now, ?_⟩
    rw [hs]
    exact ih hr

/-- The end of a part of the transaction. -/
def SpacePart (X : Deployment) (sourceId : Option Nat) (snapshot : PublicClientSnapshot)
    (signerAgentDid : String) (items : List SpaceItem) (c : Core) (view : Db) {α : Type} :
    Except String α → Core → Prop
  | .ok _, c' => ∃ view', SpaceStored X sourceId snapshot signerAgentDid items view view' ∧
      c' = { c with tx := some view' }
  | .error _, c' => SpaceFails X sourceId snapshot signerAgentDid items view ∧
      ∃ tx, c' = { c with tx := tx }

lemma runs_collect_space {β : Type} {item : β → Option SpaceItem}
    {f : β → Proc (Option (String × UiEventRow))} (xs : List β)
    (hf : ∀ x (c' : Core) view', c'.tx = some view' →
      Runs inst (SpacePart X sourceId snapshot signerAgentDid (item x).toList c' view') (f x) c')
    (ho : c.tx = some view) :
    Runs inst (SpacePart X sourceId snapshot signerAgentDid (xs.filterMap item) c view)
      (Prog.collect xs f) c := by
  induction xs generalizing c view with
  | nil => exact runs_pure ⟨view, rfl, by rw [← ho]⟩
  | cons x xs ih =>
    have hit : (x :: xs).filterMap item = (item x).toList ++ xs.filterMap item := by
      cases h : item x <;> simp [h]
    rw [hit]
    refine .bind ((hf x c view ho).mono fun r c₁ hr => ?_)
    cases r with
    | error =>
      obtain ⟨ha, ht⟩ := hr
      exact ⟨ha.append_right _, ht⟩
    | ok =>
      obtain ⟨_, hs, rfl⟩ := hr
      refine .bind ((ih rfl).mono fun r c₂ hr => ?_)
      cases r with
      | error =>
        obtain ⟨ha, tx, rfl⟩ := hr
        exact ⟨hs.append_fails ha, tx, rfl⟩
      | ok =>
        obtain ⟨view₂, he, rfl⟩ := hr
        exact runs_pure ⟨view₂, hs.append he, rfl⟩

lemma runs_leftOut (ho : c.tx = some view) :
    Runs inst (SpacePart X sourceId snapshot signerAgentDid [] c view)
      (pure none : Proc (Option (String × UiEventRow))) c :=
  runs_pure ⟨view, rfl, by rw [← ho]⟩

lemma runs_insertSnapshotUiRecord {dataKind : DataKind} {eventKind : String}
    {generatedAt : Int} {payload : Json}
    {Q : Except String (Option (String × UiEventRow)) → Core → Prop} (ho : c.tx = some view)
    (h : ∀ row cursor now, Q (.ok row) { c with
      tx := some (view.storeUiEvent (snapshotUiRecord sourceId snapshot signerAgentDid eventId
        dataKind eventKind generatedAt payload) cursor now) }) :
    Runs inst Q (insertSnapshotUiRecord sourceId snapshot signerAgentDid eventId dataKind eventKind
      generatedAt payload) c := by
  unfold insertSnapshotUiRecord
  refine .bind (runs_effect (s := .insertUiEvent _) ho fun d => ?_)
  rw [effect_insertUiEvent]
  exact runs_pure (h _ d.cursor d.now)

lemma runs_snapshotPresence (presence : SignedSpacePresence) (ho : c.tx = some view) :
    Runs inst (SpacePart X sourceId snapshot signerAgentDid (presenceItem X presence).toList c view)
      (snapshotPresence X sourceId snapshot signerAgentDid presence) c := by
  unfold snapshotPresence presenceItem
  cases validatePresence X presence with
  | error => exact runs_leftOut ho
  | ok =>
    refine .bind (runs_effect (s := .upsertPresence _ _ _) ho fun d => ?_)
    rw [effect_upsertPresence]
    cases ht : view.takesPresence presence with
    | false =>
      refine runs_pure ⟨view, ⟨0, 0, view, ?_, rfl⟩, rfl⟩
      simp [SpaceItem.store, ht]
    | true =>
      refine runs_insertSnapshotUiRecord rfl fun row cursor now => ?_
      refine ⟨_, ⟨cursor, now, _, ?_, rfl⟩, rfl⟩
      simp [SpaceItem.store, ht, presenceRecord]

lemma runs_snapshotNodePresence (presence : NodePresence) (ho : c.tx = some view) :
    Runs inst (SpacePart X sourceId snapshot signerAgentDid
        (nodePresenceItem snapshot signerAgentDid presence).toList c view)
      (snapshotNodePresence X sourceId snapshot signerAgentDid presence) c := by
  unfold snapshotNodePresence nodePresenceItem
  cases validateNodePresence presence snapshot.nodeId signerAgentDid with
  | error => exact runs_leftOut ho
  | ok =>
    refine .bind (runs_effect (s := .upsertNodePresence _ _) ho fun d => ?_)
    rw [effect_upsertNodePresence]
    cases ht : view.takesNodePresence presence with
    | false =>
      refine runs_pure ⟨view, ⟨0, 0, view, ?_, rfl⟩, rfl⟩
      simp [SpaceItem.store, ht]
    | true =>
      refine runs_insertSnapshotUiRecord rfl fun row cursor now => ?_
      refine ⟨_, ⟨cursor, now, _, ?_, rfl⟩, rfl⟩
      simp [SpaceItem.store, ht, nodePresenceRecord]

lemma runs_snapshotWorldEvent (payload : Json) (ho : c.tx = some view) :
    Runs inst (SpacePart X sourceId snapshot signerAgentDid (worldEventItem X payload).toList c view)
      (snapshotWorldEvent X sourceId snapshot signerAgentDid payload) c := by
  unfold snapshotWorldEvent worldEventItem upsertWorldEvent
  cases validateWorldEvent X payload with
  | error => exact runs_leftOut ho
  | ok =>
    refine .bind (.bind (runs_ofExcept ?_))
    cases hw : X.worldEventOfValue (payload.index "content") with
    | error =>
      refine ⟨⟨0, 0, ?_⟩, c.tx, rfl⟩
      simp [SpaceItem.store, hw, bind, Except.bind]
    | ok =>
      refine runs_effect (s := .upsertWorldEvent _ _ _ _) ho fun d => ?_
      rw [effect_upsertWorldEvent]
      cases hk : worldEventKey payload with
      | none =>
        refine ⟨⟨0, 0, ?_⟩, none, rfl⟩
        simp [SpaceItem.store, hw, hk, bind, Except.bind, orFail]
      | some key =>
        simp only
        cases hold : view.spaceEvents.get? key with
        | some =>
          refine runs_pure ?_
          refine ⟨view, ⟨0, 0, view, ?_, rfl⟩, rfl⟩
          simp [SpaceItem.store, hw, hk, hold, bind, Except.bind, orFail, pure, Except.pure]
        | none =>
          refine .bind (p := Prog.ofExcept (X.announcementOfValue payload)) (runs_ofExcept ?_)
          cases ha : X.announcementOfValue payload with
          | error =>
            refine ⟨⟨0, 0, ?_⟩, _, rfl⟩
            simp [SpaceItem.store, hw, hk, hold, ha, bind, Except.bind, orFail]
          | ok =>
            refine .bind (runs_ofOption (fun generatedAt ht => ?_) fun ht => ?_)
            · refine runs_insertSnapshotUiRecord rfl fun row cursor now => ?_
              refine ⟨_, ⟨cursor, now, _, ?_, rfl⟩, rfl⟩
              simp [SpaceItem.store, hw, hk, hold, ha, ht, worldEventRecord, bind,
                Except.bind, orFail, pure, Except.pure]
            · refine ⟨⟨0, 0, ?_⟩, _, rfl⟩
              simp [SpaceItem.store, hw, hk, hold, ha, ht, bind, Except.bind, orFail]

/-- The transaction is committed with all its records, or one of them fails and nothing is. -/
lemma runs_persistSnapshotSpace : Runs inst (fun r c' => match r with
      | .ok _ => ∃ db', SpaceStored X sourceId snapshot signerAgentDid
          (spaceItems X snapshot signerAgentDid) c.db db' ∧ c' = { c with db := db', tx := none }
      | .error _ => SpaceFails X sourceId snapshot signerAgentDid
          (spaceItems X snapshot signerAgentDid) c.db ∧ ∃ tx, c' = { c with tx := tx })
      (persistSnapshotSpace X sourceId snapshot signerAgentDid) c := by
  unfold persistSnapshotSpace spaceItems
  refine .bind (runs_begin (ok ?_))
  refine .bind (Runs.mono
    (runs_collect_space _ (fun x _ _ h => runs_snapshotPresence x h) rfl) ?_)
  rintro (e | presences) c₁ h₁
  · exact ⟨h₁.1.append_right _, h₁.2⟩
  obtain ⟨_, hs₁, rfl⟩ := h₁
  refine ok (.bind (Runs.mono
    (runs_collect_space _ (fun x _ _ h => runs_snapshotNodePresence x h) rfl) ?_))
  rintro (e | he) c₂ h₂
  · exact ⟨hs₁.append_fails (h₂.1.append_right _), h₂.2⟩
  obtain ⟨_, hs₂, rfl⟩ := h₂
  refine ok (.bind (Runs.mono
    (runs_collect_space _ (fun x _ _ h => runs_snapshotWorldEvent x h) rfl) ?_))
  rintro (e | worldEvents) c₃ h₃
  · exact ⟨hs₁.append_fails (hs₂.append_fails h₃.1), h₃.2⟩
  obtain ⟨view₃, hs₃, rfl⟩ := h₃
  refine ok (.bind (runs_commit rfl ?_))
  exact ok (runs_pure ⟨view₃, hs₁.append (hs₂.append hs₃), rfl⟩)

end

variable {sourceId : Option Nat} {db db' : Db}

lemma store_worldEvent {payload : Json} {db₁ : Db}
    (h : SpaceItem.store X sourceId snapshot signerAgentDid db cursor now (.worldEvent payload) =
      .ok db₁) :
    ∃ world key, X.worldEventOfValue (payload.index "content") = .ok world ∧
      worldEventKey payload = some key ∧ ((db.spaceEvents.get? key).isNone = false ∧ db₁ = db ∨
        (db.spaceEvents.get? key).isNone = true ∧ ∃ announcement generatedAt,
          X.announcementOfValue payload = .ok announcement ∧
          i64OfNat (announcement.issuedAt / 1000) = some generatedAt ∧
          db₁ = (db.storeWorldEvent key world payload snapshot.nodeId sourceId).storeUiEvent
            (worldEventRecord sourceId snapshot signerAgentDid announcement generatedAt payload)
            cursor now) := by
  unfold SpaceItem.store at h
  simp only [bind_eq_ok, orFail_eq_ok] at h
  obtain ⟨world, hw, key, hk, h⟩ := h
  refine ⟨world, key, hw, hk, ?_⟩
  split at h
  · rename_i hn
    simp only [bind_eq_ok, orFail_eq_ok] at h
    obtain ⟨announcement, ha, generatedAt, ht, h⟩ := h
    cases h
    exact .inr ⟨hn, announcement, generatedAt, ha, ht, rfl⟩
  · rename_i hold
    cases h
    exact .inl ⟨Bool.not_eq_true _ ▸ hold, rfl⟩

lemma store_others {item : SpaceItem}
    (h : item.store X sourceId snapshot signerAgentDid db cursor now = .ok db') :
    db'.nodeSources = db.nodeSources ∧ db'.nodeSnapshots = db.nodeSnapshots ∧
      db'.projectionRows = db.projectionRows ∧ db'.p2pOutbox = db.p2pOutbox := by
  cases item with
  | presence | nodePresence =>
    unfold SpaceItem.store at h
    cases h
    split <;> exact ⟨rfl, rfl, rfl, rfl⟩
  | worldEvent =>
    obtain ⟨_, _, -, -, ⟨-, rfl⟩ | ⟨-, _, _, -, -, rfl⟩⟩ := store_worldEvent h <;>
      exact ⟨rfl, rfl, rfl, rfl⟩

lemma SpaceStored.others (h : SpaceStored X sourceId snapshot signerAgentDid items db db') :
    db'.nodeSources = db.nodeSources ∧ db'.nodeSnapshots = db.nodeSnapshots ∧
      db'.projectionRows = db.projectionRows ∧ db'.p2pOutbox = db.p2pOutbox := by
  induction items generalizing db with
  | nil =>
    cases h
    exact ⟨rfl, rfl, rfl, rfl⟩
  | cons _ _ ih =>
    obtain ⟨_, _, _, hs, hr⟩ := h
    obtain ⟨h₁, h₂, h₃, h₄⟩ := store_others hs
    obtain ⟨h₁', h₂', h₃', h₄'⟩ := ih hr
    exact ⟨h₁'.trans h₁, h₂'.trans h₂, h₃'.trans h₃, h₄'.trans h₄⟩

/-! ## A snapshot -/

def Projected : List ProjectionRecord → Db → Db → Prop
  | [], db, db' => db' = db
  | r :: rs, db, db' => ∃ now, Projected rs (db.project r now) db'

lemma Projected.append {rs rs' : List ProjectionRecord} {db₁ db₂ : Db} (h : Projected rs db db₁)
    (h' : Projected rs' db₁ db₂) : Projected (rs ++ rs') db db₂ := by
  induction rs generalizing db with
  | nil =>
    cases h
    exact h'
  | cons _ _ ih =>
    obtain ⟨now, hr⟩ := h
    exact ⟨now, ih hr⟩

lemma Projected.others {rs : List ProjectionRecord} (h : Projected rs db db') :
    db' = { db with projectionRows := db'.projectionRows } := by
  induction rs generalizing db with
  | nil =>
    cases h
    rfl
  | cons _ _ ih =>
    obtain ⟨_, hr⟩ := h
    rw [ih hr]
    rfl

def Db.ingest (X : Deployment) (s : SignedPublicClientSnapshot) (sourceId : Option Nat)
    (announceP2p : Bool) (now id : Nat) (db : Db) : Db :=
  (db.storeSnapshot (snapshotRecord s sourceId) now).enqueue id
    (if announceP2p && X.p2p then some (snapshotOutbox s) else none)

def keptArtifacts (X : Deployment) (s : SignedPublicClientSnapshot)
    (artifacts : String → Option SignedPublicClientSnapshot) :
    String → Option SignedPublicClientSnapshot :=
  if X.p2p then Function.update artifacts s.payload.nodeId (some s) else artifacts

/-- How `ingest_signed_snapshot_with_options` ends. -/
inductive Ingested (X : Deployment) (s : SignedPublicClientSnapshot) (sourceId : Option Nat)
    (expected : Option String) (announceP2p : Bool) (c : Core) : Except String Bool → Core → Prop
  | refused (e : String) (hv : verifySignedSnapshot X.toCrypto s expected = .error e) :
      Ingested X s sourceId expected announceP2p c (.error e) c
  | stale (hv : verifySignedSnapshot X.toCrypto s expected = .ok ())
      (hstale : c.db.takesSnapshot (snapshotRecord s sourceId) = false) :
      Ingested X s sourceId expected announceP2p c (.ok false)
        { c with tx := none, artifacts := keptArtifacts X s c.artifacts }
  | spaceFailed (hv : verifySignedSnapshot X.toCrypto s expected = .ok ())
      (hnews : c.db.takesSnapshot (snapshotRecord s sourceId) = true) (e : String) (now id : Nat)
      (tx : Option Db)
      (hfails : SpaceFails X sourceId s.payload s.signerAgentDid
        (spaceItems X s.payload s.signerAgentDid) (c.db.ingest X s sourceId announceP2p now id)) :
      Ingested X s sourceId expected announceP2p c (.error e)
        { c with
          db := c.db.ingest X s sourceId announceP2p now id
          tx := tx
          artifacts := keptArtifacts X s c.artifacts }
  | applied (hv : verifySignedSnapshot X.toCrypto s expected = .ok ())
      (hnews : c.db.takesSnapshot (snapshotRecord s sourceId) = true) (now id : Nat) (db₁ db₂ : Db)
      (hspace : SpaceStored X sourceId s.payload s.signerAgentDid
        (spaceItems X s.payload s.signerAgentDid) (c.db.ingest X s sourceId announceP2p now id) db₁)
      (hprojected : Projected (snapshotProjectionSeeds sourceId s.payload X) db₁ db₂) :
      Ingested X s sourceId expected announceP2p c (.ok true)
        { c with db := db₂, tx := none, artifacts := keptArtifacts X s c.artifacts }

variable {announceP2p : Bool} {c' : Core}

lemma Ingested.snapshots {s : SignedPublicClientSnapshot} {expected : Option String}
    {r : Except String Bool} (h : Ingested X s sourceId expected announceP2p c r c') :
    ((∃ e, verifySignedSnapshot X.toCrypto s expected = .error e) ∧
        c'.db.nodeSnapshots = c.db.nodeSnapshots ∧ c'.artifacts = c.artifacts) ∨
      verifySignedSnapshot X.toCrypto s expected = .ok () ∧
        c'.artifacts = keptArtifacts X s c.artifacts ∧
        (c.db.takesSnapshot (snapshotRecord s sourceId) = false ∧
            c'.db.nodeSnapshots = c.db.nodeSnapshots ∨
          c.db.takesSnapshot (snapshotRecord s sourceId) = true ∧ ∃ now, c'.db.nodeSnapshots =
            (c.db.storeSnapshot (snapshotRecord s sourceId) now).nodeSnapshots) := by
  cases h with
  | refused e hv => exact .inl ⟨⟨e, hv⟩, rfl, rfl⟩
  | stale hv hs => exact .inr ⟨hv, rfl, .inl ⟨hs, rfl⟩⟩
  | spaceFailed hv hne _ now => exact .inr ⟨hv, rfl, .inr ⟨hne, now, rfl⟩⟩
  | applied hv hne now _ _ db₂ hsp hp =>
    refine .inr ⟨hv, rfl, .inr ⟨hne, now, ?_⟩⟩
    show db₂.nodeSnapshots = _
    rw [hp.others]
    exact hsp.others.2.1

section

lemma runs_publishRows (rows : List (String × UiEventRow))
    (h : Q (.ok ()) c) : Runs inst Q (Prog.forEach rows publishRow) c := by
  refine runs_forEach (I := fun _ c' => c' = c) rfl (fun pre row post c' _ hc => ?_) ?_
  · subst hc
    exact runs_publish rfl
  · rintro c' rfl
    exact h

lemma runs_project (seeds : List ProjectionRecord)
    (hi : c.tx = none)
    (h : ∀ db', Projected seeds c.db db' → Q (.ok ()) { c with db := db', tx := none }) :
    Runs inst Q (Prog.forEach seeds fun record => exec (.write (.upsertProjectionRow record))) c := by
  refine runs_forEach (I := fun pre c' => ∃ db', Projected pre c.db db' ∧
    c' = { c with db := db', tx := none }) ⟨c.db, rfl, by rw [← hi]⟩ ?_ ?_
  · rintro _ record _ c' - ⟨db', hp, rfl⟩
    refine runs_write fun now tx ht => ?_
    cases ht rfl
    exact ⟨db'.project record now, hp.append ⟨now, rfl⟩, rfl⟩
  · rintro _ ⟨db', ha, rfl⟩
    exact h db' ha

lemma runs_ingestSignedSnapshot (X : Deployment) (inst : Nat) (c : Core)
    (s : SignedPublicClientSnapshot) (sourceId : Option Nat) (expected : Option String)
    (announceP2p : Bool) : Runs inst (Ingested X s sourceId expected announceP2p c)
      (ingestSignedSnapshotWithOptions X s sourceId expected announceP2p) c := by
  unfold ingestSignedSnapshotWithOptions
  refine .bind (runs_ofExcept ?_)
  cases hv : verifySignedSnapshot X.toCrypto s expected with
  | error e => exact .refused e hv
  | ok =>
    have ha : Runs inst (fun r c' => r = .ok () ∧
        c' = { c with artifacts := keptArtifacts X s c.artifacts }) (persistArtifactIf X s) c := by
      unfold persistArtifactIf keptArtifacts
      split
      · exact runs_persistSnapshotArtifact ⟨rfl, rfl⟩
      · exact runs_pure ⟨rfl, rfl⟩
    refine ok (.bind (Runs.mono ha ?_))
    rintro _ _ ⟨rfl, rfl⟩
    refine ok (.bind (runs_upsertSnapshotInner (fun ht => ?_) fun hne now id => ?_))
    · exact ok (.bind (runs_pure (runs_pure (.stale hv ht))))
    · unfold readModelsIf persistSnapshotReadModels
      refine ok (.bind (.bind (.bind (Runs.mono runs_persistSnapshotSpace ?_))))
      rintro (e | spaceRows) c₂ h₂
      · obtain ⟨hf, tx, rfl⟩ := h₂
        exact Ingested.spaceFailed (c := c) hv hne e now id tx hf
      · obtain ⟨db₁, hs, rfl⟩ := h₂
        refine ok (.bind (runs_project _ rfl fun db₂ hp => ?_))
        refine ok (runs_pure (ok ?_))
        refine runs_publishRows spaceRows (runs_pure ?_)
        exact Ingested.applied (c := c) hv hne now id db₁ db₂ hs hp

end

/-! ## An event -/

namespace Db

def sourceOf (db : Db) (e : SignedNodeEvent) : Option (Nat × NodeSourceRow) :=
  db.findNodeSourceForIdentity e.payload.nodeId e.payload.signerAgentDid

/-- The event has a source and is beyond the next event of it. -/
def gap (db : Db) (e : SignedNodeEvent) : Bool :=
  (db.sourceOf e).isSome &&
    (db.maxUiEventSourceSeq e.payload.nodeId ((db.sourceOf e).map Prod.fst)).any fun lastSeq =>
      (i64OfNat e.payload.seq).any fun seq => i64Wrap (lastSeq + 1) < seq

/-- The tables with the record of a space event, none if it is no news. -/
def spaceRecord (X : Deployment) (event : NodeEventPayload) (sourceId : Option Nat) (db : Db) :
    Except String (Option Db) :=
  match event.dataKind with
  | .spacePresence =>
    match X.presenceOfValue event.payload with
    | .error e => .error e
    | .ok presence => .ok <|
      if db.takesPresence presence then some (db.storePresence presence event.nodeId sourceId)
      else none
  | .worldEvent =>
    match X.worldEventOfValue (event.payload.index "content"), worldEventKey event.payload with
    | .error e, _ => .error e
    | .ok _, none => .error "null value violates not-null constraint"
    | .ok world, some key => .ok <|
      if (db.spaceEvents.get? key).isNone then
        some (db.storeWorldEvent key world event.payload event.nodeId sourceId)
      else none
  | _ => .error "space persistence only accepts space records"

/-- The tables with the projection of an event, if it has one. -/
def materialize (event : NodeEventPayload) (sourceId : Option Nat) (now : Nat) (db : Db) :
    Option (DataKind × Json) → Db
  | none => db
  | some (dataKind, payload) =>
    db.project (eventProjectionRecord event sourceId (isProvisional event) dataKind payload) now

end Db

/-- The event passes the checks of `persist_signed_node_event_with_options`. -/
def Accepts (X : Deployment) (db : Db) (e : SignedNodeEvent) : Prop :=
  Active (db.sourceOf e) ∧
    verifySignedNodeEvent X.toCrypto e (expectedOf (db.sourceOf e)) = .ok () ∧
    validateEvent X e = .ok ()

def IsHeartbeat (e : SignedNodeEvent) : Prop :=
  e.payload.dataKind = .presence ∧ e.payload.eventKind = heartbeatKind

/-- The outbox row of an event, if the gateway is to announce it. -/
def announcementOf (X : Deployment) (e : SignedNodeEvent) (announceP2p : Bool) : Option OutboxRecord :=
  if announceP2p && X.p2p then some (eventOutbox e) else none

/-- How an event ends up that has been accepted, under the id of its source. -/
inductive EventStored (X : Deployment) (e : SignedNodeEvent) (sourceId : Option Nat)
    (announceP2p : Bool) (c : Core) : Except String (Option Nat) → Core → Prop
  | ephemeral (hp : e.payload.provisionalPolicy = .ephemeralOnly) (hkind : ¬ IsHeartbeat e) :
      EventStored X e sourceId announceP2p c (.ok none) c
  | heartbeatUnread (hp : e.payload.provisionalPolicy = .ephemeralOnly) (hkind : IsHeartbeat e)
      (err : String) (hread : X.nodePresenceOfValue e.payload.payload = .error err) :
      EventStored X e sourceId announceP2p c (.error err) c
  | heartbeat (hp : e.payload.provisionalPolicy = .ephemeralOnly) (hkind : IsHeartbeat e)
      (presence : NodePresence) (hread : X.nodePresenceOfValue e.payload.payload = .ok presence) :
      EventStored X e sourceId announceP2p c (.ok none)
        { c with
          db := if c.db.takesNodePresence presence then c.db.storeNodePresence presence sourceId
            else c.db
          tx := none }
  | unprojected (hp : e.payload.provisionalPolicy ≠ .ephemeralOnly) (err : String)
      (htp : trustedProjection X e.payload = .error err) :
      EventStored X e sourceId announceP2p c (.error err) c
  | inserted (hp : e.payload.provisionalPolicy ≠ .ephemeralOnly) (hspace : isSpaceEvent e = false)
      (projection : Option (DataKind × Json))
      (htp : trustedProjection X e.payload = .ok projection)
      (hnew : c.db.uiEvents.get? e.payload.eventId = none) (cursor now now' id : Nat)
      (audit : List AuditRecord) : EventStored X e sourceId announceP2p c (.ok (some cursor))
        { c with
          db := ((((c.db.storeUiEvent (uiEventRecord e.payload sourceId projection) cursor
            now).enqueue id (announcementOf X e announceP2p)).noted audit c.db.syncStatus).materialize
              e.payload sourceId now' projection)
          tx := none }
  | duplicate (hp : e.payload.provisionalPolicy ≠ .ephemeralOnly) (hspace : isSpaceEvent e = false)
      (projection : Option (DataKind × Json))
      (htp : trustedProjection X e.payload = .ok projection) (row : UiEventRow)
      (hold : c.db.uiEvents.get? e.payload.eventId = some row) (now : Nat) :
      EventStored X e sourceId announceP2p c (.ok none)
        { c with db := c.db.materialize e.payload sourceId now projection, tx := none }
  | spaceUnread (hp : e.payload.provisionalPolicy ≠ .ephemeralOnly) (hspace : isSpaceEvent e = true)
      (err : String) (hread : c.db.spaceRecord X e.payload sourceId = .error err)
      (tx : Option Db) : EventStored X e sourceId announceP2p c (.error err) { c with tx := tx }
  | spaceStale (hp : e.payload.provisionalPolicy ≠ .ephemeralOnly) (hspace : isSpaceEvent e = true)
      (hread : c.db.spaceRecord X e.payload sourceId = .ok none) :
      EventStored X e sourceId announceP2p c (.ok none) { c with tx := none }
  | spaceTaken (hp : e.payload.provisionalPolicy ≠ .ephemeralOnly) (hspace : isSpaceEvent e = true)
      (db₁ : Db) (hread : c.db.spaceRecord X e.payload sourceId = .ok (some db₁)) (row : UiEventRow)
      (hold : db₁.uiEvents.get? e.payload.eventId = some row) :
      EventStored X e sourceId announceP2p c (.ok none) { c with tx := none }
  | spaceStored (hp : e.payload.provisionalPolicy ≠ .ephemeralOnly) (hspace : isSpaceEvent e = true)
      (db₁ : Db) (hread : c.db.spaceRecord X e.payload sourceId = .ok (some db₁))
      (hnew : db₁.uiEvents.get? e.payload.eventId = none) (cursor now id : Nat) :
      EventStored X e sourceId announceP2p c (.ok (some cursor))
        { c with
          db := (db₁.storeUiEvent (spaceEventRecord e.payload sourceId) cursor now).enqueue id
            (announcementOf X e announceP2p)
          tx := none }

variable {event : NodeEventPayload}

section

variable (h : db.spaceRecord X event sourceId = .ok (some db'))
include h

lemma spaceRecord_eq_some :
    (∃ p, event.dataKind = .spacePresence ∧ X.presenceOfValue event.payload = .ok p ∧
      db.takesPresence p = true ∧ db' = db.storePresence p event.nodeId sourceId) ∨
    ∃ key world, event.dataKind = .worldEvent ∧ worldEventKey event.payload = some key ∧
      X.worldEventOfValue (event.payload.index "content") = .ok world ∧
      db.spaceEvents.get? key = none ∧
      db' = db.storeWorldEvent key world event.payload event.nodeId sourceId := by
  unfold spaceRecord at h
  split at h
  · rename_i hi
    split at h
    · cases h
    · rename_i p hp
      split at h <;> cases h
      exact .inl ⟨p, hi, hp, ‹_›, rfl⟩
  · rename_i hi
    split at h
    · cases h
    · cases h
    · rename_i world key hw hk
      split at h <;> cases h
      exact .inr ⟨key, world, hi, hk, hw, isNone_iff_eq_none.1 ‹_›, rfl⟩
  · cases h

lemma spaceRecord_others :
    db' = { db with spacePresence := db'.spacePresence, spaceEvents := db'.spaceEvents } := by
  rcases spaceRecord_eq_some h with ⟨_, -, -, -, rfl⟩ | ⟨_, _, -, -, -, -, rfl⟩ <;> rfl

end

variable {e : SignedNodeEvent}

lemma EventStored.snapshots {r : Except String (Option Nat)}
    (h : EventStored X e sourceId announceP2p c r c') :
    c'.db.nodeSnapshots = c.db.nodeSnapshots ∧ c'.artifacts = c.artifacts := by
  cases h with
  | heartbeat =>
    refine ⟨?_, rfl⟩
    simp only
    split <;> rfl
  | inserted _ _ projection =>
    cases projection <;> exact ⟨rfl, rfl⟩
  | duplicate _ _ projection => cases projection <;> exact ⟨rfl, rfl⟩
  | spaceStored _ _ db₁ hr =>
    refine ⟨?_, rfl⟩
    show db₁.nodeSnapshots = _
    rw [spaceRecord_others hr]
  | _ => exact ⟨rfl, rfl⟩

/-- What the refresh before an event does: nothing unless there is a gap. -/
inductive Refreshed (X : Deployment) (e : SignedNodeEvent) (c : Core) : Core → Prop
  | complete (hgap : c.db.gap e = false) : Refreshed X e c c
  | unreachable (hgap : c.db.gap e = true) (sourceId : Nat) (source : NodeSourceRow)
      (hsource : c.db.sourceOf e = some (sourceId, source))
      (hfetch : c.remote (.signedSnapshot (.http (snapshotUrl source))) = none)
      (audit : List AuditRecord) (status : Table Nat (String × Option String)) (tx : Option Db) :
      Refreshed X e c { c with db := c.db.noted audit status, tx := tx }
  | fetched (hgap : c.db.gap e = true) (sourceId : Nat) (source : NodeSourceRow)
      (hsource : c.db.sourceOf e = some (sourceId, source)) (s : SignedPublicClientSnapshot)
      (hfetch : c.remote (.signedSnapshot (.http (snapshotUrl source))) = some s)
      (r : Except String Bool) (c₁ : Core)
      (hingested : Ingested X s (some sourceId) source.expectedSignerAgentDid true c r c₁)
      (audit : List AuditRecord) (status : Table Nat (String × Option String)) (tx : Option Db) :
      Refreshed X e c { c₁ with db := c₁.db.noted audit status, tx := tx }

/-- How `persist_signed_node_event_with_options` ends. -/
inductive Received (X : Deployment) (e : SignedNodeEvent) (announceP2p : Bool) (c : Core) :
    Except String (Option Nat) → Core → Prop
  | refused (err : String) (h : ¬ Accepts X c.db e) : Received X e announceP2p c (.error err) c
  | taken (h : Accepts X c.db e) (c₁ : Core) (hrefreshed : Refreshed X e c c₁)
      (r : Except String (Option Nat)) (c₂ : Core)
      (hstored : EventStored X e ((c.db.sourceOf e).map Prod.fst) announceP2p c₁ r c₂) :
      Received X e announceP2p c r c₂

section

lemma runs_upsertSpaceRecord {Q : Except String Bool → Core → Prop} (ho : c.tx = some view)
    (he : ∀ e tx, view.spaceRecord X event sourceId = .error e → Q (.error e) { c with tx := tx })
    (hs : view.spaceRecord X event sourceId = .ok none → Q (.ok false) c)
    (hne : ∀ view', view.spaceRecord X event sourceId = .ok (some view') →
      Q (.ok true) { c with tx := some view' }) :
    Runs inst Q (upsertSpaceRecord X event sourceId) c := by
  have hc : { c with tx := some view } = c := by rw [← ho]
  unfold spaceRecord at he hs hne
  unfold upsertSpaceRecord upsertWorldEvent
  cases hi : event.dataKind with
  | spacePresence =>
    rw [hi] at he hs hne
    refine .bind (runs_ofExcept ?_)
    cases hr : X.presenceOfValue event.payload with
    | error e =>
      rw [hr] at he
      exact he e c.tx rfl
    | ok presence =>
      rw [hr] at hs hne
      refine ok (runs_effect (s := .upsertPresence _ _ _) ho fun d => ?_)
      rw [effect_upsertPresence]
      cases ht : view.takesPresence presence with
      | false =>
        simp only [ht, false_eq_true, if_false, forall_const] at hs
        exact hc ▸ hs
      | true => exact hne _ (by simp only [ht, if_true])
  | worldEvent =>
    rw [hi] at he hs hne
    refine .bind (runs_ofExcept ?_)
    cases hr : X.worldEventOfValue (event.payload.index "content") with
    | error e =>
      rw [hr] at he
      exact he e c.tx rfl
    | ok =>
      refine ok (runs_effect (s := .upsertWorldEvent _ _ _ _) ho fun d => ?_)
      rw [effect_upsertWorldEvent]
      rw [hr] at he hs hne
      cases hk : worldEventKey event.payload with
      | none =>
        rw [hk] at he
        exact he _ none rfl
      | some key =>
        rw [hk] at hs hne
        simp only at hs hne ⊢
        cases hold : view.spaceEvents.get? key with
        | some =>
          simp only [hold, isNone_some, false_eq_true, if_false, forall_const] at hs
          exact hc ▸ hs
        | none => exact hne _ (by simp only [hold, isNone_none, if_true])
  | _ =>
    rw [hi] at he
    exact runs_fail (he _ c.tx rfl)

/-- `persist_event`, which stores both the record and its event or neither. -/
lemma runs_persistEvent {Q : Except String (Option UiEventRow) → Core → Prop}
    (herr : ∀ err tx, c.db.spaceRecord X e.payload sourceId = .error err →
      Q (.error err) { c with tx := tx })
    (hst : c.db.spaceRecord X e.payload sourceId = .ok none → Q (.ok none) { c with tx := none })
    (hta : ∀ db₁ row, c.db.spaceRecord X e.payload sourceId = .ok (some db₁) →
      db₁.uiEvents.get? e.payload.eventId = some row → Q (.ok none) { c with tx := none })
    (hsto : ∀ db₁ cursor now id, c.db.spaceRecord X e.payload sourceId = .ok (some db₁) →
      db₁.uiEvents.get? e.payload.eventId = none →
      Q (.ok (some ((spaceEventRecord e.payload sourceId).row cursor now)))
        { c with
          db := (db₁.storeUiEvent (spaceEventRecord e.payload sourceId) cursor now).enqueue id
            (if announceP2p then some (eventOutbox e) else none)
          tx := none }) : Runs inst Q (persistEvent X e sourceId announceP2p) c := by
  unfold persistEvent
  refine .bind (runs_begin (ok (.bind (runs_upsertSpaceRecord rfl ?_ ?_ ?_))))
  · exact fun err tx h => herr err tx h
  · exact fun h => ok (.bind (runs_rollback (ok (runs_pure (hst h)))))
  · intro db₁ hr
    refine ok (.bind (runs_effect (s := .insertUiEvent _) rfl fun d => ?_))
    rw [effect_insertUiEvent]
    cases hold : db₁.uiEvents.get? (spaceEventRecord e.payload sourceId).eventId with
    | some row => exact ok (.bind (runs_rollback (ok (runs_pure (hta db₁ row hr hold)))))
    | none =>
      refine ok (.bind (runs_outboxIf rfl fun id => ?_))
      refine ok (.bind (runs_commit rfl (ok (runs_pure ?_))))
      have hq := hsto db₁ d.cursor d.now id hr hold
      cases announceP2p with
      | true => exact hq
      | false => exact hq

lemma runs_insertUiEventInner {record : UiEventRecord}
    {Q : Except String (Option UiEventRow) → Core → Prop}
    (ha : ∀ row, c.db.uiEvents.get? record.eventId = some row → Q (.ok none) { c with tx := none })
    (hn : ∀ cursor now id audit, c.db.uiEvents.get? record.eventId = none →
      Q (.ok (some (record.row cursor now)))
        { c with
          db := ((c.db.storeUiEvent record cursor now).enqueue id outbox).noted audit c.db.syncStatus
          tx := none }) : Runs inst Q (insertUiEventInner record outbox) c := by
  unfold insertUiEventInner
  refine .bind (runs_begin (ok ?_))
  refine .bind (runs_effect (s := .insertUiEvent record) rfl fun d => ?_)
  rw [effect_insertUiEvent]
  cases hold : c.db.uiEvents.get? record.eventId with
  | some row =>
    refine ok (.bind (runs_outboxIf rfl fun id => ?_))
    refine ok (.bind (runs_commit rfl (ok ?_)))
    refine .bind (runs_pure (ok (runs_pure ?_)))
    have hd : c.db.storeUiEvent record d.cursor d.now = c.db := by
      unfold storeUiEvent
      rw [insertNew_of_some hold]
    have hq := ha row hold
    simp only [isNone_some, false_eq_true, if_false, isSome_none, hd]
    exact hq
  | none =>
    refine ok (.bind (runs_outboxIf rfl fun id => ?_))
    refine ok (.bind (runs_commit rfl (ok ?_)))
    refine .bind (runs_write fun now tx ht => ?_)
    cases ht rfl
    refine ok (runs_pure ?_)
    exact hn d.cursor d.now id (insertAudit record :: c.db.ingestAudit) hold

lemma runs_materialize {projection : Option (DataKind × Json)} (hi : c.tx = none)
    (h : ∀ now, Q (.ok ())
      { c with db := c.db.materialize event sourceId now projection, tx := none }) :
    Runs inst Q (materializeEventProjection event sourceId projection) c := by
  cases projection with
  | none =>
    refine runs_pure ?_
    have h0 := h 0
    rw [← hi] at h0
    exact h0
  | some =>
    refine runs_write fun now tx ht => ?_
    cases ht hi
    exact h now

lemma runs_republish {row : Option UiEventRow} (h : Q (.ok ()) c) :
    Runs inst Q (republish eventId row) c := by
  cases row with
  | none => exact runs_pure h
  | some => exact runs_publish h

lemma trustedProjection_of_space (hs : isSpaceEvent e = true) :
    trustedProjection X e.payload = .ok none := by
  unfold isSpaceEvent at hs
  unfold trustedProjection eventProjection
  rcases or_eq_true_iff.1 hs with h | h
  · rw [of_decide_eq_true h]
  · rw [of_decide_eq_true h]

lemma runs_persistConfirmed (hp : e.payload.provisionalPolicy ≠ .ephemeralOnly) :
    Runs inst (EventStored X e sourceId announceP2p c)
      (persistConfirmed X e sourceId (announceP2p && X.p2p)) c := by
  unfold persistConfirmed insertEvent
  refine .bind (runs_ofExcept ?_)
  cases ht : trustedProjection X e.payload with
  | error err => exact .unprojected hp err ht
  | ok projection =>
    refine ok (.bind ?_)
    cases hs : isSpaceEvent e with
    | true =>
      rw [trustedProjection_of_space hs] at ht
      cases ht
      refine runs_persistEvent ?_ ?_ ?_ ?_
      · exact fun err tx hr => .spaceUnread hp hs err hr tx
      · exact fun hr => ok (runs_pure (.spaceStale hp hs hr))
      · exact fun db₁ row hr hold => ok (runs_pure (.spaceTaken hp hs db₁ hr row hold))
      · intro db₁ cursor now id hr hn
        refine ok (.bind (runs_pure (ok (.bind (runs_publish ?_)))))
        exact ok (runs_pure (.spaceStored hp hs db₁ hr hn cursor now id))
    | false =>
      refine runs_insertUiEventInner ?_ ?_
      · intro row hold
        refine ok (.bind (runs_materialize rfl fun now => ?_))
        refine ok (.bind (runs_read (r := .getUiEventById _)
          (ok (.bind (runs_republish ?_)))))
        exact ok (runs_pure (.duplicate hp hs projection ht row hold now))
      · intro cursor now id audit hn
        refine ok (.bind (runs_materialize rfl fun now' => ?_))
        refine ok (.bind (runs_publish (ok (runs_pure ?_))))
        exact .inserted hp hs projection ht hn cursor now now' id audit

lemma runs_persistEphemeral (announceP2p : Bool)
    (hp : e.payload.provisionalPolicy = .ephemeralOnly) :
    Runs inst (EventStored X e sourceId announceP2p c)
      (persistEphemeral X e.payload sourceId) c := by
  unfold persistEphemeral
  split
  · rename_i hk
    refine .bind (runs_ofExcept ?_)
    cases hr : X.nodePresenceOfValue e.payload.payload with
    | error err => exact .heartbeatUnread hp hk err hr
    | ok presence =>
      unfold persistNodePresence
      have he : EventStored X e sourceId announceP2p c (.ok none) _ :=
        .heartbeat hp hk presence hr
      refine ok (.bind (.bind (runs_begin (ok (.bind ?_)))))
      refine runs_effect (s := .upsertNodePresence _ _) rfl fun d => ?_
      rw [effect_upsertNodePresence]
      cases ht : c.db.takesNodePresence presence with
      | false =>
        refine ok (.bind (runs_commit rfl (ok (runs_pure (ok (runs_pure ?_))))))
        simp only [ht, false_eq_true, if_false] at he
        exact he
      | true =>
        refine ok (.bind (runs_commit rfl (ok (runs_pure (ok ?_)))))
        refine .bind (runs_publish (ok (runs_pure ?_)))
        simp only [ht, if_true] at he
        exact he
  · rename_i hk
    exact .bind (runs_publish (ok (runs_pure (.ephemeral hp hk))))

/-- The refresh is over whatever becomes of it. -/
lemma runs_backfillIfGap (h : ∀ c₁, Refreshed X e c c₁ → Q (.ok ()) c₁) :
    Runs inst Q (backfillIfGap X (c.db.sourceOf e) e.payload (expectedOf (c.db.sourceOf e))
      (c.db.maxUiEventSourceSeq e.payload.nodeId ((c.db.sourceOf e).map Prod.fst))) c := by
  -- the code looks for the gap and then for the source
  cases hg : c.db.gap e with
  | false =>
    have he : Runs inst Q (pure ()) c := runs_pure (h c (.complete hg))
    unfold gap at hg
    unfold backfillIfGap
    cases hq : c.db.maxUiEventSourceSeq e.payload.nodeId ((c.db.sourceOf e).map Prod.fst) with
    | none => exact he
    | some lastSeq =>
      simp only
      split
      · rename_i ha
        cases hs : c.db.sourceOf e with
        | none => exact he
        | some =>
          rw [hs] at hg hq
          simp only [isSome_some, Bool.true_and, hq, any_some, ha] at hg
          cases hg
      · exact he
  | true =>
    have hg' := hg
    unfold gap at hg'
    obtain ⟨ho, ha⟩ := Bool.and_eq_true_iff.1 hg'
    obtain ⟨⟨sourceId, source⟩, hs⟩ := isSome_iff_exists.1 ho
    obtain ⟨_, hq, ha⟩ := (any_eq_true _ _).1 ha
    unfold backfillIfGap
    rw [hq]
    simp only [ha, if_true]
    unfold tryBackfillGap
    rw [hs]
    refine .bind (Runs.attempt (.bind (runs_fetch (f := .signedSnapshot _) ?_ ?_)))
    · intro s hf
      refine ok (Runs.mono (runs_ingestSignedSnapshot X inst c s _ _ true) ?_)
      intro r c₁ hin
      refine ok (.bind (runs_writeAnyway fun now tx ht => ?_))
      refine ok (runs_writeAnyway fun now' tx' ht' => ?_)
      exact h _ (.fetched hg sourceId source hs s hf r c₁ hin _ _ tx')
    · intro hf
      refine ok (.bind (runs_writeAnyway fun now tx ht => ?_))
      refine ok (runs_writeAnyway fun now' tx' ht' => ?_)
      exact h _ (.unreachable hg sourceId source hs hf _ _ tx')

lemma runs_persistSignedNodeEvent (X : Deployment) (inst : Nat) (c : Core) (e : SignedNodeEvent)
    (announceP2p : Bool) : Runs inst (Received X e announceP2p c)
      (persistSignedNodeEventWithOptions X e none none announceP2p) c := by
  unfold persistSignedNodeEventWithOptions resolveSource
  refine .bind (runs_read (r := .findNodeSourceForIdentity _ _) (ok ?_))
  refine .bind (runs_bailIf (fun ht => ?_) fun ht => ok ?_)
  · refine .refused _ fun ha => ?_
    obtain ⟨source, ho, hne⟩ := (any_eq_true _ _).1 ht
    exact absurd (ha.1 source ho) (of_decide_eq_true hne)
  have hc : Active (c.db.sourceOf e) := by
    intro source ho
    by_contra hne
    exact ht ((any_eq_true _ _).2 ⟨source, ho, decide_eq_true hne⟩)
  refine .bind (runs_ofExcept ?_)
  change Next inst _ _ (verifySignedNodeEvent X.toCrypto e (expectedOf (c.db.sourceOf e))) c
  cases hv : verifySignedNodeEvent X.toCrypto e (expectedOf (c.db.sourceOf e)) with
  | error err =>
    refine Received.refused err fun ha => ?_
    cases hv.symm.trans ha.2.1
  | ok _ =>
    refine ok (.bind (runs_ofExcept ?_))
    cases hva : validateEvent X e with
    | error err =>
      refine Received.refused err fun ha => ?_
      cases hva.symm.trans ha.2.2
    | ok _ =>
      have ha : Accepts X c.db e := ⟨hc, hv, hva⟩
      refine ok (.bind (runs_read (r := .maxUiEventSourceSeq _ _) (ok ?_)))
      refine .bind (runs_backfillIfGap fun c₁ hr => ok ?_)
      split
      · rename_i hp
        refine Runs.mono (runs_persistEphemeral announceP2p hp) fun r c₂ hs => ?_
        exact .taken ha c₁ hr r c₂ hs
      · rename_i hp
        refine Runs.mono (runs_persistConfirmed hp) fun r c₂ hs => ?_
        exact .taken ha c₁ hr r c₂ hs

end

/-! ## Turns -/

def Submitted (X : Deployment) (c c' : Core) : Submit → Prop
  | .event e announceP2p => ∃ r, Received X e announceP2p c r c'
  | .snapshot s sourceId expected announceP2p =>
    ∃ r, Ingested X s sourceId expected announceP2p c r c'

lemma Submitted.snapshots {submit : Submit} (h : Submitted X c c' submit) :
    c'.db.nodeSnapshots = c.db.nodeSnapshots ∧ c'.artifacts = c.artifacts ∨
      ∃ s sourceId expected announceP2p r c₁, Ingested X s sourceId expected announceP2p c r c₁ ∧
        c'.db.nodeSnapshots = c₁.db.nodeSnapshots ∧ c'.artifacts = c₁.artifacts := by
  cases submit with
  | snapshot s sourceId expected announceP2p =>
    obtain ⟨r, h⟩ := h
    exact .inr ⟨s, sourceId, expected, announceP2p, r, c', h, rfl, rfl⟩
  | event =>
    obtain ⟨r, h⟩ := h
    cases h with
    | refused => exact .inl ⟨rfl, rfl⟩
    | taken _ _ he _ _ hs =>
      obtain ⟨hr, hf⟩ := hs.snapshots
      rw [hr, hf]
      cases he with
      | complete | unreachable => exact .inl ⟨rfl, rfl⟩
      | fetched _ sourceId _ _ s _ r c₀ hin =>
        exact .inr ⟨s, some sourceId, _, true, r, c₀, hin, rfl, rfl⟩

lemma runs_submit (X : Deployment) (inst : Nat) (c : Core) (submit : Submit) :
    Runs inst (fun _ c' => Submitted X c c' submit) (submit.prog X) c := by
  cases submit with
  | event e announceP2p =>
    refine .bind (Runs.mono (runs_persistSignedNodeEvent X inst c e announceP2p) ?_)
    intro r _ h
    cases r with
    | ok => exact ok (runs_pure ⟨_, h⟩)
    | error => exact ⟨_, h⟩
  | snapshot s sourceId expected announceP2p =>
    refine .bind (Runs.mono
      (runs_ingestSignedSnapshot X inst c s sourceId expected announceP2p) ?_)
    intro r _ h
    cases r with
    | ok => exact ok (runs_pure ⟨_, h⟩)
    | error => exact ⟨_, h⟩

def Core.before (w : World) (turn : Turn) : Core := (w.before turn).core turn.inst

lemma turn_submitted {w : World} (ha : w.Alone) (turn : Turn) :
    (w.turn X turn).Alone ∧ ∃ c', Submitted X (.before w turn) c' turn.submit ∧
      (w.turn X turn).core turn.inst = { c' with tx := none } := by
  have hca := call_core (w := w.before turn) ha (runs_submit X turn.inst _ turn.submit)
  obtain ⟨hl, _, c', hs, hc⟩ := hca
  exact ⟨hl, c', hs, hc⟩

lemma alone_turns (X : Deployment) {w : World} (ha : w.Alone) (turns : List Turn) :
    (w.turns X turns).Alone := by
  induction turns generalizing w with
  | nil => exact ha
  | cons turn _ ih => exact ih (turn_submitted ha turn).1

lemma exists_turn_concat (Q : List Turn → Turn → Prop) (turns : List Turn) (turn : Turn) :
    (∃ done turn' post, turns ++ [turn] = done ++ turn' :: post ∧ Q done turn') ↔
      (∃ done turn' post, turns = done ++ turn' :: post ∧ Q done turn') ∨ Q turns turn := by
  constructor
  · rintro ⟨done, turn', post, ht, hq⟩
    rcases eq_nil_or_concat post with rfl | ⟨post', _, rfl⟩
    · obtain ⟨rfl, hl⟩ := append_inj' ht rfl
      cases hl
      exact .inr hq
    · rw [concat_eq_append, ← cons_append, ← append_assoc] at ht
      obtain ⟨rfl, -⟩ := append_inj' ht rfl
      exact .inl ⟨done, turn', post', rfl, hq⟩
  · rintro (⟨done, turn', post, rfl, hq⟩ | hq)
    · exact ⟨done, turn', post ++ [turn], by simp, hq⟩
    · exact ⟨turns, turn, [], rfl, hq⟩

lemma turns_concat (X : Deployment) (w : World) (turns : List Turn) (turn : Turn) :
    w.turns X (turns ++ [turn]) = (w.turns X turns).turn X turn := by
  unfold World.turns
  rw [foldl_append]
  rfl

end WattGateway.Gateway
