import WattGateway.Gateway.Effects

/-!
# What a submission may change

Tables only grow: no row of an event, of the outbox or of a world event is changed or deleted, and
the sequence numbers and times of the others never fall (`Submitted.grows`). The targets of a
submission are the rows named by what it carries.
-/

namespace WattGateway.Gateway

open Option Table SpaceItem Db

variable {e : SignedNodeEvent} {X : Deployment} {event : NodeEventPayload} {key : String × String}
  {sourceId : Option Nat} {announceP2p : Bool}

/-! ## Growth -/

/-- The tables after some submissions, seen from those before. -/
structure Db.Grows (db db' : Db) : Prop where
  sources : db'.nodeSources = db.nodeSources
  uiEvents : ∀ id row, db.uiEvents.get? id = some row → db'.uiEvents.get? id = some row
  outbox : ∀ key row, db.p2pOutbox.get? key = some row → db'.p2pOutbox.get? key = some row
  spaceEvents : ∀ key row, db.spaceEvents.get? key = some row → db'.spaceEvents.get? key = some row
  presences : ∀ key row, db.spacePresence.get? key = some row →
    ∃ row', db'.spacePresence.get? key = some row' ∧ row.seq ≤ row'.seq
  projections : ∀ key row, db.projectionRows.get? key = some row →
    ∃ row', db'.projectionRows.get? key = some row' ∧ row.generatedAt ≤ row'.generatedAt
  snapshots : ∀ nodeId row, db.nodeSnapshots.get? nodeId = some row →
    ∃ row', db'.nodeSnapshots.get? nodeId = some row' ∧ row.generatedAt ≤ row'.generatedAt

namespace Db.Grows

lemma refl (db : Db) : db.Grows db where
  sources := rfl
  uiEvents _ _ h := h
  outbox _ _ h := h
  spaceEvents _ _ h := h
  presences _ row h := ⟨row, h, Nat.le_refl _⟩
  projections _ row h := ⟨row, h, Int.le_refl _⟩
  snapshots _ row h := ⟨row, h, Int.le_refl _⟩

lemma trans {db db₁ db₂ : Db} (h : db.Grows db₁) (h' : db₁.Grows db₂) : db.Grows db₂ where
  sources := h'.sources.trans h.sources
  uiEvents id row hr := h'.uiEvents id row (h.uiEvents id row hr)
  outbox key row hr := h'.outbox key row (h.outbox key row hr)
  spaceEvents key row hr := h'.spaceEvents key row (h.spaceEvents key row hr)
  presences key row hr := by
    obtain ⟨row₁, hr₁, hle₁⟩ := h.presences key row hr
    obtain ⟨row₂, hr₂, hle₂⟩ := h'.presences key row₁ hr₁
    exact ⟨row₂, hr₂, Nat.le_trans hle₁ hle₂⟩
  projections key row hr := by
    obtain ⟨row₁, hr₁, hle₁⟩ := h.projections key row hr
    obtain ⟨row₂, hr₂, hle₂⟩ := h'.projections key row₁ hr₁
    exact ⟨row₂, hr₂, Int.le_trans hle₁ hle₂⟩
  snapshots nodeId row hr := by
    obtain ⟨row₁, hr₁, hle₁⟩ := h.snapshots nodeId row hr
    obtain ⟨row₂, hr₂, hle₂⟩ := h'.snapshots nodeId row₁ hr₁
    exact ⟨row₂, hr₂, Int.le_trans hle₁ hle₂⟩

end Db.Grows

section

variable (db : Db)

lemma grows_storeSnapshot {r : SnapshotRecord} (ht : db.takesSnapshot r = true) (now : Nat) :
    db.Grows (db.storeSnapshot r now) := by
  refine { Db.Grows.refl db with snapshots := fun nodeId row hr => ?_ }
  unfold storeSnapshot
  rw [get?_upsert]
  by_cases hno : nodeId = r.nodeId
  · rw [if_pos hno]
    unfold takesSnapshot at ht
    rw [← hno, hr] at ht
    exact ⟨_, rfl, of_decide_eq_true ht⟩
  · rw [if_neg hno]
    exact ⟨row, hr, Int.le_refl _⟩

lemma grows_enqueue (id : Nat) (outbox : Option OutboxRecord) : db.Grows (db.enqueue id outbox) := by
  refine { Db.Grows.refl db with outbox := fun key row hr => ?_ }
  unfold enqueue
  cases outbox with
  | none => exact hr
  | some => simp [hr]

lemma grows_storeUiEvent (r : UiEventRecord) (cursor now : Nat) :
    db.Grows (db.storeUiEvent r cursor now) := by
  refine { Db.Grows.refl db with uiEvents := fun id row hr => ?_ }
  unfold storeUiEvent
  simp [hr]

lemma grows_storePresence {presence : SignedSpacePresence}
    (ht : db.takesPresence presence = true) (nodeId : String) (sourceId : Option Nat) :
    db.Grows (db.storePresence presence nodeId sourceId) := by
  refine { Db.Grows.refl db with presences := fun key row hr => ?_ }
  unfold storePresence
  rw [get?_upsert]
  by_cases hk : key = presenceKey presence
  · rw [if_pos hk]
    unfold takesPresence at ht
    rw [← hk, hr] at ht
    exact ⟨_, rfl, Nat.le_of_lt (of_decide_eq_true ht)⟩
  · rw [if_neg hk]
    exact ⟨row, hr, Nat.le_refl _⟩

lemma grows_storeNodePresence (presence : NodePresence) (sourceId : Option Nat) :
    db.Grows (db.storeNodePresence presence sourceId) :=
  { Db.Grows.refl db with }

lemma grows_storeWorldEvent (hn : db.spaceEvents.get? key = none)
    (world : WorldEvent) (payload : Json) (nodeId : String) (sourceId : Option Nat) :
    db.Grows (db.storeWorldEvent key world payload nodeId sourceId) := by
  refine { Db.Grows.refl db with spaceEvents := fun key' row hr => ?_ }
  unfold storeWorldEvent
  rw [get?_upsert]
  by_cases hk : key' = key
  · rw [hk, hn] at hr
    cases hr
  · rw [if_neg hk]
    exact hr

lemma grows_project (r : ProjectionRecord) (now : Nat) : db.Grows (db.project r now) := by
  refine { Db.Grows.refl db with projections := fun key row hr => ?_ }
  unfold project
  rw [get?_upsert]
  by_cases hk : key = r.key
  · rw [if_pos hk, ← hk, hr]
    refine ⟨_, rfl, ?_⟩
    unfold ProjectionRecord.row
    simp only
    split
    · rename_i hle
      exact hle
    · exact Int.le_refl _
  · rw [if_neg hk]
    exact ⟨row, hr, Int.le_refl _⟩

lemma grows_noted (audit : List AuditRecord) (status : Table Nat (String × Option String)) :
    db.Grows (db.noted audit status) :=
  { Db.Grows.refl db with }

end

section

variable {snapshot : PublicClientSnapshot} {signerAgentDid : String} {db db' : Db}

lemma store_grows {item : SpaceItem} {cursor now : Nat}
    (h : item.store X sourceId snapshot signerAgentDid db cursor now = .ok db') : db.Grows db' := by
  cases item with
  | presence p =>
    unfold store at h
    cases h
    split
    · rename_i ht
      exact (grows_storePresence db ht _ _).trans (grows_storeUiEvent _ _ _ _)
    · exact .refl db
  | nodePresence =>
    unfold store at h
    cases h
    split
    · exact (grows_storeNodePresence db _ _).trans (grows_storeUiEvent _ _ _ _)
    · exact .refl db
  | worldEvent payload =>
    obtain ⟨_, _, -, -, ⟨-, rfl⟩ | ⟨hn, _, _, -, -, rfl⟩⟩ := store_worldEvent h
    · exact .refl db'
    · exact (grows_storeWorldEvent db (isNone_iff_eq_none.1 hn) _ _ _ _).trans
        (grows_storeUiEvent _ _ _ _)

lemma SpaceStored.grows {items : List SpaceItem}
    (h : SpaceStored X sourceId snapshot signerAgentDid items db db') : db.Grows db' := by
  induction items generalizing db with
  | nil =>
    cases h
    exact .refl _
  | cons _ _ ih =>
    obtain ⟨_, _, _, hs, hr⟩ := h
    exact (store_grows hs).trans (ih hr)

lemma Projected.grows {rs : List ProjectionRecord} (h : Projected rs db db') : db.Grows db' := by
  induction rs generalizing db with
  | nil =>
    cases h
    exact .refl _
  | cons r _ ih =>
    obtain ⟨now, hr⟩ := h
    exact (grows_project db r now).trans (ih hr)

lemma materialize_grows (db : Db) (event : NodeEventPayload) (sourceId : Option Nat) (now : Nat)
    (projection : Option (DataKind × Json)) :
    db.Grows (db.materialize event sourceId now projection) := by
  cases projection with
  | none => exact .refl db
  | some => exact grows_project db _ now

lemma spaceRecord_grows (h : db.spaceRecord X event sourceId = .ok (some db')) : db.Grows db' := by
  rcases spaceRecord_eq_some h with ⟨p, -, -, ht, rfl⟩ | ⟨key, _, -, -, -, hn, rfl⟩
  · exact grows_storePresence db ht _ _
  · exact grows_storeWorldEvent db hn _ _ _ _

variable {c c' : Core}

lemma Ingested.grows {s : SignedPublicClientSnapshot} {expected : Option String}
    {r : Except String Bool}
    (h : Ingested X s sourceId expected announceP2p c r c') : c.db.Grows c'.db := by
  have hin : c.db.takesSnapshot (snapshotRecord s sourceId) = true → ∀ now id,
      c.db.Grows (c.db.ingest X s sourceId announceP2p now id) := fun hne now id =>
    (grows_storeSnapshot c.db hne now).trans (grows_enqueue _ id _)
  cases h with
  | refused => exact .refl _
  | stale => exact .refl _
  | spaceFailed _ hne _ now id => exact hin hne now id
  | applied _ hne now id _ _ hs hp =>
    exact (hin hne now id).trans (hs.grows.trans hp.grows)

lemma EventStored.grows {r : Except String (Option Nat)}
    (h : EventStored X e sourceId announceP2p c r c') : c.db.Grows c'.db := by
  cases h with
  | heartbeat _ _ presence =>
    show c.db.Grows (if _ then _ else _)
    split
    · exact grows_storeNodePresence c.db presence sourceId
    · exact .refl _
  | inserted _ _ _ _ _ cursor now _ id audit =>
    exact (grows_storeUiEvent c.db _ cursor now).trans ((grows_enqueue _ id _).trans
      ((grows_noted _ audit _).trans (materialize_grows _ _ _ _ _)))
  | duplicate => exact materialize_grows _ _ _ _ _
  | spaceStored _ _ db₁ hr _ cursor now id =>
    exact (spaceRecord_grows hr).trans
      ((grows_storeUiEvent db₁ _ cursor now).trans (grows_enqueue _ id _))
  | _ => exact .refl _

lemma Refreshed.grows (h : Refreshed X e c c') : c.db.Grows c'.db := by
  cases h with
  | complete => exact .refl _
  | unreachable _ _ _ _ _ audit status => exact grows_noted _ audit status
  | fetched _ _ _ _ _ _ _ _ hin audit status =>
    exact hin.grows.trans (grows_noted _ audit status)

lemma Submitted.grows {submit : Submit} (h : Submitted X c c' submit) : c.db.Grows c'.db := by
  cases submit with
  | snapshot =>
    obtain ⟨r, h⟩ := h
    exact h.grows
  | event =>
    obtain ⟨_, h⟩ := h
    cases h with
    | refused => exact .refl _
    | taken _ _ hr _ _ hs => exact hr.grows.trans hs.grows

end

lemma turn_grows {w : World} (ha : w.Alone) (turn : Turn) : w.db.Grows (w.turn X turn).db := by
  obtain ⟨-, c', hs, hc⟩ := turn_submitted (X := X) ha turn
  have hd : (w.turn X turn).db = c'.db := congrArg Core.db hc
  rw [hd]
  exact hs.grows

lemma turns_grow {w : World} (ha : w.Alone) (turns : List Turn) :
    w.db.Grows (w.turns X turns).db := by
  induction turns generalizing w with
  | nil => exact .refl _
  | cons turn _ ih => exact (turn_grows ha turn).trans (ih (turn_submitted ha turn).1)

/-- Whatever is submitted, the tables only grow. -/
theorem tables_grow (X : Deployment) (sources : Sources) (turns later : List Turn) :
    ((World.start sources).turns X turns).db.Grows
      ((World.start sources).turns X (turns ++ later)).db := by
  unfold World.turns
  rw [List.foldl_append]
  exact turns_grow (alone_turns X (alone_start sources) turns) later

/-! ### What growth keeps -/

def Db.Shows (db : Db) (r : ProjectionRecord) : Prop :=
  ∃ row, db.projectionRows.get? r.key = some row ∧
    normalizeGeneratedAtMillis r.generatedAt ≤ row.generatedAt

section

variable {db db' : Db}

lemma Db.Shows.grows {r : ProjectionRecord} (h : db.Shows r) (hg : db.Grows db') :
    db'.Shows r := by
  obtain ⟨row, hr, hle⟩ := h
  obtain ⟨row', hr', hle'⟩ := hg.projections r.key row hr
  exact ⟨row', hr', Int.le_trans hle hle'⟩

lemma shows_project (db : Db) (r : ProjectionRecord) (now : Nat) : (db.project r now).Shows r := by
  unfold Db.Shows project
  rw [get?_upsert, if_pos rfl]
  refine ⟨_, rfl, ?_⟩
  unfold ProjectionRecord.row
  cases db.projectionRows.get? r.key with
  | none => exact Int.le_refl _
  | some row =>
    simp only
    split
    · exact Int.le_refl _
    · rename_i hlt
      exact Int.le_of_lt (Int.not_le.1 hlt)

lemma sourceOf_of_sources (h : db'.nodeSources = db.nodeSources) (e : SignedNodeEvent) :
    db'.sourceOf e = db.sourceOf e := by
  unfold sourceOf findNodeSourceForIdentity
  rw [h]

lemma Accepts.congr (h : Accepts X db e)
    (hs : db'.nodeSources = db.nodeSources) : Accepts X db' e := by
  unfold Accepts
  rw [sourceOf_of_sources hs]
  exact h

lemma visible_of_sources (h : db'.nodeSources = db.nodeSources) (sourceId : Option Nat) :
    db'.visible sourceId = db.visible sourceId := by
  unfold visible
  rw [h]

lemma takesPresence_of_grows {p : SignedSpacePresence} (h : db.Grows db')
    (ht : db'.takesPresence p = true) : db.takesPresence p = true := by
  unfold takesPresence at ht ⊢
  cases hr : db.spacePresence.get? (presenceKey p) with
  | none => rfl
  | some row =>
    obtain ⟨_, hr', hle⟩ := h.presences _ row hr
    rw [hr'] at ht
    exact decide_eq_true (Nat.lt_of_le_of_lt hle (of_decide_eq_true ht))

lemma spaceRecord_of_grows {db₁ : Db}
    (h : db.Grows db') (hne : db'.spaceRecord X event sourceId = .ok (some db₁)) :
    ∃ db₀, db.spaceRecord X event sourceId = .ok (some db₀) := by
  rcases spaceRecord_eq_some hne with ⟨p, hi, hp, ht, -⟩ | ⟨key, world, hi, hk, hw, hno, -⟩
  · refine ⟨db.storePresence p event.nodeId sourceId, ?_⟩
    simp only [spaceRecord, hi, hp, takesPresence_of_grows h ht, if_true]
  · have hold : db.spaceEvents.get? key = none := by
      cases hr : db.spaceEvents.get? key with
      | none => rfl
      | some row => cases hno.symm.trans (h.spaceEvents key row hr)
    refine ⟨db.storeWorldEvent key world event.payload event.nodeId sourceId, ?_⟩
    simp only [spaceRecord, hi, hk, hw, hold, isNone_none, if_true]

end

/-! ## Targets -/

section

variable (X : Deployment)

def SpaceItem.targets : SpaceItem → List Target
  | .presence p => [.presence (presenceKey p), .uiEvent (presenceEventId p)]
  | .nodePresence p => [.nodePresence (p.nodeId, p.agentDid), .uiEvent (nodePresenceEventId p)]
  | .worldEvent payload =>
    .spaceEvent ((payload.index "network_id").asStr, (payload.index "announcement_id").asStr) ::
      (X.announcementOfValue payload).toOption.toList.map fun announcement =>
        .uiEvent ("world-event:" ++ announcement.networkId ++ ":" ++ announcement.announcementId)

def snapshotTargets (s : SignedPublicClientSnapshot) : List Target :=
  .snapshot s.payload.nodeId :: .outbox (snapshotOutbox s).dedupeKey ::
    (spaceItems X s.payload s.signerAgentDid).flatMap (targets X)

def spaceTarget (e : SignedNodeEvent) : Option Target :=
  match e.payload.dataKind with
  | .spacePresence => (X.presenceOfValue e.payload.payload).toOption.map fun presence =>
      .presence (presenceKey presence)
  | .worldEvent => some (.spaceEvent ((e.payload.payload.index "network_id").asStr,
      (e.payload.payload.index "announcement_id").asStr))
  | .presence => (X.nodePresenceOfValue e.payload.payload).toOption.map fun presence =>
      .nodePresence (presence.nodeId, presence.agentDid)
  | _ => none

def eventTargets (e : SignedNodeEvent) : List Target :=
  .uiEvent e.payload.eventId :: .outbox (eventOutbox e).dedupeKey :: (spaceTarget X e).toList

end

lemma worldEventKey_eq_some {payload : Json}
    (h : worldEventKey payload = some key) :
    ((payload.index "network_id").asStr, (payload.index "announcement_id").asStr) =
      (some key.1, some key.2) := by
  unfold worldEventKey at h
  split at h
  · rename_i hn ha
    cases h
    rw [hn, ha]
  · cases h

/-- The rows that a submission may go into, apart from projections and from what it makes the
gateway fetch. -/
def Submit.targets (X : Deployment) : Submit → List Target
  | .event e _ => eventTargets X e
  | .snapshot s _ _ _ => snapshotTargets X s

end WattGateway.Gateway
