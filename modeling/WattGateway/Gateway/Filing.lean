import WattGateway.Gateway.ReadModels
import WattGateway.Lib.Stages

/-!
# Snapshots between their row and their read models

`Stage` says how far a call is with a snapshot that decodes: the row is in its open transaction, or it
is committed and these projections are still to be written. Every call goes through these stages and
rests outside of them (`call_idles`).
-/

namespace WattGateway.Gateway

open Prog Leads Query

/-! ## Stages -/

def SnapshotRecord.seeds (X : Deployment) (r : SnapshotRecord) : List ProjectionRecord :=
  snapshotProjectionSeeds r.sourceId r.payload X

inductive Stage where
  | idle
  | staged (r : SnapshotRecord)
  | filing (r : SnapshotRecord) (p : ProjectionRecord) (rest : List ProjectionRecord)

/-- The row is committed, and these projections are to be written. -/
def Stage.file (r : SnapshotRecord) : List ProjectionRecord → Stage
  | [] => .idle
  | p :: rest => .filing r p rest

def Query.applied : (q : Query) → q.Result → Option SnapshotRecord
  | .stmt (.upsertSnapshot r), applied => if applied then some r else none
  | _, _ => none

def Query.projection? : Query → Option ProjectionRecord
  | .write (.upsertProjectionRow p) => some p
  | _ => none

variable {q : Query}

lemma Query.projection?_eq_some {p : ProjectionRecord} (h : q.projection? = some p) :
    q = .write (.upsertProjectionRow p) := by
  unfold projection? at h
  split at h
  · cases h
    rfl
  · cases h

def Query.isCommit : Query → Bool
  | .commit => true
  | _ => false

/-- The row of a snapshot has been committed. One that does not decode has no further stage: its call
fails in the space transaction. -/
def Stage.committed (X : Deployment) (r : SnapshotRecord) : Stage :=
  if r.payload.decodes X then .file r (r.seeds X) else .idle

def Stage.hear (X : Deployment) (stage : Stage) (q : Query) : Ans q → Stage
  | .error _ => .idle
  | .ok x =>
    match q.applied x, stage with
    | some r, _ => .staged r
    | none, .idle => .idle
    | none, .staged r => if q.isCommit then .committed X r else .staged r
    | none, .filing r p rest => if q.projection?.isSome then .file r rest else .filing r p rest

/-- What a call asks in a stage: a staged snapshot is announced and committed, and one whose row is
committed is followed by its projections in their order and by no other. -/
def Stage.Allows : Stage → Query → Prop
  | .idle, _ => True
  | .staged _, q => q = .commit ∨ ∃ r, q = .stmt (.insertP2pOutbox r)
  | .filing _ p _, q => (∀ r, q ≠ .stmt (.upsertSnapshot r)) ∧ ∀ p', q.projection? = some p' → p' = p

def watch (X : Deployment) : Watch Empty Query Ans Stage where
  start := .idle
  next stage entry :=
    match entry with
    | .did c => c.elim
    | .heard q a => stage.hear X q a
  allows := Stage.Allows

/-! ## Programs that rest -/

section

variable {X : Deployment} {α : Type}

/-- The program starts and ends without a snapshot under way. -/
abbrev Idles (X : Deployment) (p : Proc α) : Prop := p.Rests (watch X) .idle

def Query.Plain (q : Query) : Prop := ∀ r, q ≠ .stmt (.upsertSnapshot r)

lemma Query.Plain.applied (hq : q.Plain) (x : q.Result) : q.applied x = none := by
  unfold Query.applied
  split
  · exact absurd rfl (hq _)
  · rfl

def Query.storesSnapshot : Query → Bool
  | .stmt (.upsertSnapshot _) => true
  | _ => false

section

variable (h : q.storesSnapshot = false)
include h

lemma Query.plain_of : q.Plain := by
  rintro r rfl
  cases h

lemma idles_query : Idles X (query q) := by
  have hq := plain_of h
  refine rests_query trivial fun a => ?_
  cases a with
  | error => rfl
  | ok x =>
    show Stage.hear X .idle q (.ok x) = .idle
    unfold Stage.hear
    simp only [hq.applied x]

lemma idles_exec : Idles X (exec q) :=
  (idles_query h).bind fun a => rests_ofExcept a

end

lemma idles_tryRead (r : Read) : Idles X (tryRead r) := idles_query rfl

lemma idles_writeAnyway (a : AutoWrite) : Idles X (writeAnyway a) :=
  (idles_query rfl).bind fun _ => rfl

/-! ## Storing a snapshot -/

/-- The program keeps the stage, unless it is told of an error and ends with it. -/
def Steady (X : Deployment) (stage : Stage) (p : Proc α) : Prop :=
  p.Leads (watch X) (fun
    | .ok _, stage' => stage' = stage
    | .error _, stage' => stage' = .idle) stage

variable {stage : Stage}

lemma Steady.bind {β : Type} {p : Proc α} {f : α → Proc β} (hp : Steady X stage p)
    (hf : ∀ a, Steady X stage (f a)) : Steady X stage (p >>= f) := by
  refine Leads.bind (Leads.mono hp fun r stage' hs => ?_)
  cases r with
  | ok a =>
    subst hs
    exact hf a
  | error => exact hs

lemma steady_exec (ha : stage.Allows q) (hk : ∀ x, stage.hear X q (.ok x) = stage) :
    Steady X stage (exec q) := by
  refine bind ⟨ha, fun a => ?_⟩
  cases a with
  | error => rfl
  | ok x => exact hk x

lemma steady_collect {β γ : Type} {xs : List β} {f : β → Proc (Option γ)}
    (hf : ∀ x ∈ xs, Steady X stage (f x)) : Steady X stage (collect xs f) := by
  induction xs with
  | nil => rfl
  | cons x _ ih =>
    refine Steady.bind (hf x List.mem_cons_self) fun y => ?_
    exact Steady.bind (ih fun x' hx => hf x' (List.mem_cons_of_mem x hx)) fun _ => rfl

section Space

def Stage.isStaged : Stage → Bool
  | .staged _ => true
  | _ => false

variable (hs : stage.isStaged = false)
include hs

lemma steady_filing (h : q.storesSnapshot = false) (hp : q.projection? = none) :
    Steady X stage (exec q) := by
  have hq := plain_of h
  cases stage with
  | staged => cases hs
  | idle => exact steady_exec trivial fun x => by simp [Stage.hear, hq.applied x]
  | filing =>
    refine steady_exec ⟨hq, fun p' h => ?_⟩ fun x => ?_
    · rw [hp] at h
      cases h
    · simp [Stage.hear, hq.applied x, hp]

variable {sourceId : Option Nat} {snapshot : PublicClientSnapshot} {signerAgentDid : String}

lemma steady_insertSnapshotUiRecord (eventId : String) (dataKind : DataKind) (eventKind : String)
    (generatedAt : Int) (payload : Json) :
    Steady X stage (insertSnapshotUiRecord sourceId snapshot signerAgentDid eventId
      dataKind eventKind generatedAt payload) :=
  Steady.bind (steady_filing hs rfl rfl) fun _ => rfl

lemma steady_snapshotPresence (presence : SignedSpacePresence) : Steady X stage
      (snapshotPresence X sourceId snapshot signerAgentDid presence) := by
  unfold snapshotPresence
  split
  · rfl
  · refine Steady.bind (steady_filing hs rfl rfl) fun accepted => ?_
    cases accepted with
    | false => rfl
    | true => exact steady_insertSnapshotUiRecord hs _ _ _ _ _

lemma steady_snapshotNodePresence (presence : NodePresence) : Steady X stage
      (snapshotNodePresence X sourceId snapshot signerAgentDid presence) := by
  unfold snapshotNodePresence
  split
  · rfl
  · refine Steady.bind (steady_filing hs rfl rfl) fun accepted => ?_
    cases accepted with
    | false => rfl
    | true => exact steady_insertSnapshotUiRecord hs _ _ _ _ _

/-- A world event can be read, so that nothing but a statement fails, or nothing is under way. -/
lemma steady_snapshotWorldEvent {payload : Json} (hd : stage = .idle ∨
      (!(validateWorldEvent X payload).isOk || storable X payload) = true) :
    Steady X stage (snapshotWorldEvent X sourceId snapshot signerAgentDid payload) := by
  unfold snapshotWorldEvent
  cases hv : validateWorldEvent X payload with
  | error => rfl
  | ok =>
    rcases hd with rfl | hd
    · refine Steady.bind (Steady.bind ?_ fun _ => steady_filing rfl rfl rfl) fun accepted => ?_
      · cases X.worldEventOfValue (payload.index "content") <;> rfl
      cases accepted with
      | false => rfl
      | true =>
        cases X.announcementOfValue payload with
        | error => rfl
        | ok announcement =>
          show Steady X _ (ofOption _ (i64OfNat (announcement.issuedAt / 1000)) >>= _)
          cases i64OfNat (announcement.issuedAt / 1000) with
          | none => rfl
          | some => exact steady_insertSnapshotUiRecord rfl _ _ _ _ _
    · rw [hv] at hd
      obtain ⟨announcement, _, _, _, ha, hw, -, ht⟩ := readable_of_storable hd
      unfold upsertWorldEvent
      simp only [hw, ha]
      refine Steady.bind (steady_filing hs rfl rfl) fun accepted => ?_
      cases accepted with
      | false => rfl
      | true =>
        show Steady X _ (ofOption _ (i64OfNat (announcement.issuedAt / 1000)) >>= _)
        rw [ht]
        exact steady_insertSnapshotUiRecord hs _ _ _ _ _

lemma steady_persistSnapshotSpace (hd : stage = .idle ∨ snapshot.decodes X = true) :
    Steady X stage (persistSnapshotSpace X sourceId snapshot signerAgentDid) := by
  unfold persistSnapshotSpace
  refine Steady.bind (steady_filing hs rfl rfl) fun _ => ?_
  refine Steady.bind (steady_collect fun _ _ => steady_snapshotPresence hs _) fun _ => ?_
  refine Steady.bind (steady_collect fun _ _ => steady_snapshotNodePresence hs _) fun _ => ?_
  refine Steady.bind (steady_collect fun payload hp => steady_snapshotWorldEvent hs ?_) fun _ => ?_
  · exact hd.imp_right fun hd => List.all_eq_true.1 hd payload hp
  exact Steady.bind (steady_filing hs rfl rfl) fun _ => rfl

end Space

lemma steady_outboxIf (r : SnapshotRecord) (outbox : Option OutboxRecord) :
    Steady X (.staged r) (outboxIf true outbox) := by
  unfold outboxIf
  cases outbox with
  | none => rfl
  | some record => exact steady_exec (Or.inr ⟨record, rfl⟩) fun _ => rfl

/-- After the row was committed, its projections are to be written. -/
lemma leads_upsertSnapshotInner (r : SnapshotRecord) (announcement : Option OutboxRecord) :
    (upsertSnapshotInner r announcement).Leads (watch X) (fun
      | .ok true, stage => stage = .committed X r
      | _, stage => stage = .idle) .idle := by
  unfold upsertSnapshotInner
  refine Rests.leads_bind (idles_exec rfl) (fun _ => ?_) fun _ => rfl
  refine bind (bind ⟨trivial, fun a => ?_⟩)
  cases a with
  | error => rfl
  | ok applied =>
    cases applied with
    | false =>
      have hno : Idles X (outboxIf false announcement) := by cases announcement <;> rfl
      refine Rests.leads_bind hno (fun _ => ?_) fun _ => rfl
      exact Rests.leads_bind (idles_exec rfl) (fun _ => rfl) fun _ => rfl
    | true =>
      refine bind (mono (steady_outboxIf r announcement) fun res stage hs => ?_)
      cases res with
      | error => exact hs
      | ok =>
        subst hs
        refine bind (bind ⟨.inl rfl, fun a => ?_⟩)
        cases a <;> rfl

lemma idles_publishRow (row : String × UiEventRow) : Idles X (publishRow row) :=
  idles_exec rfl

lemma leads_seeds (r : SnapshotRecord) (ps : List ProjectionRecord) :
    (forEach ps fun p => exec (.write (.upsertProjectionRow p))).Leads (watch X)
      (fun _ stage => stage = .idle) (.file r ps) := by
  refine leads_forEach (I := fun post stage => stage = .file r post) rfl ?_ fun _ hs => hs
  rintro p post stage rfl
  refine bind ⟨⟨?_, fun p' hp => ?_⟩, fun a => ?_⟩
  · intro _ h
    cases h
  · cases hp
    rfl
  · cases a <;> rfl

/-- A snapshot always has projections, of its network and its operator. -/
lemma seeds_eq_cons (r : SnapshotRecord) : ∃ p rest, r.seeds X = p :: rest := ⟨_, _, rfl⟩

lemma isStaged_committed (r : SnapshotRecord) : (Stage.committed X r).isStaged = false := by
  unfold Stage.committed
  split <;> rfl

section

variable (s : SignedPublicClientSnapshot) (sourceId : Option Nat)
include s sourceId

lemma idles_readModelsIf :
    (readModelsIf X true s sourceId).Leads (watch X) (fun _ stage => stage = .idle)
      (.committed X (snapshotRecord s sourceId)) := by
  have hi := isStaged_committed (X := X) (snapshotRecord s sourceId)
  have hsp : Steady X (.committed X (snapshotRecord s sourceId))
      (persistSnapshotSpace X sourceId s.payload s.signerAgentDid) := by
    refine steady_persistSnapshotSpace hi ?_
    cases hd : s.payload.decodes X with
    | false => exact .inl (if_neg (by rw [Bool.not_eq_true]; exact hd))
    | true => exact .inr rfl
  have hse : (forEach (snapshotProjectionSeeds sourceId s.payload X) fun p =>
      exec (.write (.upsertProjectionRow p))).Leads (watch X) (fun _ stage => stage = .idle)
      (.committed X (snapshotRecord s sourceId)) := by
    unfold Stage.committed
    split
    · exact leads_seeds _ _
    · exact rests_forEach fun _ => idles_exec rfl
  refine bind (bind (mono hsp fun res stage hs => ?_))
  cases res with
  | error => exact hs
  | ok =>
    subst hs
    refine bind (mono hse fun res stage hs => ?_)
    subst hs
    cases res with
    | error => rfl
    | ok => exact rests_forEach fun row => idles_publishRow row

/-- A snapshot is ingested from its first to its last projection, or an answer was an error. -/
lemma idles_ingestSignedSnapshot (expected : Option String) (announceP2p : Bool) :
    Idles X (ingestSignedSnapshotWithOptions X s sourceId expected announceP2p) := by
  unfold ingestSignedSnapshotWithOptions
  have ha : Idles X (persistArtifactIf X s) := by
    unfold persistArtifactIf
    split
    · exact idles_exec rfl
    · rfl
  refine (rests_ofExcept _).bind fun _ => ha.bind fun _ => ?_
  refine bind (mono (leads_upsertSnapshotInner _ _) fun res stage hs => ?_)
  cases res with
  | error => exact hs
  | ok applied =>
    cases applied with
    | false =>
      subst hs
      rfl
    | true =>
      subst hs
      refine bind (mono (idles_readModelsIf s sourceId) fun res stage hs => ?_)
      subst hs
      cases res <;> rfl

end

/-! ## Calls -/

lemma idles_insertAuditRecord (written : Bool) (record : UiEventRecord) :
    Idles X (auditIf written record) := by
  unfold auditIf
  split
  · exact idles_exec rfl
  · rfl

lemma idles_outboxIf (written : Bool) (outbox : Option OutboxRecord) :
    Idles X (outboxIf written outbox) := by
  unfold outboxIf
  split
  · split
    · exact idles_exec rfl
    · rfl
  · rfl

lemma idles_insertUiEventInner (record : UiEventRecord) (outbox : Option OutboxRecord) :
    Idles X (insertUiEventInner record outbox) := by
  unfold insertUiEventInner
  refine (idles_exec rfl).bind fun _ => ?_
  refine (idles_exec rfl).bind fun row => ?_
  refine (idles_outboxIf _ _).bind fun _ => ?_
  refine (idles_exec rfl).bind fun _ => ?_
  exact (idles_insertAuditRecord _ _).bind fun _ => rfl

lemma idles_upsertSpaceRecord (event : NodeEventPayload) (sourceId : Option Nat) :
    Idles X (upsertSpaceRecord X event sourceId) := by
  unfold upsertSpaceRecord upsertWorldEvent
  split
  · exact (rests_ofExcept _).bind fun _ => idles_exec rfl
  · exact (rests_ofExcept _).bind fun _ => idles_exec rfl
  · rfl

lemma idles_persistEvent (event : SignedNodeEvent) (sourceId : Option Nat) (announceP2p : Bool) :
    Idles X (persistEvent X event sourceId announceP2p) := by
  unfold persistEvent
  refine (idles_exec rfl).bind fun _ => ?_
  refine (idles_upsertSpaceRecord _ _).bind fun accepted => ?_
  cases accepted with
  | false => exact (idles_exec rfl).bind fun _ => rfl
  | true =>
    refine (idles_exec rfl).bind fun row => ?_
    cases row with
    | none => exact (idles_exec rfl).bind fun _ => rfl
    | some =>
      refine (idles_outboxIf _ _).bind fun _ => ?_
      exact (idles_exec rfl).bind fun _ => rfl

lemma idles_materialize (event : NodeEventPayload) (sourceId : Option Nat)
    (projection : Option (DataKind × Json)) :
    Idles X (materializeEventProjection event sourceId projection) := by
  cases projection with
  | none => rfl
  | some => exact idles_exec rfl

lemma idles_persistConfirmed (event : SignedNodeEvent) (sourceId : Option Nat)
    (announceP2p : Bool) : Idles X (persistConfirmed X event sourceId announceP2p) := by
  have hi : ∀ projection, Idles X (insertEvent X event sourceId announceP2p projection) := by
    intro projection
    unfold insertEvent
    split
    · exact idles_persistEvent _ _ _
    · exact idles_insertUiEventInner _ _
  unfold persistConfirmed
  refine (rests_ofExcept _).bind fun projection => (hi projection).bind fun row => ?_
  cases row with
  | none =>
    simp only
    split
    · rfl
    · refine (idles_materialize _ _ _).bind fun _ => ?_
      refine (idles_exec rfl).bind fun existing => ?_
      cases existing with
      | none => rfl
      | some => exact (idles_publishRow _).bind fun _ => rfl
  | some =>
    exact (idles_materialize _ _ _).bind fun _ => (idles_publishRow _).bind fun _ => rfl

lemma idles_persistEphemeral (event : NodeEventPayload) (sourceId : Option Nat) :
    Idles X (persistEphemeral X event sourceId) := by
  have hp : Idles X (exec (.publishUiEvent (ephemeralUiEvent event)) >>= fun _ =>
      pure (none : Option Nat)) :=
    (idles_exec rfl).bind fun _ => rfl
  unfold persistEphemeral persistNodePresence
  split
  · refine (rests_ofExcept _).bind fun presence => ?_
    refine Rests.bind ?_ fun accepted => ?_
    · refine (idles_exec rfl).bind fun _ => ?_
      refine (idles_exec rfl).bind fun _ => ?_
      exact (idles_exec rfl).bind fun _ => rfl
    · cases accepted with
      | false => rfl
      | true => exact hp
  · exact hp

lemma idles_backfillIfGap (source : Option (Nat × NodeSourceRow))
    (event : NodeEventPayload) (expected : Option String) (lastSeq : Option Int) :
    Idles X (backfillIfGap X source event expected lastSeq) := by
  unfold backfillIfGap
  split
  · rfl
  · split
    · unfold tryBackfillGap
      split
      · rfl
      · refine Rests.bind (Rests.attempt ?_) fun outcome => ?_
        · refine (idles_exec rfl).bind fun s => ?_
          exact idles_ingestSignedSnapshot _ _ _ _
        · exact (idles_writeAnyway _).bind fun _ => idles_writeAnyway _
    · rfl

lemma idles_persistSignedNodeEvent (event : SignedNodeEvent)
    (sourceId : Option Nat) (expected : Option String) (announceP2p : Bool) :
    Idles X (persistSignedNodeEventWithOptions X event sourceId expected announceP2p) := by
  have hr : Idles X (resolveSource event.payload sourceId expected) := by
    unfold resolveSource
    split
    · exact idles_exec rfl
    · rfl
  unfold persistSignedNodeEventWithOptions
  refine hr.bind fun resolved => (rests_bailIf _).bind fun _ => ?_
  refine (rests_ofExcept _).bind fun _ => (rests_ofExcept _).bind fun _ => ?_
  refine (idles_exec rfl).bind fun lastSeq => ?_
  refine (idles_backfillIfGap _ _ _ _).bind fun _ => ?_
  split
  · exact idles_persistEphemeral _ _
  · exact idles_persistConfirmed _ _ _

lemma Idles.orBadRequest {body : Proc α} (h : Idles X body) (reply : α → Reply) :
    Idles X (orBadRequest body reply) := by
  refine (Rests.attempt h).bind fun r => ?_
  cases r <;> rfl

lemma idles_ingestSnapshot (s : SignedPublicClientSnapshot) :
    Idles X (ingestSnapshot X s) := by
  unfold ingestSnapshot
  refine (idles_tryRead _).bind fun resolved => ?_
  cases resolved with
  | error => rfl
  | ok =>
    simp only
    split
    · rfl
    · exact (idles_ingestSignedSnapshot _ _ _ _).orBadRequest _

lemma idles_collectWattswarmReadModels (sourceId : Nat) (source : NodeSourceRow) :
    Idles X (collectWattswarmReadModels sourceId source) := by
  unfold collectWattswarmReadModels
  split
  · rfl
  · refine (idles_exec rfl).bind fun network => ?_
    refine Rests.bind (idles_exec rfl) fun _ => ?_
    refine Rests.bind (Rests.attempt ?_) fun _ => ?_
    · refine (idles_exec rfl).bind fun snapshot => ?_
      exact rests_forEach fun _ => idles_exec rfl
    · refine (idles_exec rfl).bind fun rows => ?_
      refine rests_forEach fun row => ?_
      unfold collectTopic
      split
      · refine (idles_exec rfl).bind fun activity => ?_
        exact rests_forEach fun _ => idles_exec rfl
      · rfl

section

variable (known : List (String × SnapshotRow))

lemma idles_syncSource (source : Nat × NodeSourceRow) : Idles X (syncSource X known source) := by
  have hf : ∀ status code text, Idles X (syncFailed source.1 status code text) :=
    fun _ _ _ => (idles_writeAnyway _).bind fun _ => rfl
  have he : ∀ knownNodeId, Idles X (fetchSnapshotForSource X source.2 knownNodeId) := by
    intro _
    unfold fetchSnapshotForSource
    split <;> exact idles_exec rfl
  have hc : ∀ fetched, Idles X (syncCollected source.1 source.2 fetched) := by
    intro fetched
    unfold syncCollected
    refine (idles_collectWattswarmReadModels source.1 source.2).attempt.bind fun r => ?_
    cases r <;> exact (idles_writeAnyway _).bind fun _ => rfl
  unfold syncSource
  refine (he _).attempt.bind fun fetched => ?_
  cases fetched with
  | error => exact hf _ _ _
  | ok fetched =>
    simp only
    split
    · exact hf _ _ _
    · refine (idles_ingestSignedSnapshot _ _ _ _).attempt.bind fun r => ?_
      cases r with
      | error => exact hf _ _ _
      | ok => exact hc fetched

lemma idles_syncSources (sources : List (Nat × NodeSourceRow)) (results : List SyncResult) :
    Idles X (syncSources X known sources results) := by
  induction sources generalizing results with
  | nil => rfl
  | cons source _ ih =>
    refine (idles_syncSource known source).bind fun r => ?_
    cases r with
    | error => rfl
    | ok => exact ih _

end

lemma idles_syncNodes (sourceId : Option Nat) : Idles X (syncNodes X sourceId) := by
  have hs : Idles X (resolveSources sourceId) := by
    cases sourceId with
    | some =>
      refine (idles_tryRead _).bind fun r => ?_
      rcases r with _ | _ | source
      · rfl
      · rfl
      · simp only
        split <;> rfl
    | none =>
      refine (idles_tryRead _).bind fun r => ?_
      cases r with
      | error => rfl
      | ok =>
        simp only
        split <;> rfl
  unfold syncNodes
  refine hs.bind fun r => ?_
  cases r with
  | error => rfl
  | ok sources =>
    refine (idles_tryRead _).bind fun known => ?_
    cases known with
    | error => rfl
    | ok known => exact idles_syncSources known sources []

lemma idles_handleGossip (propagationSource : String)
    (message : GatewayP2pSyncMessage) : Idles X (handleGossip X propagationSource message) := by
  have hc : ∀ nodeId generatedAt, Idles X (snapshotIsCurrent nodeId generatedAt) :=
    fun _ _ => (idles_exec rfl).bind fun _ => rfl
  cases message with
  | eventV1 =>
    unfold handleGossip
    simp only
    split
    · rfl
    · exact (idles_persistSignedNodeEvent _ _ _ _).bind fun _ => rfl
  | snapshotAnnounceV1 =>
    unfold handleGossip
    refine (rests_ofExcept _).bind fun _ => ?_
    split
    · rfl
    · unfold fetchUnlessCurrent
      refine (hc _ _).bind fun current => ?_
      cases current with
      | true => rfl
      | false =>
        refine (hc _ _).bind fun current => ?_
        cases current with
        | true => rfl
        | false =>
          unfold fetchAndIngestSnapshot
          refine (rests_bailIf _).bind fun _ => ?_
          refine (idles_exec rfl).bind fun s => ?_
          refine (rests_bailIf _).bind fun _ => (rests_bailIf _).bind fun _ => ?_
          refine (rests_bailIf _).bind fun _ => ?_
          refine (idles_exec rfl).bind fun source => ?_
          exact (idles_ingestSignedSnapshot _ _ _ _).bind fun _ => rfl

lemma idles_trySend (m : WsMessage) : Idles X (trySend m) := idles_query rfl

section

variable (query : UiStreamQuery)

lemma idles_replay (allowProtected : Bool)
    (rows : List (String × UiEventRow)) (lastSentCursor : Int) :
    Idles X (replay query allowProtected rows lastSentCursor) := by
  induction rows generalizing lastSentCursor with
  | nil => rfl
  | cons _ _ ih =>
    unfold replay
    simp only
    split
    · refine (idles_trySend _).bind fun r => ?_
      cases r with
      | error => rfl
      | ok => exact ih _
    · exact ih _

lemma idles_forward (allowProtected : Bool)
    (earliestAvailableCursor : Option Nat) (turns : Nat) (lastSentCursor : Int) :
    Idles X (forward query allowProtected earliestAvailableCursor turns lastSentCursor) := by
  induction turns generalizing lastSentCursor with
  | zero => rfl
  | succ _ ih =>
    unfold forward
    refine (idles_query rfl).bind fun r => ?_
    rcases r with _ | event | _
    · rfl
    · simp only
      split
      · exact ih _
      · split
        · refine (idles_trySend _).bind fun r => ?_
          cases r with
          | error => rfl
          | ok => exact ih _
        · exact ih _
    · exact (idles_trySend _).bind fun _ => rfl

lemma idles_stream (turns : Nat) : Idles X (stream X query turns) := by
  unfold stream
  split
  · rfl
  · unfold handleWs
    refine (idles_exec rfl).bind fun _ => ?_
    refine (idles_tryRead _).bind fun earliest => (idles_trySend _).bind fun r => ?_
    cases r with
    | error => rfl
    | ok =>
      simp only
      split
      · exact (idles_trySend _).bind fun _ => rfl
      · unfold serve
        refine (idles_tryRead _).bind fun rows => (idles_replay _ _ _ _).bind fun sent => ?_
        cases sent with
        | none => rfl
        | some => exact idles_forward _ _ _ _ _

end

lemma idles_board (query : BoardQuery) (peers : List String) :
    Idles X (aggregatePublicBoardMessages X query peers) := by
  have hf : ∀ urls, Idles X (fetchFederatedArrays (boardParams query) urls) := by
    intro urls
    induction urls with
    | nil => rfl
    | cons _ _ ih =>
      exact (idles_query rfl).bind fun _ => ih.bind fun _ => rfl
  unfold aggregatePublicBoardMessages
  refine (idles_tryRead _).bind fun rows => ?_
  cases rows with
  | error => rfl
  | ok => exact (hf _).bind fun _ => rfl

lemma call_idles (c : Call) : Idles X (c.prog X) := by
  cases c with
  | ingestSnapshot s => exact idles_ingestSnapshot s
  | ingestNodeEvent e => exact (idles_persistSignedNodeEvent e _ _ _).orBadRequest _
  | syncNodes sourceId => exact idles_syncNodes sourceId
  | gossip propagationSource message =>
    exact (idles_handleGossip propagationSource message).attempt.bind fun _ => rfl
  | stream query turns => exact idles_stream query turns
  | board query peers => exact idles_board query peers

end

end WattGateway.Gateway
