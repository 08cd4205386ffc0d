import WattGateway.Gateway.Origins

/-!
# Every call follows the rule

One lemma for each program of the ingest paths and of the stream: once a submission is admitted,
everything the program writes or publishes is made of it. The lemmas of the handlers show how each
of them admits.
-/

namespace WattGateway.Gateway

open List Prog Follows

variable {sourceId : Option Nat} {s : SignedPublicClientSnapshot} {e : SignedNodeEvent}
  {sub : Submission}

section

variable {X : Deployment} {c : Call} {h : History}

/-! ## Storing a snapshot -/

lemma keeps_outboxIf (ha : Admitted X c h sub sourceId)
    {record : Option OutboxRecord} (hr : ∀ r, record = some r → OutboxOf r sub) (written : Bool) :
    Keeps X c h (outboxIf written record) := by
  unfold outboxIf
  cases record with
  | none => exact keeps_pure _
  | some record =>
    cases written with
    | false => exact keeps_pure _
    | true => exact keeps_exec ⟨sub, sourceId, ha, hr record rfl⟩

lemma outboxOf_ite {b : Bool} {r : OutboxRecord} (h : OutboxOf r sub) :
    ∀ r', (if b then some r else none) = some r' → OutboxOf r' sub := by
  intro _ hr
  split at hr
  · cases hr
    exact h
  · cases hr

lemma keeps_upsertSnapshotInner (ha : Admitted X c h (.snapshot s) sourceId)
    {announcement : Option OutboxRecord}
    (hr : ∀ r, announcement = some r → OutboxOf r (.snapshot s)) :
    Keeps X c h (upsertSnapshotInner (snapshotRecord s sourceId) announcement) := by
  unfold upsertSnapshotInner
  refine .bind (keeps_exec trivial) fun _ h₁ hs₁ => ?_
  refine .bind (keeps_exec ⟨s, sourceId, ha.mono hs₁, rfl⟩) fun applied h₂ hs₂ => ?_
  refine .bind (keeps_outboxIf (ha.mono (hs₁.trans hs₂)) hr applied) fun _ h₃ _ => ?_
  exact .bind (keeps_exec trivial) fun _ _ _ => keeps_pure _

/-- A program that answers with a row it has inserted, if it does with one at all. -/
def GivesRow (X : Deployment) (c : Call) (h : History) (p : Proc (Option (String × UiEventRow))) :
    Prop :=
  p.Follows (derives X c)
    (fun y h' => h <:+ h' ∧ ∀ z, y = some z → RowHeard h' z.1 z.2) h

lemma givesRow_none : GivesRow X c h (pure none) :=
  ⟨suffix_refl h, fun _ hz => by cases hz⟩

lemma Keeps.givesRow {α : Type} {p : Proc α} {f : α → Proc (Option (String × UiEventRow))}
    (hp : Keeps X c h p) (hf : ∀ a h', h <:+ h' → GivesRow X c h' (f a)) :
    GivesRow X c h (p >>= f) := by
  refine Follows.bind (Follows.mono hp fun a h' hs => ?_)
  exact Follows.mono (hf a h' hs) fun y h'' hy => ⟨hs.trans hy.1, hy.2⟩

lemma RowHeard.mono {h h' : History} {eventId : String} {row : UiEventRow}
    (hr : RowHeard h eventId row) (hs : h <:+ h') : RowHeard h' eventId row := by
  rcases hr with ⟨r, hi, hr⟩ | hr
  · exact .inl ⟨r, hi, hr.mono hs⟩
  · exact .inr (hr.mono hs)

section Space

variable {s : SignedPublicClientSnapshot} {sourceId : Option Nat}
  (ha : Admitted X c h (.snapshot s) sourceId)

include ha

lemma givesRow_insertSnapshotUiRecord {dataKind : DataKind}
    (hk : dataKind ∈ [DataKind.spacePresence, .presence, .worldEvent]) (eventId eventKind : String)
    (generatedAt : Int) (payload : Json) :
    GivesRow X c h (insertSnapshotUiRecord sourceId s.payload s.signerAgentDid eventId dataKind
      eventKind generatedAt payload) := by
  unfold insertSnapshotUiRecord
  refine bind (follows_exec
    ⟨.snapshot s, sourceId, ha, eventId, dataKind, eventKind, generatedAt, payload, hk, rfl⟩ ?_)
  intro _ _ hs hr
  refine ⟨hs, fun z hz => ?_⟩
  obtain ⟨_, rfl, rfl⟩ := Option.map_eq_some_iff.1 hz
  exact .inl ⟨_, rfl, hr⟩

lemma givesRow_snapshotPresence (presence : SignedSpacePresence) :
    GivesRow X c h (snapshotPresence X sourceId s.payload s.signerAgentDid presence) := by
  unfold snapshotPresence
  split
  · exact givesRow_none
  · refine Keeps.givesRow (keeps_exec trivial) fun accepted h₁ hs₁ => ?_
    cases accepted with
    | false => exact givesRow_none
    | true => exact givesRow_insertSnapshotUiRecord (ha.mono hs₁) (by simp) _ _ _ _

lemma givesRow_snapshotNodePresence (presence : NodePresence) :
    GivesRow X c h (snapshotNodePresence X sourceId s.payload s.signerAgentDid presence) := by
  unfold snapshotNodePresence
  split
  · exact givesRow_none
  · refine Keeps.givesRow (keeps_exec trivial) fun accepted h₁ hs₁ => ?_
    cases accepted with
    | false => exact givesRow_none
    | true => exact givesRow_insertSnapshotUiRecord (ha.mono hs₁) (by simp) _ _ _ _

omit ha in
lemma keeps_upsertWorldEvent (payload : Json) (nodeId : String) :
    Keeps X c h (upsertWorldEvent X payload nodeId sourceId) := by
  unfold upsertWorldEvent
  exact bind (follows_ofExcept fun _ _ => keeps_exec trivial)

lemma givesRow_snapshotWorldEvent (payload : Json) :
    GivesRow X c h (snapshotWorldEvent X sourceId s.payload s.signerAgentDid payload) := by
  unfold snapshotWorldEvent
  split
  · exact givesRow_none
  · refine (keeps_upsertWorldEvent payload _).givesRow fun accepted h₁ hs₁ => ?_
    cases accepted with
    | false => exact givesRow_none
    | true =>
      refine bind (follows_ofExcept fun announcement _ => ?_)
      refine bind (follows_ofOption fun generatedAt _ => ?_)
      exact givesRow_insertSnapshotUiRecord (ha.mono hs₁) (by simp) _ _ _ _

lemma follows_collect_rows {β : Type} {xs : List β}
    {f : β → Proc (Option (String × UiEventRow))}
    (hf : ∀ x h', Admitted X c h' (.snapshot s) sourceId → GivesRow X c h' (f x)) :
    (collect xs f).Follows (derives X c)
      (fun rows h' => h <:+ h' ∧ ∀ z ∈ rows, RowHeard h' z.1 z.2) h := by
  refine follows_collect (I := fun h' => Admitted X c h' (.snapshot s) sourceId)
    (P := fun z h' => RowHeard h' z.1 z.2) ha ?_ ?_ (fun rows h' _ hs hr => ⟨hs, hr⟩)
  swap
  · intro _ h' h'' hz hs
    exact hz.mono hs
  intro x _ h' ha'
  exact mono (hf x h' ha') fun y h'' hy => ⟨ha'.mono hy.1, hy⟩

lemma follows_persistSnapshotSpace :
    (persistSnapshotSpace X sourceId s.payload s.signerAgentDid).Follows (derives X c)
      (fun rows h' => h <:+ h' ∧ ∀ z ∈ rows, RowHeard h' z.1 z.2) h := by
  unfold persistSnapshotSpace
  refine bind (follows_exec trivial fun _ h₁ hs₁ _ => ?_)
  have ha₁ := ha.mono hs₁
  refine bind (mono (follows_collect_rows ha₁
    fun x _ ha' => givesRow_snapshotPresence ha' x) ?_)
  rintro _ _ ⟨hs₂, hr₂⟩
  have ha₂ := ha₁.mono hs₂
  refine bind (mono (follows_collect_rows ha₂
    fun x _ ha' => givesRow_snapshotNodePresence ha' x) ?_)
  rintro _ _ ⟨hs₃, hr₃⟩
  have ha₃ := ha₂.mono hs₃
  refine bind (mono (follows_collect_rows ha₃
    fun x _ ha' => givesRow_snapshotWorldEvent ha' x) ?_)
  rintro _ _ ⟨hs₄, hr₄⟩
  refine bind (follows_exec trivial fun _ h₅ hs₅ _ => ?_)
  refine ⟨hs₁.trans (hs₂.trans (hs₃.trans (hs₄.trans hs₅))), fun z hz => ?_⟩
  rcases mem_append.1 hz with hz | hz
  · rcases mem_append.1 hz with hz | hz
    · exact (hr₂ z hz).mono (hs₃.trans (hs₄.trans hs₅))
    · exact (hr₃ z hz).mono (hs₄.trans hs₅)
  · exact (hr₄ z hz).mono hs₅

omit ha in
lemma keeps_publishRow {row : String × UiEventRow} (hr : RowHeard h row.1 row.2) :
    Keeps X c h (publishRow row) :=
  keeps_exec (.inr ⟨row.1, row.2, hr, rfl⟩)

lemma keeps_readModelsIf (applied : Bool) : Keeps X c h (readModelsIf X applied s sourceId) := by
  unfold readModelsIf
  cases applied with
  | false => exact keeps_pure _
  | true =>
    simp only [if_true]
    unfold persistSnapshotReadModels
    refine bind (bind (mono
      (follows_persistSnapshotSpace ha) ?_))
    rintro rows h₁ ⟨hs₁, hro⟩
    -- the seeds, then the rows of the space tables
    have he : Keeps X c h₁ (forEach (snapshotProjectionSeeds sourceId s.payload X)
        fun record => exec (.write (.upsertProjectionRow record))) := by
      refine keeps_forEach fun record hr h₂ hs₂ => ?_
      exact keeps_exec (.inl ⟨.snapshot s, sourceId, ha.mono (hs₁.trans hs₂), hr⟩)
    refine bind (mono he fun _ h₂ hs₂ => ?_)
    have hp : Keeps X c h₂ (forEach rows publishRow) := by
      refine keeps_forEach fun row ho h₃ hs₃ => ?_
      exact keeps_publishRow ((hro row ho).mono (hs₂.trans hs₃))
    show (forEach rows publishRow).Follows (derives X c) (fun _ h' => h <:+ h') h₂
    exact mono hp fun _ _ hs₃ => hs₁.trans (hs₂.trans hs₃)

end Space

lemma keeps_ingestSignedSnapshot {expected : Option String} (announceP2p : Bool)
    (ha : verifySignedSnapshot X.toCrypto s expected = .ok () →
      Admitted X c h (.snapshot s) sourceId) :
    Keeps X c h (ingestSignedSnapshotWithOptions X s sourceId expected announceP2p) := by
  unfold ingestSignedSnapshotWithOptions
  refine bind (follows_ofExcept fun _ hv => ?_)
  have hd := ha hv
  have hr : Keeps X c h (persistArtifactIf X s) := by
    unfold persistArtifactIf
    split
    · exact keeps_exec ⟨sourceId, hd⟩
    · exact keeps_pure _
  refine hr.bind fun _ h₁ hs₁ => ?_
  refine (keeps_upsertSnapshotInner (hd.mono hs₁) (outboxOf_ite rfl)).bind ?_
  intro applied _ hs₂
  refine (keeps_readModelsIf (hd.mono (hs₁.trans hs₂)) applied).bind fun _ _ _ => ?_
  exact keeps_pure _

/-! ## Storing an event -/

section Event

/-- A program that answers with the row of the event it has inserted, if it does with one at all. -/
def GivesRowOf (X : Deployment) (c : Call) (h : History) (eventId : String)
    (p : Proc (Option UiEventRow)) : Prop :=
  p.Follows (derives X c) (fun y h' => h <:+ h' ∧ ∀ row, y = some row → RowHeard h' eventId row) h

lemma keeps_upsertSpaceRecord (event : NodeEventPayload) :
    Keeps X c h (upsertSpaceRecord X event sourceId) := by
  unfold upsertSpaceRecord
  split
  · exact bind (follows_ofExcept fun _ _ => keeps_exec trivial)
  · exact keeps_upsertWorldEvent _ _
  · trivial

section

variable (ha : Admitted X c h (.event e) sourceId)
include ha

lemma givesRowOf_persistEvent (hpo : e.payload.provisionalPolicy ≠ .ephemeralOnly)
    (hp : isSpaceEvent e = true) (announceP2p : Bool) :
    GivesRowOf X c h e.payload.eventId (persistEvent X e sourceId announceP2p) := by
  have hno : ∀ h' : History, h <:+ h' →
      (exec Query.rollback >>= fun _ => pure none).Follows (derives X c)
        (fun y h'' => h <:+ h'' ∧ ∀ row, y = some row → RowHeard h'' e.payload.eventId row) h' := by
    intro _ hs
    refine bind (follows_exec trivial fun _ h'' hs' _ => ?_)
    exact ⟨hs.trans hs', fun _ hr => by cases hr⟩
  unfold persistEvent
  refine bind (follows_exec trivial fun _ h₁ hs₁ _ => ?_)
  refine bind (mono (keeps_upsertSpaceRecord e.payload) ?_)
  intro accepted h₂ hs₂
  cases accepted with
  | false => exact hno h₂ (hs₁.trans hs₂)
  | true =>
    have he : UiRecordOf X sourceId (spaceEventRecord e.payload sourceId) (.event e) :=
      ⟨hpo, .inl ⟨hp, rfl⟩⟩
    refine bind (follows_exec
      ⟨.event e, sourceId, ha.mono (hs₁.trans hs₂), he⟩ ?_)
    intro row h₃ hs₃ ho
    cases row with
    | none => exact hno h₃ (hs₁.trans (hs₂.trans hs₃))
    | some row =>
      have hh : RowHeard h₃ e.payload.eventId row := .inl ⟨_, rfl, ho⟩
      have hn : Keeps X c h₃ (outboxIf announceP2p (some (eventOutbox e))) := by
        refine keeps_outboxIf (ha.mono (hs₁.trans (hs₂.trans hs₃))) ?_ announceP2p
        rintro _ ⟨⟩
        exact rfl
      refine bind (mono hn fun _ h₄ hs₄ => ?_)
      refine bind (follows_exec trivial fun _ h₅ hs₅ _ => ?_)
      refine ⟨hs₁.trans (hs₂.trans (hs₃.trans (hs₄.trans hs₅))), ?_⟩
      rintro _ ⟨⟩
      exact hh.mono (hs₄.trans hs₅)

lemma givesRowOf_insertUiEventInner {record : UiEventRecord}
    (he : UiRecordOf X sourceId record (.event e)) {outbox : Option OutboxRecord}
    (hr : ∀ r, outbox = some r → OutboxOf r (.event e)) :
    GivesRowOf X c h record.eventId (insertUiEventInner record outbox) := by
  unfold insertUiEventInner
  refine bind (follows_exec trivial fun _ h₁ hs₁ _ => ?_)
  refine bind (follows_exec ⟨.event e, sourceId, ha.mono hs₁, he⟩ ?_)
  intro row _ hs₂ ho
  have hn := keeps_outboxIf (ha.mono (hs₁.trans hs₂)) hr row.isSome
  refine bind (mono hn fun _ h₃ hs₃ => ?_)
  refine bind (follows_exec trivial fun _ h₄ hs₄ _ => ?_)
  have hs : h <:+ h₄ := hs₁.trans (hs₂.trans (hs₃.trans hs₄))
  have hu : Keeps X c h₄ (auditIf row.isSome record) := by
    unfold auditIf
    split
    · exact keeps_exec (.inl ⟨.event e, sourceId, record, ha.mono hs, he, rfl⟩)
    · exact keeps_pure _
  refine bind (mono hu fun _ h₅ hs₅ => ?_)
  refine ⟨hs.trans hs₅, ?_⟩
  rintro row' rfl
  exact .inl ⟨record, rfl, ho.mono (hs₃.trans (hs₄.trans hs₅))⟩

variable {projection : Option (DataKind × Json)}

section

variable (hpo : e.payload.provisionalPolicy ≠ .ephemeralOnly)
include hpo

section

variable (hp : trustedProjection X e.payload = .ok projection)
include hp

lemma givesRowOf_insertEvent (announceP2p : Bool) :
    GivesRowOf X c h e.payload.eventId (insertEvent X e sourceId announceP2p projection) := by
  unfold insertEvent
  cases hs : isSpaceEvent e with
  | true => exact givesRowOf_persistEvent ha hpo hs announceP2p
  | false =>
    have hr : UiRecordOf X sourceId (uiEventRecord e.payload sourceId projection) (.event e) :=
      ⟨hpo, .inr ⟨hs, projection, hp, rfl⟩⟩
    exact givesRowOf_insertUiEventInner ha hr (outboxOf_ite rfl)

lemma keeps_materialize :
    Keeps X c h (materializeEventProjection e.payload sourceId projection) := by
  unfold materializeEventProjection
  cases projection with
  | none => exact keeps_pure _
  | some projection =>
    exact keeps_exec (.inl ⟨.event e, sourceId, ha, hpo, projection.1, projection.2, hp, rfl⟩)

end

lemma keeps_persistConfirmed
    (announceP2p : Bool) : Keeps X c h (persistConfirmed X e sourceId announceP2p) := by
  unfold persistConfirmed
  refine bind (follows_ofExcept fun projection hp => ?_)
  refine bind (mono
    (givesRowOf_insertEvent ha hpo hp announceP2p) ?_)
  rintro row _ ⟨hs₁, hr⟩
  have hm := keeps_materialize (ha.mono hs₁) hpo hp
  cases row with
  | none =>
    cases hsp : isSpaceEvent e with
    | true =>
      simp only [if_true]
      exact hs₁
    | false =>
      simp only [Bool.false_eq_true, if_false]
      refine bind (mono hm fun _ h₂ hs₂ => ?_)
      refine bind (follows_exec trivial fun existing h₃ hs₃ he => ?_)
      have hs : h <:+ h₃ := hs₁.trans (hs₂.trans hs₃)
      cases existing with
      | none => exact hs
      | some existing =>
        have hh : RowHeard h₃ e.payload.eventId existing := .inr he
        exact bind (mono (keeps_publishRow hh)
          fun _ _ hs₄ => hs.trans hs₄)
  | some row =>
    refine bind (mono hm fun _ h₂ hs₂ => ?_)
    have hh := (hr row rfl).mono hs₂
    exact bind (mono (keeps_publishRow hh)
      fun _ _ hs₃ => hs₁.trans (hs₂.trans hs₃))

end

end

lemma keeps_persistNodePresence (presence : NodePresence) :
    Keeps X c h (persistNodePresence presence sourceId) := by
  unfold persistNodePresence
  refine .bind (keeps_exec trivial) fun _ _ _ => ?_
  refine .bind (keeps_exec trivial) fun _ _ _ => ?_
  exact .bind (keeps_exec trivial) fun _ _ _ => keeps_pure _

lemma keeps_persistEphemeral (ha : Admitted X c h (.event e) sourceId)
    (hpo : e.payload.provisionalPolicy = .ephemeralOnly) :
    Keeps X c h (persistEphemeral X e.payload sourceId) := by
  have hp : ∀ h', h <:+ h' →
      Keeps X c h' (exec (.publishUiEvent (ephemeralUiEvent e.payload)) >>= fun _ =>
        pure (none : Option Nat)) := fun h' hs =>
    .bind (keeps_exec (.inl ⟨e, sourceId, ha.mono hs, hpo, rfl⟩)) fun _ _ _ => keeps_pure _
  unfold persistEphemeral
  split
  · refine bind (follows_ofExcept fun presence _ => ?_)
    refine (keeps_persistNodePresence presence).bind fun accepted h₁ hs₁ => ?_
    cases accepted with
    | false => exact keeps_pure _
    | true => exact hp h₁ hs₁
  · exact hp h (suffix_refl h)

lemma keeps_backfillIfGap {source : Option (Nat × NodeSourceRow)} (hc : c.event? = some e)
    (hf : h.Heard (.read (.findNodeSourceForIdentity e.payload.nodeId
      e.payload.signerAgentDid)) (.ok source)) (ht : Active source) (lastSeq : Option Int) :
    Keeps X c h (backfillIfGap X source e.payload (expectedOf source) lastSeq) := by
  unfold backfillIfGap
  split
  · exact keeps_pure _
  · split
    · unfold tryBackfillGap
      split
      · exact keeps_pure _
      · rename_i sourceId source
        have hr : Keeps X c h (exec (.fetch (.signedSnapshot (.http (snapshotUrl source)))) >>=
            fun s => ingestSignedSnapshotWithOptions X s (some sourceId)
              (expectedOf (some (sourceId, source))) true) := by
          refine bind (follows_exec trivial fun s h₁ hs₁ hs => ?_)
          refine mono (keeps_ingestSignedSnapshot true fun hv => ?_)
            fun _ _ hs₂ => hs₁.trans hs₂
          exact .refreshed s e sourceId source hc (hf.mono hs₁) (ht _ rfl) hs hv
        refine hr.attempt.bind fun outcome _ _ => ?_
        refine .bind (keeps_writeAnyway (.inr ⟨_, _, _, _, _, _, rfl⟩)) fun _ _ _ => ?_
        exact keeps_writeAnyway trivial
    · exact keeps_pure _

lemma keeps_persistSignedNodeEvent (hc : c.event? = some e) (announceP2p : Bool) :
    Keeps X c h (persistSignedNodeEventWithOptions X e none none announceP2p) := by
  unfold persistSignedNodeEventWithOptions
  refine bind (follows_exec trivial fun source h₁ hs₁ hf => ?_)
  refine bind (follows_bailIf fun hn => ?_)
  have ht : Active source := by
    intro src hr
    by_contra hne
    exact hn (by simp [hr, hne])
  refine bind (follows_ofExcept fun _ hv => ?_)
  refine bind (follows_ofExcept fun _ hva => ?_)
  have hd : Admitted X c h₁ (.event e) (source.map Prod.fst) :=
    .pushedEvent e source hc hf ht hv hva
  refine bind (follows_exec trivial fun lastSeq h₂ hs₂ _ => ?_)
  refine bind (mono
    (keeps_backfillIfGap hc (hf.mono hs₂) ht lastSeq) fun _ h₃ hs₃ => ?_)
  have hs : h <:+ h₃ := hs₁.trans (hs₂.trans hs₃)
  have hd₃ := hd.mono (hs₂.trans hs₃)
  split
  · rename_i hpo
    exact mono (keeps_persistEphemeral hd₃ hpo) fun _ _ hs₄ => hs.trans hs₄
  · rename_i hpo
    exact mono (keeps_persistConfirmed hd₃ hpo _) fun _ _ hs₄ => hs.trans hs₄

end Event

/-! ## The handlers -/

lemma Keeps.orBadRequest {α : Type} {body : Proc α} (hb : Keeps X c h body) (reply : α → Reply) :
    Keeps X c h (orBadRequest body reply) := by
  unfold Gateway.orBadRequest
  refine hb.attempt.bind fun result h' _ => ?_
  cases result with
  | ok => exact keeps_pure _
  | error => exact keeps_pure _

lemma keeps_ingestSnapshot (hc : c = .ingestSnapshot s) : Keeps X c h (ingestSnapshot X s) := by
  unfold ingestSnapshot
  refine bind (follows_tryRead fun result h₁ hs₁ hf => ?_)
  cases result with
  | error => exact hs₁
  | ok source =>
    by_cases hn : source.any (fun src => src.2.sourceStatus ≠ .active) = true
    · simp only [hn, if_true]
      exact hs₁
    · have ht : Active source := by
        intro _ hr
        by_contra hne
        exact hn (by simp [hr, hne])
      simp only [hn]
      refine mono (Keeps.orBadRequest (keeps_ingestSignedSnapshot true ?_) _)
        fun _ _ hs₂ => hs₁.trans hs₂
      intro hv
      exact .pushedSnapshot s source hc hf ht hv

lemma keeps_ingestNodeEvent (hc : c.event? = some e) : Keeps X c h (ingestNodeEvent X e) :=
  (keeps_persistSignedNodeEvent hc true).orBadRequest _

section Pull

variable (hc : c.event? = none)

include hc

lemma keeps_collected {r : ProjectionRecord} (hr : r.dataKind ∈ collectedKinds) :
    Keeps X c h (exec (.write (.upsertProjectionRow r))) :=
  keeps_exec (.inr ⟨hr, hc⟩)

lemma keeps_collectTopic (sourceId : Nat) (source : NodeSourceRow) (baseUrl : String)
    (row : (DataKind × String × String) × ProjectionRow) :
    Keeps X c h (collectTopic sourceId source baseUrl row) := by
  unfold collectTopic
  split
  · refine .bind (keeps_exec trivial) fun activity _ _ => ?_
    refine keeps_forEach fun message _ _ _ => ?_
    exact keeps_collected hc (by decide : DataKind.hiveActivity ∈ collectedKinds)
  · exact keeps_pure _

lemma keeps_collectWattswarmReadModels (sourceId : Nat) (source : NodeSourceRow) :
    Keeps X c h (collectWattswarmReadModels sourceId source) := by
  unfold collectWattswarmReadModels
  split
  · exact keeps_pure _
  · rename_i baseUrl _
    refine .bind (keeps_exec trivial) fun network _ _ => ?_
    refine .bind (keeps_collected hc
      (by decide : DataKind.networkProjection ∈ collectedKinds)) fun _ h₂ _ => ?_
    have hs : Keeps X c h₂
        (collectTopicSubscriptionReadModels sourceId source baseUrl network.networkId) := by
      unfold collectTopicSubscriptionReadModels
      refine .bind (keeps_exec trivial) fun snapshot _ _ => ?_
      refine keeps_forEach fun subscription _ _ _ => ?_
      exact keeps_collected hc (by decide : DataKind.hiveSubscription ∈ collectedKinds)
    refine hs.attempt.bind fun _ _ _ => ?_
    unfold collectTopicActivityReadModels
    refine .bind (keeps_exec trivial) fun rows _ _ => ?_
    exact keeps_forEach fun row _ _ _ => keeps_collectTopic hc sourceId source baseUrl row

omit hc in
lemma keeps_syncFailed (sourceId : Nat) (status : String) (code : StatusCode) (text : String) :
    Keeps X c h (syncFailed sourceId status code text) := by
  unfold syncFailed
  exact .bind (keeps_writeAnyway trivial) fun _ _ _ => keeps_pure _

omit hc in
lemma follows_fetchSnapshotForSource (source : NodeSourceRow) (knownNodeId : Option String) :
    (fetchSnapshotForSource X source knownNodeId).Follows (derives X c)
      (fun s (h' : History) => h <:+ h' ∧ ∃ endpoint, source.Serves endpoint ∧
        h'.Heard (.fetch (.signedSnapshot endpoint)) (.ok s)) h := by
  unfold fetchSnapshotForSource
  split
  · rename_i contact nodeId _ ho
    exact follows_exec trivial fun s h' hs hh => ⟨hs, _, .inr ⟨contact, nodeId, ho, rfl⟩, hh⟩
  · exact follows_exec trivial fun s h' hs hh => ⟨hs, _, .inl rfl, hh⟩

section

variable (known : List (String × SnapshotRow))

lemma keeps_syncSource {source : Nat × NodeSourceRow}
    (hp : Pulled h source.1 source.2) : Keeps X c h (syncSource X known source) := by
  unfold syncSource
  refine bind (attempt (mono
    (follows_fetchSnapshotForSource source.2 _) ?_) ?_)
  · rintro s h₁ ⟨hs₁, endpoint, he, hh⟩
    dsimp only
    cases hv : verifySignedSnapshot X.toCrypto s source.2.expectedSignerAgentDid with
    | error => exact mono (keeps_syncFailed _ _ _ _) fun _ _ hs => hs₁.trans hs
    | ok =>
      refine bind (mono (Keeps.attempt
        (keeps_ingestSignedSnapshot true fun _ => .pulled s source.1 source.2 endpoint
          (hp.mono hs₁) he hh hv)) fun result h₂ hs₂ => ?_)
      cases result with
      | error =>
        exact mono (keeps_syncFailed _ _ _ _) fun _ _ hs => hs₁.trans (hs₂.trans hs)
      | ok =>
        refine mono (P := fun _ h' => h₂ <:+ h') ?_ fun _ _ hs => hs₁.trans (hs₂.trans hs)
        unfold syncCollected
        refine (keeps_collectWattswarmReadModels hc source.1 source.2).attempt.bind
          fun collected _ _ => ?_
        cases collected with
        | error | ok _ => exact .bind (keeps_writeAnyway trivial) fun _ _ _ => keeps_pure _
  · intro _ _ hs₁
    exact mono (keeps_syncFailed _ _ _ _) fun _ _ hs => hs₁.trans hs

lemma keeps_syncSources {sources : List (Nat × NodeSourceRow)} (results : List SyncResult)
    (hp : ∀ source ∈ sources, Pulled h source.1 source.2) :
    Keeps X c h (syncSources X known sources results) := by
  induction sources generalizing h results with
  | nil => exact keeps_pure _
  | cons source _ ih =>
    unfold syncSources
    refine (keeps_syncSource hc known (hp source mem_cons_self)).bind
      fun result h₁ hs₁ => ?_
    cases result with
    | error => exact keeps_pure _
    | ok =>
      exact ih _ fun src hr => (hp src (mem_cons_of_mem source hr)).mono hs₁

end

omit hc in
lemma follows_resolveSources (sourceId : Option Nat) :
    (resolveSources sourceId).Follows (derives X c)
      (fun result h' => h <:+ h' ∧ ∀ sources, result = .ok sources →
        ∀ source ∈ sources, Pulled h' source.1 source.2) h := by
  cases sourceId with
  | some sourceId =>
    refine bind (follows_tryRead fun result h₁ hs₁ hh => ?_)
    match result with
    | .error e => exact ⟨hs₁, nofun⟩
    | .ok none => exact ⟨hs₁, nofun⟩
    | .ok (some source) =>
      show (if source.sourceStatus = .active then _ else _ : Proc _).Follows _ _ h₁
      split
      · rename_i ht
        refine ⟨hs₁, ?_⟩
        rintro sources ⟨⟩ src hr
        rw [mem_singleton] at hr
        subst hr
        exact ⟨ht, .inl hh⟩
      · exact ⟨hs₁, nofun⟩
  | none =>
    refine bind (follows_tryRead fun result h₁ hs₁ hh => ?_)
    match result with
    | .error e => exact ⟨hs₁, nofun⟩
    | .ok sources =>
      show (if (sources.filter fun source => source.2.sourceStatus = .active).isEmpty then _ else _ :
        Proc _).Follows _ _ h₁
      split
      · exact ⟨hs₁, nofun⟩
      · refine ⟨hs₁, ?_⟩
        rintro _ ⟨⟩ _ hr
        rw [mem_filter] at hr
        exact ⟨of_decide_eq_true hr.2, .inr ⟨sources, hh, hr.1⟩⟩

lemma keeps_syncNodes (sourceId : Option Nat) : Keeps X c h (syncNodes X sourceId) := by
  unfold syncNodes
  refine bind (mono (follows_resolveSources sourceId) ?_)
  rintro result _ ⟨hs₁, hp⟩
  cases result with
  | error => exact hs₁
  | ok sources =>
    refine bind (follows_tryRead fun known h₂ hs₂ _ => ?_)
    cases known with
    | error => exact hs₁.trans hs₂
    | ok known =>
      refine mono (keeps_syncSources hc known [] fun source ho =>
        (hp sources rfl source ho).mono hs₂) fun _ _ hs => hs₁.trans (hs₂.trans hs)

end Pull

lemma keeps_snapshotIsCurrent (nodeId : String) (generatedAt : Int) :
    Keeps X c h (snapshotIsCurrent nodeId generatedAt) :=
  .bind (keeps_exec trivial) fun _ _ _ => keeps_pure _

/-- The snapshot that an announcement makes the gateway fetch is checked against the announcement
alone. -/
lemma keeps_fetchAndIngestSnapshot {propagationSource gatewayPeerId nodeId signerAgentDid : String}
    {generatedAt : Int} {contact : ContactMaterial}
    (hc : c = .gossip propagationSource
      (.snapshotAnnounceV1 gatewayPeerId nodeId signerAgentDid generatedAt contact)) :
    Keeps X c h (fetchAndIngestSnapshot X nodeId signerAgentDid generatedAt contact) := by
  unfold fetchAndIngestSnapshot
  refine bind (follows_bailIf fun _ => ?_)
  refine Keeps.bind (keeps_exec trivial) fun s h₁ hs₁ => ?_
  refine bind (follows_bailIf fun hno => ?_)
  refine bind (follows_bailIf fun hi => ?_)
  refine bind (follows_bailIf fun hg => ?_)
  rw [not_not] at hno hi hg
  refine Keeps.bind (keeps_exec trivial) fun source h₂ hs₂ => ?_
  refine Keeps.bind (keeps_ingestSignedSnapshot false fun hv => ?_) fun _ _ _ => keeps_pure _
  refine .announced s source propagationSource gatewayPeerId contact ?_ hv
  rw [hc, hno, hi, hg]

lemma keeps_handleGossip {propagationSource : String} {message : GatewayP2pSyncMessage}
    (hc : c = .gossip propagationSource message) :
    Keeps X c h (handleGossip X propagationSource message) := by
  cases message with
  | snapshotAnnounceV1 =>
    unfold handleGossip
    refine bind (follows_ofExcept fun _ _ => ?_)
    split
    · exact keeps_pure _
    · unfold fetchUnlessCurrent
      refine (keeps_snapshotIsCurrent _ _).bind fun current _ _ => ?_
      cases current with
      | true => exact keeps_pure _
      | false =>
        refine (keeps_snapshotIsCurrent _ _).bind fun current _ _ => ?_
        cases current with
        | true => exact keeps_pure _
        | false => exact keeps_fetchAndIngestSnapshot hc
  | eventV1 =>
    rw [handleGossip]
    split
    · exact keeps_pure _
    · refine .bind (keeps_persistSignedNodeEvent ?_ false) fun _ _ _ => keeps_pure _
      rw [hc]
      rfl

/-! ## The stream and the board -/

section Stream

variable {query : UiStreamQuery} {turns₀ : Nat} (hc : c = .stream query turns₀)

lemma keeps_trySend {m : WsMessage} (hm : Derives X c h (.send m)) : Keeps X c h (trySend m) :=
  follows_query hm fun _ _ => suffix_cons _ _

include hc

lemma keeps_replay {rows all : List (String × UiEventRow)} (lastSentCursor : Int)
    (hall : h.Heard (.read (.listUiEventsAfter (listQuery query))) (.ok all))
    (ho : ∀ row ∈ rows, row ∈ all) :
    Keeps X c h (replay query (allowsProtected X query) rows lastSentCursor) := by
  induction rows generalizing h lastSentCursor with
  | nil => exact keeps_pure _
  | cons row rows ih =>
    have he : ∀ row' ∈ rows, row' ∈ all := fun row' hr => ho row' (mem_cons_of_mem row hr)
    unfold replay
    cases hm : eventMatchesQuery (.ofRow row.1 row.2) query (allowsProtected X query) with
    | false =>
      simp only [hm, Bool.false_eq_true, if_false]
      exact ih _ hall he
    | true =>
      simp only [hm, if_true]
      refine .bind (keeps_trySend ⟨query, turns₀, hc, hm, .inr ⟨all, row.1, row.2, hall,
        ho row mem_cons_self, rfl⟩⟩) fun sent h₁ hs₁ => ?_
      cases sent with
      | error => exact keeps_pure _
      | ok => exact ih _ (hall.mono hs₁) he

lemma keeps_forward (earliest : Option Nat) (turns : Nat) (lastSentCursor : Int) :
    Keeps X c h (forward query (allowsProtected X query) earliest turns lastSentCursor) := by
  induction turns generalizing h lastSentCursor with
  | zero => exact keeps_pure _
  | succ turns ih =>
    refine bind (follows_query trivial fun τ received => ?_)
    have hs : h <:+ (τ, Entry.heard Query.recv received) :: h := suffix_cons _ _
    refine mono (P := fun _ h' => (τ, Entry.heard Query.recv received) :: h <:+ h') ?_
      fun _ _ hs' => hs.trans hs'
    match received with
    | .error e => exact keeps_pure _
    | .ok .lagged => exact Keeps.bind (keeps_trySend trivial) fun _ _ _ => keeps_pure _
    | .ok (.event event) =>
      show Keeps X c _ (if 0 < event.cursor ∧ event.cursor ≤ lastSentCursor then _ else _)
      split
      · exact ih _
      · split
        · rename_i hm
          refine .bind (keeps_trySend ⟨query, turns₀, hc, hm, .inl
            (Hist.heard_self τ _ _ h)⟩) fun sent _ _ => ?_
          cases sent with
          | error => exact keeps_pure _
          | ok => exact ih _
        · exact ih _

lemma keeps_stream : Keeps X c h (stream X query turns₀) := by
  unfold stream
  split
  · exact keeps_pure _
  · unfold handleWs
    refine .bind (keeps_exec trivial) fun _ _ _ => ?_
    refine bind (follows_tryRead fun earliest h₂ hs₂ _ => ?_)
    refine mono (P := fun _ h' => h₂ <:+ h') ?_ fun _ _ hs => hs₂.trans hs
    refine Keeps.bind (keeps_trySend trivial) fun sent h₃ _ => ?_
    cases sent with
    | error => exact keeps_pure _
    | ok =>
      dsimp only
      split
      · exact .bind (keeps_trySend trivial) fun _ _ _ => keeps_pure _
      · unfold serve
        refine bind (follows_tryRead fun rows h₄ hs₄ ho => ?_)
        refine mono (P := fun _ h' => h₄ <:+ h') ?_ fun _ _ hs => hs₄.trans hs
        have he : Keeps X c h₄ (replay query (allowsProtected X query)
            (rows.toOption.getD []) (query.cursor.getD 0)) := by
          cases rows with
          | error => exact keeps_pure _
          | ok => exact keeps_replay hc _ ho fun _ hr => hr
        refine he.bind fun lastSentCursor _ _ => ?_
        cases lastSentCursor with
        | none => exact keeps_pure _
        | some => exact keeps_forward hc _ _ _

end Stream

variable {values : List Json} {v : Json}

lemma mem_of_mem_dedupe {key : Json → Option String} {seen : List String}
    (hv : v ∈ dedupeValuesByKey key values seen) : v ∈ values := by
  induction values generalizing seen with
  | nil => exact hv
  | cons _ _ ih =>
    unfold dedupeValuesByKey at hv
    split at hv
    · rcases mem_cons.1 hv with rfl | hv
      · exact mem_cons_self
      · exact mem_cons_of_mem _ (ih hv)
    · split at hv
      · exact mem_cons_of_mem _ (ih hv)
      · rcases mem_cons.1 hv with rfl | hv
        · exact mem_cons_self
        · exact mem_cons_of_mem _ (ih hv)

lemma trusted_of_mem_boardPage {query : BoardQuery}
    (hv : v ∈ boardPage X query values) : Trusted X v := by
  unfold boardPage at hv
  have hd := mem_of_mem_dedupe (mem_of_mem_take hv)
  rw [mem_insertionSort, mem_filter] at hd
  exact trusted_of_mem_filter hd.1

lemma keeps_fetchFederatedArrays (params : List (String × String)) (baseUrls : List String) :
    Keeps X c h (fetchFederatedArrays params baseUrls) := by
  induction baseUrls generalizing h with
  | nil => exact keeps_pure _
  | cons _ _ ih =>
    refine bind (follows_query trivial fun τ items => ?_)
    refine mono (P := fun _ h' => _ <:+ h') (ih.bind fun _ _ _ => keeps_pure _)
      fun _ _ hs => (suffix_cons _ _).trans hs

def BoardTrusted (X : Deployment) (reply : Reply) : Prop :=
  ∀ values, reply = .board values → ∀ v ∈ values, Trusted X v

lemma follows_board (query : BoardQuery) (peers : List String) :
    (aggregatePublicBoardMessages X query peers).Follows (derives X c)
      (fun reply _ => BoardTrusted X reply) h := by
  unfold aggregatePublicBoardMessages
  refine bind (follows_tryRead fun rows h₁ _ _ => ?_)
  cases rows with
  | error =>
    intro _ hv
    cases hv
  | ok =>
    refine bind (mono (keeps_fetchFederatedArrays _ _) ?_)
    intro _ _ _ _ hv _ hm
    cases hv
    exact trusted_of_mem_boardPage hm

lemma call_follows (X : Deployment) (c : Call) : (c.prog X).Follows (derives X c)
      (fun reply _ => (∃ query peers, c = .board query peers) → BoardTrusted X reply) [] := by
  cases hc : c with
  | ingestSnapshot =>
    exact mono (keeps_ingestSnapshot rfl) fun _ _ _ ⟨_, _, h⟩ => by cases h
  | ingestNodeEvent =>
    exact mono (keeps_ingestNodeEvent rfl) fun _ _ _ ⟨_, _, h⟩ => by cases h
  | syncNodes sourceId =>
    exact mono (keeps_syncNodes rfl sourceId) fun _ _ _ ⟨_, _, h⟩ => by cases h
  | gossip =>
    refine mono (Keeps.bind (Keeps.attempt (keeps_handleGossip rfl)) fun _ _ _ =>
      keeps_pure _) fun _ _ _ ⟨_, _, h⟩ => by cases h
  | stream =>
    exact mono (keeps_stream rfl) fun _ _ _ ⟨_, _, h⟩ => by cases h
  | board query peers => exact mono (follows_board query peers) fun _ _ hb _ => hb

end

end WattGateway.Gateway
