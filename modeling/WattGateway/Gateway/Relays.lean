import WattGateway.Gateway.Presence

/-!
# Presences that others deliver

The table files a presence under the node that delivered it first, and the list route asks for a
heartbeat of that node. So an agent is listed if what is news of it comes from its own node
(`own_deliveries_listed`), and one other node that is faster is enough to hide it (`relay_hides`).
-/

namespace WattGateway.Gateway

open List Table World SpaceItem

variable {sourceId : Option Nat} {X : Deployment} {id : Option String} {sources : Sources}
  {items : List SpaceItem} {w : World} {e : SignedNodeEvent} {announceP2p : Bool}

/-- A turn delivers a presence: the node and the source it is filed under, and the id of its event if
it comes as one. -/
inductive Delivers (X : Deployment) (w : World) (turn : Turn) (p : SignedSpacePresence) :
    String → Option Nat → Option String → Prop
  | event (e : SignedNodeEvent) (announceP2p : Bool) (hsubmit : turn.submit = .event e announceP2p)
      (haccepts : Accepts X w.db e) (hkind : e.payload.dataKind = .spacePresence)
      (hread : X.presenceOfValue e.payload.payload = .ok p) :
      Delivers X w turn p e.payload.nodeId ((w.db.sourceOf e).map Prod.fst) (some e.payload.eventId)
  | snapshot (s : SignedPublicClientSnapshot) (sourceId : Option Nat) (expected : Option String)
      (announceP2p : Bool) (hsubmit : turn.submit = .snapshot s sourceId expected announceP2p)
      (hv : verifySignedSnapshot X.toCrypto s expected = .ok ())
      (hnews : w.db.takesSnapshot (snapshotRecord s sourceId) = true)
      (hitem : .presence p ∈ spaceItems X s.payload s.signerAgentDid) :
      Delivers X w turn p s.payload.nodeId sourceId none
  | refresh (e : SignedNodeEvent) (announceP2p : Bool) (hsubmit : turn.submit = .event e announceP2p)
      (haccepts : Accepts X w.db e) (hgap : w.db.gap e = true) (id : Nat) (source : NodeSourceRow)
      (hsource : w.db.sourceOf e = some (id, source)) (s : SignedPublicClientSnapshot)
      (hfetch : turn.remote (.signedSnapshot (.http (snapshotUrl source))) = some s)
      (hv : verifySignedSnapshot X.toCrypto s source.expectedSignerAgentDid = .ok ())
      (hnews : w.db.takesSnapshot (snapshotRecord s (some id)) = true)
      (hitem : .presence p ∈ spaceItems X s.payload s.signerAgentDid) :
      Delivers X w turn p s.payload.nodeId (some id) none

/-! ## Presences of a snapshot -/

section

variable {snapshot : PublicClientSnapshot} {signerAgentDid : String} {db db' : Db}

lemma row_of_not_takes {p : SignedSpacePresence} (h : db.takesPresence p = false) :
    ∃ row, db.spacePresence.get? (presenceKey p) = some row ∧ p.record.seq ≤ row.seq := by
  unfold Db.takesPresence at h
  cases hr : db.spacePresence.get? (presenceKey p) with
  | none =>
    rw [hr] at h
    cases h
  | some row =>
    rw [hr] at h
    exact ⟨row, rfl, Nat.not_lt.1 (of_decide_eq_false h)⟩

/-- A record of a snapshot leaves a row of the table, or it is a presence and the row is its own. -/
lemma store_presence {item : SpaceItem} {cursor now : Nat}
    (h : item.store X sourceId snapshot signerAgentDid db cursor now = .ok db')
    (key : String × String × String) : db'.spacePresence.get? key = db.spacePresence.get? key ∨
      ∃ p, item = .presence p ∧ presenceKey p = key ∧ db.takesPresence p = true ∧
        db'.spacePresence.get? key = some ⟨p.record.seq, snapshot.nodeId, sourceId, p⟩ := by
  cases item with
  | presence p =>
    unfold store at h
    cases h
    cases ht : db.takesPresence p with
    | false =>
      left
      rfl
    | true =>
      by_cases hk : key = presenceKey p
      · right
        refine ⟨p, rfl, hk.symm, ht, ?_⟩
        show ((db.spacePresence.upsert (presenceKey p) _).get? key) = _
        rw [get?_upsert, if_pos hk]
      · left
        show ((db.spacePresence.upsert (presenceKey p) _).get? key) = _
        rw [get?_upsert, if_neg hk]
  | nodePresence =>
    left
    unfold store at h
    cases h
    split <;> rfl
  | worldEvent =>
    left
    obtain ⟨_, _, -, -, ⟨-, rfl⟩ | ⟨-, _, _, -, -, rfl⟩⟩ := store_worldEvent h <;> rfl

lemma SpaceStored.presence (h : SpaceStored X sourceId snapshot signerAgentDid items db db')
    (key : String × String × String) : db'.spacePresence.get? key = db.spacePresence.get? key ∨
      ∃ p, .presence p ∈ items ∧ presenceKey p = key ∧ db.takesPresence p = true ∧
        db'.spacePresence.get? key = some ⟨p.record.seq, snapshot.nodeId, sourceId, p⟩ := by
  induction items generalizing db with
  | nil =>
    cases h
    exact .inl rfl
  | cons item _ ih =>
    obtain ⟨_, _, _, hs, he⟩ := h
    rcases ih he with ha | ⟨p, hp, hk, ht, hr⟩
    · rw [ha]
      rcases store_presence hs key with ha' | ⟨p, rfl, he'⟩
      · exact .inl ha'
      · exact .inr ⟨p, mem_cons_self, he'⟩
    · exact .inr ⟨p, mem_cons_of_mem item hp, hk, takesPresence_of_grows (store_grows hs) ht, hr⟩

/-- After the transaction the table has every presence of the snapshot, or a higher one. -/
lemma SpaceStored.reaches
    (h : SpaceStored X sourceId snapshot signerAgentDid items db db') {p : SignedSpacePresence}
    (hp : .presence p ∈ items) :
    ∃ row, db'.spacePresence.get? (presenceKey p) = some row ∧ p.record.seq ≤ row.seq := by
  induction items generalizing db with
  | nil => cases hp
  | cons _ _ ih =>
    obtain ⟨_, _, db₁, hs, hr⟩ := h
    rcases mem_cons.1 hp with rfl | hp
    · have hst : ∃ row, db₁.spacePresence.get? (presenceKey p) = some row ∧
          p.record.seq ≤ row.seq := by
        unfold store at hs
        cases hs
        cases ht : db.takesPresence p with
        | false => exact row_of_not_takes ht
        | true =>
          refine ⟨⟨p.record.seq, snapshot.nodeId, sourceId, p⟩, ?_, Nat.le_refl _⟩
          show ((db.spacePresence.upsert (presenceKey p) _).get? _) = _
          rw [get?_upsert, if_pos rfl]
      obtain ⟨row, ho, hle⟩ := hst
      obtain ⟨row', ho', hle'⟩ := hr.grows.presences _ row ho
      exact ⟨row', ho', Nat.le_trans hle hle'⟩
    · exact ih hr hp

variable {c c' : Core}

variable {s : SignedPublicClientSnapshot} {expected : Option String} {r : Except String Bool}

lemma Ingested.presence
    (h : Ingested X s sourceId expected announceP2p c r c') (key : String × String × String) :
    c'.db.spacePresence.get? key = c.db.spacePresence.get? key ∨
      verifySignedSnapshot X.toCrypto s expected = .ok () ∧
        c.db.takesSnapshot (snapshotRecord s sourceId) = true ∧
        ∃ p, .presence p ∈ spaceItems X s.payload s.signerAgentDid ∧ presenceKey p = key ∧
          c.db.takesPresence p = true ∧
          c'.db.spacePresence.get? key = some ⟨p.record.seq, s.payload.nodeId, sourceId, p⟩ := by
  cases h with
  | refused | stale | spaceFailed => exact .inl rfl
  | applied hv hne _ _ db₁ db₂ hsp hpr =>
    have hr : db₂.spacePresence = db₁.spacePresence := by rw [hpr.others]
    rcases hsp.presence key with hs | ⟨p, hp, hk, ht, ho⟩
    · left
      show db₂.spacePresence.get? key = _
      rw [hr, hs]
      rfl
    · right
      refine ⟨hv, hne, p, hp, hk, ht, ?_⟩
      show db₂.spacePresence.get? key = _
      rw [hr, ho]

lemma Ingested.reaches (hd : s.payload.decodes X = true)
    (h : Ingested X s sourceId expected announceP2p c r c')
    (hv : verifySignedSnapshot X.toCrypto s expected = .ok ())
    (hne : c.db.takesSnapshot (snapshotRecord s sourceId) = true) {p : SignedSpacePresence}
    (hp : .presence p ∈ spaceItems X s.payload s.signerAgentDid) :
    ∃ row, c'.db.spacePresence.get? (presenceKey p) = some row ∧ p.record.seq ≤ row.seq := by
  cases h with
  | refused _ hv' => cases hv.symm.trans hv'
  | stale _ hs => cases hne.symm.trans hs
  | spaceFailed _ _ _ _ _ _ hf => exact absurd hf (not_spaceFails hd fun _ h => h)
  | applied _ _ _ _ db₁ db₂ hsp hpr =>
    have hr : db₂.spacePresence = db₁.spacePresence := by rw [hpr.others]
    show ∃ row, db₂.spacePresence.get? _ = some row ∧ _
    rw [hr]
    exact hsp.reaches hp

end

/-! ## Presences of a turn -/

section

variable {turn : Turn}

lemma EventStored.presence_row
    {c c' : Core} {r : Except String (Option Nat)} (h : EventStored X e sourceId announceP2p c r c')
    (key : String × String × String) : c'.db.spacePresence.get? key = c.db.spacePresence.get? key ∨
      ∃ p, e.payload.dataKind = .spacePresence ∧ X.presenceOfValue e.payload.payload = .ok p ∧
        presenceKey p = key ∧ c.db.takesPresence p = true ∧
        c'.db.spacePresence.get? key = some ⟨p.record.seq, e.payload.nodeId, sourceId, p⟩ := by
  cases h with
  | spaceStored hp hs db₁ hr hn cursor now id =>
    show db₁.spacePresence.get? key = _ ∨ _
    rcases spaceRecord_eq_some hr with ⟨p, hi, he, ht, rfl⟩ | ⟨_, _, -, -, -, -, rfl⟩
    · unfold Db.storePresence
      by_cases hk : key = presenceKey p
      · exact .inr ⟨p, hi, he, hk.symm, ht, (get?_upsert ..).trans (if_pos hk)⟩
      · exact .inl ((get?_upsert ..).trans (if_neg hk))
    · exact .inl rfl
  | heartbeat =>
    left
    show (if _ then _ else _ : Db).spacePresence.get? _ = _
    split <;> rfl
  | inserted hp hs projection | duplicate hp hs projection =>
    left
    cases projection <;> rfl
  | _ => exact .inl rfl

lemma turn_row (ha : w.Alone) (turn : Turn) (key : String × String × String) :
    (w.turn X turn).db.spacePresence.get? key = w.db.spacePresence.get? key ∨
      ∃ p node sourceId id, Delivers X w turn p node sourceId id ∧ presenceKey p = key ∧
        w.db.takesPresence p = true ∧
        (w.turn X turn).db.spacePresence.get? key = some ⟨p.record.seq, node, sourceId, p⟩ := by
  obtain ⟨-, c', hu, hc⟩ := turn_submitted (X := X) ha turn
  have hd : (w.turn X turn).db = c'.db := congrArg Core.db hc
  rw [hd]
  cases hs : turn.submit with
  | snapshot s sourceId expected announceP2p =>
    rw [hs] at hu
    obtain ⟨r, hin⟩ := hu
    rcases hin.presence key with hsa | ⟨hv, hne, p, hp, hk, ht, hr⟩
    · exact .inl hsa
    · exact .inr ⟨p, _, _, _, .snapshot s sourceId expected announceP2p hs hv hne hp, hk, ht, hr⟩
  | event e announceP2p =>
    rw [hs] at hu
    obtain ⟨_, hrec⟩ := hu
    cases hrec with
    | refused => exact .inl rfl
    | taken hacc c₁ he _ _ hst =>
      have hgr : w.db.Grows c₁.db := he.grows
      rcases hst.presence_row key with hsa | ⟨p, hi, hre, hk, ht, hr⟩
      · rw [hsa]
        cases he with
        | complete => exact .inl rfl
        | unreachable => exact .inl rfl
        | fetched hg id source ho s hf _ _ hin =>
          rcases hin.presence key with hsa' | ⟨hv, hne, p, hp, hk, ht, hr⟩
          · exact .inl hsa'
          · exact .inr ⟨p, _, _, _, .refresh (w := w) e announceP2p hs hacc hg id source
              ho s hf hv hne hp, hk, ht, hr⟩
      · exact .inr ⟨p, _, _, _, .event e announceP2p hs hacc hi hre, hk,
          takesPresence_of_grows hgr ht, hr⟩

/-- The id of a delivery is not taken and not one that a snapshot served meanwhile may take. -/
def Free (X : Deployment) (w : World) (turn : Turn) (id : Option String) : Prop :=
  ∀ eventId ∈ id, w.db.uiEvents.get? eventId = none ∧
    ∀ url s, turn.remote (.signedSnapshot (.http url)) = some s →
      .uiEvent eventId ∉ snapshotTargets X s

/-- The snapshots that the turn brings decode. -/
def Turn.Decodes (X : Deployment) (turn : Turn) : Prop :=
  (∀ s sourceId expected announceP2p, turn.submit = .snapshot s sourceId expected announceP2p →
    s.payload.decodes X = true) ∧
  ∀ url s, turn.remote (.signedSnapshot (.http url)) = some s → s.payload.decodes X = true

/-- After a delivery the table has the presence or a higher one, unless the id was taken. -/
lemma turn_reaches (ha : w.Alone) {p : SignedSpacePresence}
    {node : String}
    (h : Delivers X w turn p node sourceId id)
    (hf : w.db.takesPresence p = true → Free X w turn id ∧ turn.Decodes X) :
    ∃ row, (w.turn X turn).db.spacePresence.get? (presenceKey p) = some row ∧
      p.record.seq ≤ row.seq := by
  obtain ⟨-, c', hs, hc⟩ := turn_submitted (X := X) ha turn
  have hd : (w.turn X turn).db = c'.db := congrArg Core.db hc
  -- a row that is as high stays so
  have hg : ∀ db₁ : Db, db₁.Grows c'.db → (∃ row, db₁.spacePresence.get? (presenceKey p) =
      some row ∧ p.record.seq ≤ row.seq) → ∃ row, (w.turn X turn).db.spacePresence.get?
        (presenceKey p) = some row ∧ p.record.seq ≤ row.seq := by
    rintro _ hgr ⟨row, hrow, hle⟩
    obtain ⟨row', hrow', hle'⟩ := hgr.presences _ row hrow
    rw [hd]
    exact ⟨row', hrow', Nat.le_trans hle hle'⟩
  cases hta : w.db.takesPresence p with
  | false => exact hg w.db hs.grows (row_of_not_takes hta)
  | true =>
    obtain ⟨hf, hdec⟩ := hf hta
    cases h with
    | snapshot _ _ _ _ hu hv hne hit =>
      rw [hu] at hs
      obtain ⟨r, hin⟩ := hs
      exact hg c'.db (.refl _) (hin.reaches (hdec.1 _ _ _ _ hu) hv hne hit)
    | refresh _ _ hu hacc hgap _ _ hso _ hfe hv hne hit =>
      rw [hu] at hs
      obtain ⟨r, he⟩ := hs
      cases he with
      | refused _ hn => exact absurd hacc hn
      | taken _ c₁ hr _ _ hst =>
        refine hg c₁.db hst.grows ?_
        cases hr with
        | complete hgap' => cases hgap.symm.trans hgap'
        | unreachable _ _ _ hso' hfe' =>
          cases hso.symm.trans hso'
          cases hfe.symm.trans hfe'
        | fetched _ _ _ hso' _ hfe' _ _ hin =>
          cases hso.symm.trans hso'
          cases hfe.symm.trans hfe'
          exact hin.reaches (hdec.2 _ _ hfe) hv hne hit
    | event e _ hu hacc hk hre =>
      rw [hu] at hs
      obtain ⟨_, he⟩ := hs
      cases he with
      | refused _ hn => exact absurd hacc hn
      | taken _ c₁ hr _ _ hst =>
        obtain ⟨hp, -⟩ := accepted_presence hacc hk
        rcases hst.presence hk hp hre with ⟨hsta | ht, _⟩ |
          ⟨-, -, ho, -⟩
        · exact hg c₁.db hst.grows (row_of_not_takes hsta)
        · -- the id was free before the refresh, and the refresh did not take it
          exfalso
          obtain ⟨hw, hse⟩ := hf _ rfl
          have hsa := (hr.leaves hse).idTaken rfl
          rw [hsa] at ht
          rw [show (Core.before w turn).db.uiEvents.get? e.payload.eventId = none from hw] at ht
          cases ht
        · refine hg c'.db (.refl _) ?_
          rw [ho]
          unfold Db.storePresence
          rw [get?_upsert, if_pos rfl]
          exact ⟨_, rfl, Nat.le_refl _⟩

end

/-! ## Runs -/

def RunDelivers (X : Deployment) (sources : Sources) (turns : List Turn) (p : SignedSpacePresence)
    (node : String) (sourceId : Option Nat) : Prop :=
  ∃ done turn post id, turns = done ++ turn :: post ∧
    Delivers X ((start sources).turns X done) turn p node sourceId id

/-- What is news of the agent comes from its own node, from a source that is none or active, and in an
event whose id is free or a snapshot that decodes. -/
def OwnOnly (X : Deployment) (sources : Sources) (agent own : String) (turns : List Turn) : Prop :=
  ∀ done turn post, turns = done ++ turn :: post → ∀ p node sourceId id,
    Delivers X ((start sources).turns X done) turn p node sourceId id → p.record.agentDid = agent →
    ((start sources).turns X done).db.takesPresence p = true →
    node = own ∧ ((start sources).turns X done).db.visible sourceId = true ∧
      Free X ((start sources).turns X done) turn id ∧ turn.Decodes X

variable {turns : List Turn} {turn : Turn}

lemma OwnOnly.init {agent own : String}
    (h : OwnOnly X sources agent own (turns ++ [turn])) : OwnOnly X sources agent own turns := by
  intro done turn' post ht
  refine h done turn' (post ++ [turn]) ?_
  rw [ht, append_assoc]
  rfl

variable {p : SignedSpacePresence} {node : String}

lemma runDelivers_concat :
    RunDelivers X sources (turns ++ [turn]) p node sourceId ↔
      RunDelivers X sources turns p node sourceId ∨
      ∃ id, Delivers X ((start sources).turns X turns) turn p node sourceId id := by
  have hs := exists_turn_concat (fun done turn =>
    ∃ id, Delivers X ((start sources).turns X done) turn p node sourceId id) turns turn
  simpa only [RunDelivers, exists_and_left] using hs

/-- The rows of the agent are filed under its own node, and the table has reached all that was
delivered of it. -/
structure Filed (X : Deployment) (sources : Sources) (agent own : String) (turns : List Turn)
    (w : World) : Prop where
  rows : ∀ key row, w.db.spacePresence.get? key = some row → key.2.2 = agent →
    row.seq = row.payload.record.seq ∧ presenceKey row.payload = key ∧ row.sourceNodeId = own ∧
      w.db.visible row.sourceId = true ∧
      ∃ node sourceId, RunDelivers X sources turns row.payload node sourceId
  reaches : ∀ p node sourceId, RunDelivers X sources turns p node sourceId → p.record.agentDid = agent →
    ∃ row, w.db.spacePresence.get? (presenceKey p) = some row ∧ p.record.seq ≤ row.seq

section

variable {agent own : String}

lemma filed_turns (h : OwnOnly X sources agent own turns) :
    Filed X sources agent own turns ((start sources).turns X turns) := by
  induction turns using List.reverseRecOn with
  | nil =>
    refine ⟨fun key row hw => ?_, ?_⟩
    · cases hw
    · rintro p node sourceId ⟨done, turn, _, id, hu, -⟩
      cases done <;> cases hu
  | append_singleton turns turn ih =>
    have hf := ih h.init
    have ha : ((start sources).turns X turns).Alone := alone_turns X (alone_start sources) turns
    have hg := turn_grows (X := X) ha turn
    have hne := h turns turn [] rfl
    rw [turns_concat]
    constructor
    · intro key row hw hag
      rcases turn_row (X := X) ha turn key with hsa | ⟨p, node, sourceId, id, hd, hk, ht, ho⟩
      · rw [hsa] at hw
        obtain ⟨hs, hk, hno, hv, node, sourceId, hr⟩ := hf.rows key row hw hag
        refine ⟨hs, hk, hno, ?_, node, sourceId, runDelivers_concat.2 (Or.inl hr)⟩
        rw [visible_of_sources hg.sources]
        exact hv
      · rw [ho] at hw
        cases hw
        subst hk
        obtain ⟨rfl, hv, -⟩ := hne p node sourceId id hd hag ht
        refine ⟨rfl, rfl, rfl, ?_, node, sourceId, runDelivers_concat.2 (Or.inr ⟨id, hd⟩)⟩
        rw [visible_of_sources hg.sources]
        exact hv
    · intro p node sourceId hr hag
      rcases runDelivers_concat.1 hr with hr | ⟨id, hd⟩
      · obtain ⟨row, hw, hle⟩ := hf.reaches p node sourceId hr hag
        obtain ⟨row', hw', hle'⟩ := hg.presences _ row hw
        exact ⟨row', hw', Nat.le_trans hle hle'⟩
      · exact turn_reaches ha hd fun ht => (hne p node sourceId id hd hag ht).2.2

lemma Delivers.valid (h : Delivers X w turn p node sourceId id) :
    validatePresence X p = .ok () := by
  have hi : ∀ s : SignedPublicClientSnapshot,
      .presence p ∈ spaceItems X s.payload s.signerAgentDid → validatePresence X p = .ok () := by
    intro s hit
    unfold spaceItems presenceItem nodePresenceItem worldEventItem at hit
    simp only [mem_append, mem_filterMap, Option.ite_none_right_eq_some, Option.some.injEq,
      reduceCtorEq, and_false, exists_false, or_false, presence.injEq] at hit
    obtain ⟨p', -, hok, rfl⟩ := hit
    cases hv : validatePresence X p' with
    | ok => rfl
    | error =>
      rw [hv] at hok
      cases hok
  cases h with
  | event _ _ _ ha hk hr =>
    obtain ⟨-, _, hr', hva⟩ := accepted_presence ha hk
    cases hr.symm.trans hr'
    exact hva
  | snapshot s _ _ _ _ _ _ hit => exact hi s hit
  | refresh _ _ _ _ _ _ _ _ s _ _ _ hit =>
    exact hi s hit

end

/-- In every run in which what is news of an agent comes from its own node, under a source that is
none or active, in events whose ids are free and snapshots that decode: if the agent's highest
presence in a network is entered and its own node has a current heartbeat, the list route shows that
presence. -/
theorem own_deliveries_listed (X : Deployment) (sources : Sources)
    (agent own : String) (turns : List Turn) (hown : OwnOnly X sources agent own turns)
    (p : SignedSpacePresence) (hagent : p.record.agentDid = agent) (sourceId : Option Nat)
    (hdelivered : RunDelivers X sources turns p own sourceId)
    (hhighest : ∀ q node sourceId, RunDelivers X sources turns q node sourceId →
      OfAgent p.record.networkId agent q → q.record.seq < p.record.seq ∨ q = p)
    (hentered : p.record.entered = true) (now : Int)
    (hheartbeat : ∃ heartbeat ∈ ((start sources).turns X turns).db.nodePresences,
      heartbeat.nodeId = own ∧ heartbeat.agentDid = agent ∧ heartbeatIsCurrent heartbeat now = true)
    (query : SpaceObservationQuery) (hquery : validateObservationQuery query = .ok ())
    (hplace : query.placeId = none) (hnetwork : ∀ n ∈ query.networkId, n = p.record.networkId)
    (hspace : ∀ s ∈ query.spaceId, s = p.record.spaceId) :
    ∃ reply, ((start sources).turns X turns).db.presences X now query = .ok reply ∧
      p ∈ reply.presences := by
  have hf := filed_turns hown
  -- the row under the key of the presence is the presence itself
  obtain ⟨row, hw, _⟩ := hf.reaches p own sourceId hdelivered hagent
  obtain ⟨hs, hk, hno, hv, node, sourceId', hu⟩ := hf.rows _ row hw hagent
  have hp : row.payload = p := by
    have ho : OfAgent p.record.networkId agent row.payload :=
      ⟨congrArg (fun k => k.1) hk, (congrArg (fun k => k.2.2) hk).trans hagent⟩
    rcases hhighest _ node sourceId' hu ho with hlt | heq
    · omega
    · exact heq
  have hl : ((start sources).turns X turns).db.Latest (presenceKey p) row := by
    refine ⟨hw, fun key' row' hw' hn ha => ?_⟩
    obtain ⟨hs', hk', -, -, node', sourceId'', hu'⟩ := hf.rows key' row' hw' (ha.trans hagent)
    have ho : OfAgent p.record.networkId agent row'.payload := by
      rw [← hk'] at hn ha
      exact ⟨hn, ha.trans hagent⟩
    unfold comesFirst
    rw [hp] at hs
    rcases hhighest _ node' sourceId'' hu' ho with hlt | heq
    · simp only [Bool.or_eq_false_iff, Bool.and_eq_false_iff, decide_eq_false_iff_not]
      exact ⟨by omega, .inl (by omega)⟩
    · rw [heq] at hs' hk'
      simp only [Bool.or_eq_false_iff, Bool.and_eq_false_iff, decide_eq_false_iff_not]
      refine ⟨by omega, .inr ?_⟩
      rw [← hk']
      exact String.lt_irrefl _
  have hva : (p, own) ∈ ((start sources).turns X turns).db.presenceValues query.networkId
      query.spaceId := by
    refine Db.mem_presenceValues.2 ⟨presenceKey p, row, hl, ?_, hnetwork, ?_, hspace, hv⟩
    · rw [hp, hno]
    · obtain ⟨_, _, _, _, -, hd⟩ := hdelivered
      exact network_of_validatePresence hd.valid
  have he : isPresent ((start sources).turns X turns).db.nodePresences now (p, own) = true := by
    obtain ⟨heartbeat, hm, hh, hha, hc⟩ := hheartbeat
    unfold isPresent
    rw [hentered, Bool.true_and]
    refine any_eq_true.2 ⟨heartbeat, hm, ?_⟩
    simp [hh, hha, hagent, hc]
  have hok : ∃ reply, ((start sources).turns X turns).db.presences X now query = .ok reply := by
    unfold Db.presences
    rw [hquery, hplace]
    exact ⟨_, rfl⟩
  obtain ⟨reply, hr⟩ := hok
  exact ⟨reply, hr, (Db.mem_presences hr).2 ⟨own, hva, he⟩⟩

/-! ### A node and a relay -/

namespace Relay

open OneAgent

def own : SignedNodeEvent := presenceEvent "e1" "n" "park" 1

def relayed : SignedNodeEvent where
  payload :=
    { (presenceEvent "e2" "m" "park" 1).payload with publicKey := "k2", signerAgentDid := "k2" }
  signature := "s2"

def relayFirst : List Turn := [push relayed, push own, push (heartbeat "n" 1000)]

def relayLast : List Turn := [push own, push relayed, push (heartbeat "n" 1000)]

def everywhere : SpaceObservationQuery := ⟨none, none, none⟩

lemma delivers_push (h : Delivers deployment w (push e) p node sourceId id) :
    e.payload.dataKind = .spacePresence ∧ readPresence e.payload.payload = .ok p ∧
      node = e.payload.nodeId ∧ sourceId = (w.db.sourceOf e).map Prod.fst ∧
      id = some e.payload.eventId := by
  cases h with
  | event _ _ hs _ hk hr =>
    cases hs
    exact ⟨hk, hr, rfl, rfl, rfl⟩
  | snapshot _ _ _ _ hs => cases hs
  | refresh _ _ _ _ _ _ _ _ _ hf =>
    cases hf

lemma delivers_park (ht : turns = relayFirst ∨ turns = relayLast) {q : SignedSpacePresence}
    (h : RunDelivers deployment .empty turns q node sourceId) : q = presence "park" 1 true := by
  obtain ⟨_, turn, _, _, hs, hd⟩ := h
  have hu : turn = push own ∨ turn = push relayed ∨ turn = push (heartbeat "n" 1000) := by
    have hm : turn ∈ turns := by
      rw [hs]
      simp
    rcases ht with rfl | rfl <;> simp only [relayFirst, relayLast, mem_cons,
      not_mem_nil, or_false] at hm <;> tauto
  rcases hu with rfl | rfl | rfl
  · obtain ⟨-, hr, -⟩ := delivers_push hd
    cases hr
    rfl
  · obtain ⟨-, hr, -⟩ := delivers_push hd
    cases hr
    rfl
  · obtain ⟨hk, -⟩ := delivers_push hd
    cases hk

lemma own_delivered (done post : List Turn) (ht : turns = done ++ push own :: post)
    (ha : Accepts deployment ((start .empty).turns deployment done).db own) :
    RunDelivers deployment .empty turns (presence "park" 1 true) "n"
      ((((start .empty).turns deployment done).db.sourceOf own).map Prod.fst) :=
  ⟨done, push own, post, some "e1", ht, .event own true rfl ha rfl rfl⟩

set_option maxRecDepth 100000

lemma ownOnly : OwnOnly deployment .empty "did:key:a" "n" relayLast := by
  intro done _ _ hp _ node _ _ hd _ ht
  rcases done with _ | ⟨_, _ | ⟨_, _ | ⟨_, _⟩⟩⟩
  · cases hp
    obtain ⟨-, -, rfl, rfl, rfl⟩ := delivers_push hd
    refine ⟨rfl, rfl, fun eventId hi => ?_, ?_, ?_⟩
    · cases hi
      refine ⟨rfl, fun url s hs => ?_⟩
      cases hs
    · intro _ _ _ _ hs
      cases hs
    · intro _ _ hs
      cases hs
  · -- the relay comes after the node itself
    cases hp
    obtain ⟨-, hr, -⟩ := delivers_push hd
    cases hr
    have hst : ((start .empty).turns deployment [push own]).db.takesPresence
        (presence "park" 1 true) = false := by decide +kernel
    exact absurd (ht.symm.trans hst) (by decide)
  · cases hp
    obtain ⟨hk, -⟩ := delivers_push hd
    cases hk
  · simp [relayLast] at hp

end Relay

open OneAgent Relay in
/-- The relay comes first: the node's own delivery is accepted, its record is the only one, entered and
with a current heartbeat of the node, and the list is empty. -/
theorem relay_hides :
    Accepts deployment ((start .empty).turns deployment [push relayed]).db own ∧
      (∀ q node sourceId, RunDelivers deployment .empty relayFirst q node sourceId →
        q = presence "park" 1 true) ∧
      (((start .empty).turns deployment relayFirst).db.nodePresences.any fun h =>
        h.nodeId = "n" && h.agentDid = "did:key:a" && heartbeatIsCurrent h 1000) = true ∧
      (((start .empty).turns deployment relayFirst).db.presences deployment 1000
        everywhere).toOption.map (fun reply => reply.presences.isEmpty) = some true := by
  refine ⟨⟨?_, by decide +kernel, by decide +kernel⟩, fun q node sourceId => ?_,
    by decide +kernel, by decide +kernel⟩
  · intro _ hs
    cases hs
  · exact delivers_park (Or.inl rfl)

open OneAgent Relay in
theorem own_deliveries_listed_relayLast :
    ∃ reply, ((start .empty).turns deployment relayLast).db.presences deployment 1000
      everywhere = .ok reply ∧ presence "park" 1 true ∈ reply.presences := by
  have ha : Accepts deployment (start .empty).db own := by
    refine ⟨?_, by decide +kernel, by decide +kernel⟩
    intro _ ho
    cases ho
  refine own_deliveries_listed deployment .empty "did:key:a" "n" relayLast ownOnly
    (presence "park" 1 true) rfl _ (own_delivered [] _ rfl ha)
    (fun q node sourceId hq _ => .inr (delivers_park (Or.inr rfl) hq)) rfl 1000 ?_ everywhere rfl rfl
    ?_ ?_
  · have hc : (((start .empty).turns deployment relayLast).db.nodePresences.any
        fun h => h.nodeId = "n" && h.agentDid = "did:key:a" && heartbeatIsCurrent h 1000) = true := by
      decide +kernel
    obtain ⟨heartbeat, hm, hc⟩ := any_eq_true.1 hc
    simp only [Bool.and_eq_true, decide_eq_true_eq] at hc
    exact ⟨heartbeat, hm, hc.1.1, hc.1.2, hc.2⟩
  · intro _ hn
    cases hn
  · intro _ hs
    cases hs

end WattGateway.Gateway
