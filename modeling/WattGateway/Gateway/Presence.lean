import WattGateway.Gateway.Agreement
import WattGateway.Gateway.SpaceRoutes

/-!
# Presences by sequence number

Signed presences delivered as events, in any order and any number of times. The table keeps for each
network, space and agent the record with the highest sequence number (`Tracks`), and a delivery is
stored as an event if and only if it raises the number of its key (`last_sequence_wins`).
-/

namespace WattGateway.Gateway

open List Option Table World

variable {X : Deployment} {sourceId : Option Nat}

/-! ## Deliveries -/

def Turn.delivery (turn : Turn) : Option SignedNodeEvent :=
  match turn.submit with
  | .event e _ => if e.payload.dataKind = .spacePresence then some e else none
  | .snapshot _ _ _ _ => none

def deliveries (turns : List Turn) : List SignedNodeEvent := turns.filterMap Turn.delivery

def delivered (X : Deployment) (turns : List Turn) : List SignedSpacePresence :=
  (deliveries turns).filterMap fun e => (X.presenceOfValue e.payload.payload).toOption

/-- The rows that a turn may write besides those of its delivery. -/
def Turn.Elsewhere (X : Deployment) (turn : Turn) (target : Target) : Prop :=
  turn.delivery = none ∧ target ∈ turn.submit.targets X ∨
    ∃ url s, turn.remote (.signedSnapshot (.http url)) = some s ∧ target ∈ snapshotTargets X s

/-- Valid presences with different sequence numbers for each agent in a network, delivered as events
with different ids. Other submissions may come between, but they bring no presence and do not take
the ids. -/
structure Deliveries (X : Deployment) (sources : Sources) (turns : List Turn) : Prop where
  valid : ∀ e ∈ deliveries turns, Accepts X (.start sources) e
  ids : ∀ e ∈ deliveries turns, ∀ e' ∈ deliveries turns, e.payload.eventId = e'.payload.eventId →
    e.payload.payload = e'.payload.payload
  seqs : ∀ p ∈ delivered X turns, ∀ p' ∈ delivered X turns,
    p.record.networkId = p'.record.networkId → p.record.agentDid = p'.record.agentDid →
      p.record.seq = p'.record.seq → p = p'
  elsewhere : ∀ turn ∈ turns, ∀ target, turn.Elsewhere X target →
    (∀ key, target ≠ .presence key) ∧ ∀ e ∈ deliveries turns, target ≠ .uiEvent e.payload.eventId

/-- The highest of the presences that satisfy a condition. -/
def Highest (ps : List SignedSpacePresence) (c : SignedSpacePresence → Prop)
    (p : SignedSpacePresence) : Prop :=
  p ∈ ps ∧ c p ∧ ∀ q ∈ ps, c q → q.record.seq ≤ p.record.seq

/-! ## One delivery -/

variable {e : SignedNodeEvent}

lemma accepted_presence {db : Db} (h : Accepts X db e) (hk : e.payload.dataKind = .spacePresence) :
    e.payload.provisionalPolicy = .neverBeforeConfirmation ∧
      ∃ p, X.presenceOfValue e.payload.payload = .ok p ∧ validatePresence X p = .ok () := by
  have hv := h.2.2
  unfold validateEvent at hv
  rw [hk] at hv
  simp only [bind_eq_ok, failIf_eq_ok, not_or, not_not] at hv
  obtain ⟨_, ho, p, hr, hp⟩ := hv
  exact ⟨ho.2, p, hr, hp⟩

variable {p : SignedSpacePresence}

/-- How a delivery ends: it is stored with its event, or the table has one that is as high, or the
id of the event is taken. -/
lemma EventStored.presence {announceP2p : Bool}
    {c c' : Core} {r : Except String (Option Nat)} (h : EventStored X e sourceId announceP2p c r c')
    (hki : e.payload.dataKind = .spacePresence)
    (hpo : e.payload.provisionalPolicy = .neverBeforeConfirmation)
    (hre : X.presenceOfValue e.payload.payload = .ok p) :
    (c.db.takesPresence p = false ∨ (c.db.uiEvents.get? e.payload.eventId).isSome) ∧ c'.db = c.db ∨
      c.db.takesPresence p = true ∧ c.db.uiEvents.get? e.payload.eventId = none ∧
        c'.db.spacePresence = (c.db.storePresence p e.payload.nodeId sourceId).spacePresence ∧
        ∃ cursor now, c'.db.uiEvents =
          (c.db.storeUiEvent (spaceEventRecord e.payload sourceId) cursor now).uiEvents := by
  have hs : isSpaceEvent e = true := by
    unfold isSpaceEvent
    rw [hki]
    rfl
  have he : c.db.spaceRecord X e.payload sourceId = .ok (if c.db.takesPresence p then
      some (c.db.storePresence p e.payload.nodeId sourceId) else none) := by
    unfold Db.spaceRecord
    rw [hki, hre]
  cases h with
  | ephemeral hp | heartbeatUnread hp | heartbeat hp => cases hpo.symm.trans hp
  | unprojected _ _ htp => cases htp.symm.trans (trustedProjection_of_space hs)
  | inserted hp hn | duplicate hp hn => cases hs.symm.trans hn
  | spaceUnread _ _ _ hr => cases hr.symm.trans he
  | spaceStale _ _ hr =>
    left
    refine ⟨.inl ?_, rfl⟩
    rw [hr] at he
    cases ht : c.db.takesPresence p with
    | false => rfl
    | true =>
      rw [ht] at he
      cases he
  | spaceTaken _ _ _ hr row hold =>
    left
    refine ⟨.inr ?_, rfl⟩
    rw [spaceRecord_others hr] at hold
    exact isSome_iff_exists.2 ⟨row, hold⟩
  | spaceStored _ _ _ hr hw cursor now =>
    right
    rw [hr] at he
    cases ht : c.db.takesPresence p with
    | false =>
      rw [ht] at he
      cases he
    | true =>
      rw [ht] at he
      cases he
      exact ⟨rfl, hw, rfl, cursor, now, rfl⟩

/-! ## The table along a run -/

section

variable {sources : Sources}

/-- After the turns the table holds, for each key, the highest of what they delivered, and the ids of
the run's deliveries are taken by deliveries only. -/
structure Tracks (X : Deployment) (sources : Sources) (turns done : List Turn) (w : World) : Prop where
  alone : w.Alone
  sources : w.db.nodeSources = sources
  rows : ∀ key row, w.db.spacePresence.get? key = some row → row.seq = row.payload.record.seq ∧
      Highest (delivered X done) (fun p => presenceKey p = key) row.payload
  keys : ∀ p ∈ delivered X done, (w.db.spacePresence.get? (presenceKey p)).isSome
  ids : ∀ e ∈ deliveries turns, (w.db.uiEvents.get? e.payload.eventId).isSome →
    ∃ e' ∈ deliveries done, e'.payload.eventId = e.payload.eventId

lemma delivered_concat (done : List Turn) (turn : Turn) :
    delivered X (done ++ [turn]) = delivered X done ++
      (turn.delivery.bind fun e => (X.presenceOfValue e.payload.payload).toOption).toList := by
  unfold delivered deliveries
  rw [filterMap_append, filterMap_append]
  congr 1
  cases hd : turn.delivery with
  | none => simp [hd]
  | some e => cases h : (X.presenceOfValue e.payload.payload).toOption <;> simp [hd, h]

variable {turns done : List Turn} {w : World}

lemma Tracks.takes_iff (h : Tracks X sources turns done w) (p : SignedSpacePresence) :
    w.db.takesPresence p = true ↔
      ∀ q ∈ delivered X done, presenceKey q = presenceKey p → q.record.seq < p.record.seq := by
  unfold Db.takesPresence
  cases hr : w.db.spacePresence.get? (presenceKey p) with
  | none =>
    refine ⟨fun _ q hq hk => ?_, fun _ => rfl⟩
    have ho := h.keys q hq
    rw [hk, hr] at ho
    cases ho
  | some row =>
    obtain ⟨hs, hm, hk, hx⟩ := h.rows _ row hr
    rw [all_some, decide_eq_true_eq, hs]
    constructor
    · exact fun hlt q hq hq' => Nat.lt_of_le_of_lt (hx q hq hq') hlt
    · exact fun ha => ha row.payload hm hk

lemma deliveries_concat (done : List Turn) (turn : Turn) :
    deliveries (done ++ [turn]) = deliveries done ++ turn.delivery.toList := by
  unfold deliveries
  rw [filterMap_append]
  cases hd : turn.delivery <;> simp [hd]

variable {turn : Turn} {post : List Turn}

lemma Tracks.step_other (hrun : Deliveries X sources turns)
    (htu : turns = done ++ turn :: post) (h : Tracks X sources turns done w)
    (hno : turn.delivery = none) : Tracks X sources turns (done ++ [turn]) (w.turn X turn) := by
  obtain ⟨hl, c', hu, hc⟩ := turn_submitted (X := X) h.alone turn
  have hb : (w.turn X turn).db = c'.db := congrArg Core.db hc
  have hmem : turn ∈ turns := by rw [htu]; simp
  have ha : ∀ target, ¬ turn.Elsewhere X target → w.db.AgreeAt (· = .row target) c'.db :=
    fun target ht => hu.leaves (fun hm => ht (Or.inl ⟨hno, hm⟩))
      fun url s hs hm => ht (Or.inr ⟨url, s, hs, hm⟩)
  have ho : ∀ key, c'.db.spacePresence.get? key = w.db.spacePresence.get? key := fun key =>
    (ha (.presence key) fun he => (hrun.elsewhere turn hmem _ he).1 key rfl).presence key rfl
  have hi : ∀ e ∈ deliveries turns,
      c'.db.uiEvents.get? e.payload.eventId = w.db.uiEvents.get? e.payload.eventId := fun e he =>
    (ha (.uiEvent e.payload.eventId) fun h' =>
      (hrun.elsewhere turn hmem _ h').2 e he rfl).uiEvent_eq hu.grows rfl
  have hd : delivered X (done ++ [turn]) = delivered X done := by
    rw [delivered_concat, hno]
    simp
  have hde : deliveries (done ++ [turn]) = deliveries done := by
    rw [deliveries_concat, hno]
    simp
  refine ⟨hl, ?_, ?_, ?_, ?_⟩
  · rw [hb, hu.grows.sources]
    exact h.sources
  · intro key row hr
    rw [hb, ho] at hr
    rw [hd]
    exact h.rows key row hr
  · intro p hp
    rw [hd] at hp
    rw [hb, ho]
    exact h.keys p hp
  · intro e he hso
    rw [hb, hi e he] at hso
    rw [hde]
    exact h.ids e he hso

lemma delivery_eq_some (h : turn.delivery = some e) :
    ∃ announceP2p, turn.submit = .event e announceP2p ∧ e.payload.dataKind = .spacePresence := by
  unfold Turn.delivery at h
  split at h
  · split at h
    · rename_i hs hk
      cases h
      exact ⟨_, hs, hk⟩
    · cases h
  · cases h

/-- How a delivery ends in a run: it is no news and nothing changes, or it is stored with its
event. -/
lemma Tracks.delivery_end (hrun : Deliveries X sources turns)
    (htu : turns = done ++ turn :: post) (h : Tracks X sources turns done w)
    (hd : turn.delivery = some e) (hre : X.presenceOfValue e.payload.payload = .ok p) :
    w.db.takesPresence p = false ∧
        (∀ key, (w.turn X turn).db.spacePresence.get? key = w.db.spacePresence.get? key) ∧
        (∀ e' ∈ deliveries turns, (w.turn X turn).db.uiEvents.get? e'.payload.eventId =
          w.db.uiEvents.get? e'.payload.eventId) ∨
      w.db.takesPresence p = true ∧ w.db.uiEvents.get? e.payload.eventId = none ∧
        (∀ key, (w.turn X turn).db.spacePresence.get? key = if key = presenceKey p then
          some ⟨p.record.seq, e.payload.nodeId, (w.db.sourceOf e).map Prod.fst, p⟩
          else w.db.spacePresence.get? key) ∧
        ∀ e' ∈ deliveries turns, ((w.turn X turn).db.uiEvents.get? e'.payload.eventId).isSome ↔
          e'.payload.eventId = e.payload.eventId ∨
            (w.db.uiEvents.get? e'.payload.eventId).isSome := by
  obtain ⟨-, c', hsub, hc⟩ := turn_submitted (X := X) h.alone turn
  have hdb : (w.turn X turn).db = c'.db := congrArg Core.db hc
  have hmem : turn ∈ turns := by rw [htu]; simp
  have he : e ∈ deliveries turns := mem_filterMap.2 ⟨turn, hmem, hd⟩
  obtain ⟨_, hsu, hk⟩ := delivery_eq_some hd
  have ha : Accepts X w.db e := (hrun.valid e he).congr h.sources
  rw [hsu] at hsub
  obtain ⟨_, hrec⟩ := hsub
  cases hrec with
  | refused _ hn => exact absurd ha hn
  | taken _ c₁ hr _ _ hst =>
    have hsa : ∀ target, ¬ turn.Elsewhere X target → w.db.AgreeAt (· = .row target) c₁.db :=
      fun target ht => hr.leaves fun url s hs hm => ht (Or.inr ⟨url, s, hs, hm⟩)
    have ho : ∀ key, c₁.db.spacePresence.get? key = w.db.spacePresence.get? key := fun key =>
      (hsa (.presence key) fun h' => (hrun.elsewhere turn hmem _ h').1 key rfl).presence key rfl
    have hi : ∀ e' ∈ deliveries turns,
        c₁.db.uiEvents.get? e'.payload.eventId = w.db.uiEvents.get? e'.payload.eventId :=
      fun e' he' => (hsa (.uiEvent e'.payload.eventId) fun h' =>
        (hrun.elsewhere turn hmem _ h').2 e' he' rfl).uiEvent_eq hr.grows rfl
    have htak : c₁.db.takesPresence p = w.db.takesPresence p := by
      unfold Db.takesPresence
      rw [ho]
    obtain ⟨hpo, -⟩ := accepted_presence ha hk
    rw [hdb, ← htak]
    rcases hst.presence hk hpo hre with ⟨hw, hu⟩ |
      ⟨hne, hnew, hp, _, _, hv⟩
    · rw [hu]
      refine .inl ⟨?_, ho, hi⟩
      rcases hw with hsta | hta
      · exact hsta
      · -- the id can only be taken by an earlier delivery of the same presence
        rw [hi e he] at hta
        obtain ⟨e', he', hid⟩ := h.ids e he hta
        have hb : e' ∈ deliveries turns := by
          rw [htu]
          unfold deliveries at he' ⊢
          rw [filterMap_append]
          exact mem_append_left _ he'
        have hpa := hrun.ids e' hb e he hid
        by_contra hn
        rw [htak] at hn
        have hse := (h.takes_iff p).1 (Bool.eq_true_of_not_eq_false hn) p
          (mem_filterMap.2 ⟨e', he', by rw [hpa, hre]; rfl⟩) rfl
        exact Nat.lt_irrefl _ hse
    · refine .inr ⟨hne, (hi e he).symm.trans hnew, fun key => ?_, fun e' he' => ?_⟩
      · rw [hp, ← ho key]
        exact get?_upsert _ _ _ _
      · rw [hv, ← hi e' he']
        unfold Db.storeUiEvent
        rw [get?_insertNew, isSome_or, Bool.or_eq_true, or_comm]
        refine or_congr ?_ Iff.rfl
        show (if e'.payload.eventId = e.payload.eventId then _ else none).isSome = true ↔ _
        split <;> simp [*]

lemma Tracks.stale {w' : World} (h : Tracks X sources turns done w) (hal : w'.Alone)
    (hsou : w'.db.nodeSources = w.db.nodeSources) (hde : turn.delivery = some e)
    (hre : X.presenceOfValue e.payload.payload = .ok p) (hst : w.db.takesPresence p = false)
    (hro : ∀ key, w'.db.spacePresence.get? key = w.db.spacePresence.get? key)
    (hids : ∀ e' ∈ deliveries turns, w'.db.uiEvents.get? e'.payload.eventId =
      w.db.uiEvents.get? e'.payload.eventId) : Tracks X sources turns (done ++ [turn]) w' := by
  have hd : delivered X (done ++ [turn]) = delivered X done ++ [p] := by
    rw [delivered_concat, hde]
    simp [hre, Except.toOption]
  obtain ⟨row, hr, hle⟩ : ∃ row, w.db.spacePresence.get? (presenceKey p) = some row ∧
      p.record.seq ≤ row.seq := by
    unfold Db.takesPresence at hst
    cases hr : w.db.spacePresence.get? (presenceKey p) with
    | none =>
      rw [hr] at hst
      cases hst
    | some row =>
      rw [hr] at hst
      exact ⟨row, rfl, Nat.not_lt.1 (of_decide_eq_false hst)⟩
  refine ⟨hal, hsou.trans h.sources, fun key row' hr' => ?_, fun q hq => ?_, fun e' he' hs => ?_⟩
  · rw [hro] at hr'
    obtain ⟨hseq, hin, hk, hm⟩ := h.rows key row' hr'
    rw [hd]
    refine ⟨hseq, mem_append_left _ hin, hk, fun q hq hq' => ?_⟩
    rcases mem_append.1 hq with hq | hq
    · exact hm q hq hq'
    · rw [mem_singleton.1 hq] at hq' ⊢
      rw [← hq', hr] at hr'
      cases hr'
      rw [← hseq]
      exact hle
  · rw [hd] at hq
    rw [hro]
    rcases mem_append.1 hq with hq | hq
    · exact h.keys q hq
    · rw [mem_singleton.1 hq, hr]
      rfl
  · rw [hids e' he'] at hs
    obtain ⟨e'', he'', hi⟩ := h.ids e' he' hs
    rw [deliveries_concat]
    exact ⟨e'', mem_append_left _ he'', hi⟩

lemma Tracks.stored {w' : World} (h : Tracks X sources turns done w)
    (hal : w'.Alone) (hsou : w'.db.nodeSources = w.db.nodeSources)
    (hdel : turn.delivery = some e) (hre : X.presenceOfValue e.payload.payload = .ok p)
    (hne : w.db.takesPresence p = true)
    (hro : ∀ key, w'.db.spacePresence.get? key = if key = presenceKey p then
      some ⟨p.record.seq, e.payload.nodeId, sourceId, p⟩ else w.db.spacePresence.get? key)
    (hids : ∀ e' ∈ deliveries turns, (w'.db.uiEvents.get? e'.payload.eventId).isSome ↔
      e'.payload.eventId = e.payload.eventId ∨ (w.db.uiEvents.get? e'.payload.eventId).isSome) :
    Tracks X sources turns (done ++ [turn]) w' := by
  have hd : delivered X (done ++ [turn]) = delivered X done ++ [p] := by
    rw [delivered_concat, hdel]
    simp [hre, Except.toOption]
  have ha := (h.takes_iff p).1 hne
  refine ⟨hal, hsou.trans h.sources, fun key row hr => ?_, fun q hq => ?_, fun e' he' hs => ?_⟩
  · rw [hro] at hr
    rw [hd]
    split at hr
    · rename_i hk
      cases hr
      refine ⟨rfl, mem_append_right _ (mem_singleton_self p), hk.symm, fun q hq hq' => ?_⟩
      rcases mem_append.1 hq with hq | hq
      · exact Nat.le_of_lt (ha q hq (hq'.trans hk))
      · rw [mem_singleton.1 hq]
    · rename_i hk
      obtain ⟨hseq, hin, hk', hm⟩ := h.rows key row hr
      refine ⟨hseq, mem_append_left _ hin, hk', fun q hq hq' => ?_⟩
      rcases mem_append.1 hq with hq | hq
      · exact hm q hq hq'
      · rw [mem_singleton.1 hq] at hq'
        exact absurd hq'.symm hk
  · rw [hd] at hq
    rw [hro]
    split
    · rfl
    · rename_i hk
      rcases mem_append.1 hq with hq | hq
      · exact h.keys q hq
      · rw [mem_singleton.1 hq] at hk
        exact absurd rfl hk
  · rw [deliveries_concat, hdel]
    rcases (hids e' he').1 hs with hi | hold
    · exact ⟨e, mem_append_right _ (mem_singleton_self e), hi.symm⟩
    · obtain ⟨e'', he'', hi'⟩ := h.ids e' he' hold
      exact ⟨e'', mem_append_left _ he'', hi'⟩

section

variable (hrun : Deliveries X sources turns)
include hrun

lemma Deliveries.read (he : e ∈ deliveries turns) :
    ∃ p, X.presenceOfValue e.payload.payload = .ok p ∧ validatePresence X p = .ok () := by
  obtain ⟨_, -, hd⟩ := mem_filterMap.1 he
  obtain ⟨-, -, hk⟩ := delivery_eq_some hd
  exact (accepted_presence (hrun.valid e he) hk).2

lemma Tracks.step (htu : turns = done ++ turn :: post) (h : Tracks X sources turns done w) :
    Tracks X sources turns (done ++ [turn]) (w.turn X turn) := by
  cases hd : turn.delivery with
  | none => exact h.step_other hrun htu hd
  | some e =>
    have he : e ∈ deliveries turns :=
      mem_filterMap.2 ⟨turn, by rw [htu]; simp, hd⟩
    obtain ⟨_, hre, -⟩ := hrun.read he
    have ha := (turn_submitted (X := X) h.alone turn).1
    have hs := (turn_grows (X := X) h.alone turn).sources
    rcases h.delivery_end hrun htu hd hre with ⟨ht, hr, hi⟩ |
      ⟨hne, -, hr, hi⟩
    · exact h.stale ha hs hd hre ht hr hi
    · exact h.stored ha hs hd hre hne hr hi

lemma tracks_turns (ht : turns = done ++ post) :
    Tracks X sources turns done ((start sources).turns X done) := by
  induction done using List.reverseRecOn generalizing post with
  | nil =>
    refine ⟨alone_start sources, rfl, ?_, ?_, ?_⟩
    · intro _ _ hr
      cases hr
    · intro _ hp
      cases hp
    · intro _ _ ho
      cases ho
  | append_singleton done turn ih =>
    rw [turns_concat]
    have hs : turns = done ++ turn :: post := by rw [ht, append_assoc]; rfl
    exact (ih hs).step hrun hs

/-! ## What the routes see -/

def OfAgent (networkId agentDid : String) (p : SignedSpacePresence) : Prop :=
  p.record.networkId = networkId ∧ p.record.agentDid = agentDid

section

variable (h : Tracks X sources turns turns w)
include h

lemma Tracks.row_iff (key : String × String × String) (p : SignedSpacePresence) :
    (w.db.spacePresence.get? key).map SpacePresenceRow.payload = some p ↔
      Highest (delivered X turns) (fun q => presenceKey q = key) p := by
  constructor
  · intro hp
    obtain ⟨row, hr, rfl⟩ := map_eq_some_iff.1 hp
    exact (h.rows key row hr).2
  · rintro ⟨hm, hk, hx⟩
    obtain ⟨row, hr⟩ := isSome_iff_exists.1 (h.keys p hm)
    rw [hk] at hr
    obtain ⟨-, hm', hk', hx'⟩ := h.rows key row hr
    have ha : presenceKey row.payload = presenceKey p := hk'.trans hk.symm
    have hs : row.payload.record.seq = p.record.seq :=
      Nat.le_antisymm (hx row.payload hm' hk') (hx' p hm hk)
    rw [hr, map_some, hrun.seqs row.payload hm' p hm (congrArg (fun k => k.1) ha)
      (congrArg (fun k => k.2.2) ha) hs]

lemma Tracks.latest_iff {key : String × String × String} {row : SpacePresenceRow} :
    w.db.Latest key row ↔ w.db.spacePresence.get? key = some row ∧
      Highest (delivered X turns) (OfAgent key.1 key.2.2) row.payload := by
  constructor
  · rintro ⟨hr, hf⟩
    obtain ⟨hseq, hm, hk, -⟩ := h.rows key row hr
    refine ⟨hr, hm, ?_, fun q hq ha => ?_⟩
    · rw [← hk]
      exact ⟨rfl, rfl⟩
    · obtain ⟨row', hr'⟩ := isSome_iff_exists.1 (h.keys q hq)
      obtain ⟨hseq', -, -, hx'⟩ := h.rows _ row' hr'
      have hn := hf _ row' hr' ha.1 ha.2
      unfold comesFirst at hn
      have hle := Nat.not_lt.1 (of_decide_eq_false (Bool.or_eq_false_iff.1 hn).1)
      have hle : row'.seq ≤ row.seq := hle
      have hq' := hx' q hq rfl
      omega
  · rintro ⟨hr, hm, ha, hx⟩
    obtain ⟨_, -, hk, -⟩ := h.rows key row hr
    refine ⟨hr, fun key' row' hr' he ha' => ?_⟩
    obtain ⟨_, hm', hk', -⟩ := h.rows key' row' hr'
    have ho : OfAgent key.1 key.2.2 row'.payload := by
      rw [← he, ← ha', ← hk']
      exact ⟨rfl, rfl⟩
    have hle := hx row'.payload hm' ho
    unfold comesFirst
    refine Bool.or_eq_false_iff.2 ⟨decide_eq_false ?_, ?_⟩
    · show ¬ row.seq < row'.seq
      omega
    · -- of equal numbers the records are the same, and so are their spaces
      refine Bool.and_eq_false_iff.2 (or_iff_not_imp_left.2 fun hs => ?_)
      have hs : row'.seq = row.seq := of_decide_eq_true (Bool.eq_true_of_not_eq_false hs)
      have hp : row'.payload = row.payload := by
        refine hrun.seqs _ hm' _ hm (ho.1.trans ha.1.symm) (ho.2.trans ha.2.symm) ?_
        omega
      rw [hp] at hk'
      refine decide_eq_false ?_
      show ¬ key'.2.1 < key.2.1
      rw [← hk', hk]
      exact String.lt_irrefl _

/-- The filters of a query on the stored row of a presence: its network, its space and the status of
its source. -/
def Db.Passes (db : Db) (networkId spaceId : Option String) (p : SignedSpacePresence) (node : String) :
    Prop :=
  ∃ row, db.spacePresence.get? (presenceKey p) = some row ∧ row.sourceNodeId = node ∧
    (∀ n ∈ networkId, n = p.record.networkId) ∧ (∀ s ∈ spaceId, s = p.record.spaceId) ∧
    db.visible row.sourceId = true

lemma Tracks.mem_presenceValues {networkId spaceId : Option String} {node : String} :
    (p, node) ∈ w.db.presenceValues networkId spaceId ↔
      Highest (delivered X turns) (OfAgent p.record.networkId p.record.agentDid) p ∧
        w.db.Passes networkId spaceId p node := by
  rw [Db.mem_presenceValues]
  constructor
  · rintro ⟨key, row, hl, hva, hn, -, hs, hi⟩
    cases hva
    obtain ⟨hr, hh⟩ := (h.latest_iff hrun).1 hl
    obtain ⟨-, -, hk, -⟩ := h.rows key row hr
    subst hk
    exact ⟨hh, row, hr, rfl, hn, hs, hi⟩
  · rintro ⟨hh, row, hr, rfl, hn, hs, hi⟩
    have ha : row.payload = p := by
      have hke : Highest (delivered X turns) (fun q => presenceKey q = presenceKey p) p :=
        ⟨hh.1, rfl, fun q hq hk => hh.2.2 q hq
          ⟨congrArg (fun k => k.1) hk, congrArg (fun k => k.2.2) hk⟩⟩
      have hm := (h.row_iff hrun (presenceKey p) p).2 hke
      rw [hr] at hm
      exact Option.some.inj hm
    refine ⟨presenceKey p, row, (h.latest_iff hrun).2 ⟨hr, ?_⟩, by rw [ha], hn, ?_, hs, hi⟩
    · rw [ha]
      exact hh
    · -- a valid presence names its network
      obtain ⟨_, he, hp⟩ := mem_filterMap.1 hh.1
      obtain ⟨_, hre, hv⟩ := hrun.read he
      rw [hre] at hp
      cases hp
      exact network_of_validatePresence hv

end

end

end

/-- For valid signed presences with different sequence numbers for each agent in a network, delivered
as events with different ids, in any order and any number of times, among other submissions:

* the table ends with exactly the highest presence of each network, space and agent;
* the list and the single-agent route show a presence if and only if it is the highest of its agent in
  its network and passes their filters;
* a delivery is stored as a new event if and only if its number exceeds all earlier ones of its
  network, space and agent. -/
theorem last_sequence_wins (X : Deployment) (sources : Sources) (turns : List Turn)
    (h : Deliveries X sources turns) :
    let db := ((start sources).turns X turns).db
    let ps := delivered X turns
    (∀ key p, (db.spacePresence.get? key).map SpacePresenceRow.payload = some p ↔
      Highest ps (fun q => presenceKey q = key) p) ∧
    (∀ now query reply, db.presences X now query = .ok reply → ∀ p, p ∈ reply.presences ↔
      Highest ps (OfAgent p.record.networkId p.record.agentDid) p ∧
        ∃ node, db.Passes query.networkId query.spaceId p node ∧
          isPresent db.nodePresences now (p, node) = true) ∧
    (∀ now agentId query p, (∃ reply, db.agentPresence now agentId query = .ok reply ∧
        reply.presence = p) ↔
      validatePresenceQuery query = .ok () ∧ Highest ps (OfAgent query.networkId agentId) p ∧
        (∃ node, db.Passes (some query.networkId) query.spaceId p node) ∧ p.record.entered = true) ∧
    ∀ done turn post e p, turns = done ++ turn :: post → turn.delivery = some e →
      X.presenceOfValue e.payload.payload = .ok p →
      let before := ((start sources).turns X done).db
      let after := ((start sources).turns X (done ++ [turn])).db
      (before.uiEvents.get? e.payload.eventId = none ∧
          (after.uiEvents.get? e.payload.eventId).isSome ↔
        ∀ q ∈ delivered X done, presenceKey q = presenceKey p → q.record.seq < p.record.seq) := by
  intro _ ps
  have ht : Tracks X sources turns turns ((start sources).turns X turns) :=
    tracks_turns h (append_nil turns).symm
  refine ⟨ht.row_iff h, fun now query reply hr p => ?_, fun now agentId query p => ?_,
    fun done turn post e p hu hd hre => ?_⟩
  · rw [Db.mem_presences hr]
    constructor
    · rintro ⟨node, hv, hpre⟩
      obtain ⟨hh, hp⟩ := (ht.mem_presenceValues h).1 hv
      exact ⟨hh, node, hp, hpre⟩
    · rintro ⟨hh, node, hp, hpre⟩
      exact ⟨node, (ht.mem_presenceValues h).2 ⟨hh, hp⟩, hpre⟩
  · constructor
    · rintro ⟨reply, hr, rfl⟩
      obtain ⟨node, hv, ha, hen⟩ := Db.agentPresence_ok hr
      obtain ⟨hh, hp⟩ := (ht.mem_presenceValues h).1 hv
      have hnet : query.networkId = reply.presence.record.networkId := by
        obtain ⟨_, -, -, hn, -⟩ := hp
        exact hn _ rfl
      refine ⟨?_, ?_, ⟨node, hp⟩, hen⟩
      · unfold Db.agentPresence at hr
        cases hq : validatePresenceQuery query with
        | ok => rfl
        | error =>
          rw [hq] at hr
          cases hr
      · rw [hnet, ← ha]
        exact hh
    · rintro ⟨hq, hh, ⟨_, hp⟩, hen⟩
      have hse : Highest ps (OfAgent p.record.networkId p.record.agentDid) p := by
        rw [hh.2.1.1, hh.2.1.2]
        exact hh
      have hv := (ht.mem_presenceValues h).2 ⟨hse, hp⟩
      obtain ⟨reply, hr⟩ := Db.agentPresence_isOk now hq hv hh.2.1.2 hen
      refine ⟨reply, hr, ?_⟩
      -- the value that the route finds is another highest presence of the same agent
      obtain ⟨_, hv', ha', -⟩ := Db.agentPresence_ok hr
      obtain ⟨hh', _, -, -, hn', -⟩ := (ht.mem_presenceValues h).1 hv'
      have hnet' : reply.presence.record.networkId = p.record.networkId :=
        (hn' _ rfl).symm.trans hh.2.1.1.symm
      have ha'' : reply.presence.record.agentDid = p.record.agentDid :=
        ha'.trans hh.2.1.2.symm
      refine h.seqs _ hh'.1 _ hh.1 hnet' ha'' (Nat.le_antisymm ?_ ?_)
      · exact hse.2.2 _ hh'.1 ⟨hnet', ha''⟩
      · exact hh'.2.2 _ hh.1 ⟨hnet'.symm, ha''.symm⟩
  · intro before _
    have ho := tracks_turns h hu
    rw [← ho.takes_iff]
    show before.uiEvents.get? _ = none ∧ (((start sources).turns X (done ++ [turn])).db.uiEvents.get?
      e.payload.eventId).isSome ↔ _
    rw [turns_concat]
    have he : e ∈ deliveries turns :=
      mem_filterMap.2 ⟨turn, by rw [hu]; simp, hd⟩
    rcases ho.delivery_end h hu hd hre with ⟨hst, -, hi⟩ | ⟨hne, hw, -, hi⟩
    · rw [hi e he, hst]
      refine ⟨fun hb => ?_, fun hf => by cases hf⟩
      obtain ⟨hno, hs⟩ := hb
      rw [show ((start sources).turns X done).db.uiEvents.get? e.payload.eventId = none from hno]
        at hs
      cases hs
    · exact ⟨fun _ => hne, fun _ => ⟨hw, (hi e he).2 (Or.inl rfl)⟩⟩

/-! ### One agent in two spaces -/

namespace OneAgent

def presence (spaceId : String) (seq : Nat) (entered : Bool) : SignedSpacePresence where
  record :=
    { networkId := "net", spaceId := spaceId, spaceVersion := "1", destinationPlaceId := "place"
      agentDid := "did:key:a", seq := seq, activity := .null, path := "", entered := entered
      updatedAt := 0, further := .null }
  publicKey := "k1"
  signature := "s1"

def readPresence : Json → Except String SignedSpacePresence
  | .array [.string spaceId, .number (.int seq), .bool entered] =>
    .ok (presence spaceId seq.toNat entered)
  | _ => .error "expected struct SignedSpacePresence"

def readHeartbeat : Json → Except String NodePresence
  | .array [.string nodeId, .number (.int lastHeartbeatMs)] =>
    .ok ⟨nodeId, "did:key:a", lastHeartbeatMs, 60⟩
  | _ => .error "expected struct NodePresence"

def deployment : Deployment :=
  { smallDeployment with
    decodeDidKey := fun _ => .ok (.ed25519 (List.replicate 32 1))
    presenceOfValue := readPresence
    nodePresenceOfValue := readHeartbeat }

def event (eventId nodeId eventKind : String) (dataKind : DataKind)
    (policy : ProvisionalExportPolicy) (payload : Json) : SignedNodeEvent where
  payload :=
    { eventId := eventId, nodeId := nodeId, publicKey := "k1", signerAgentDid := "did:key:a"
      seq := 1, timestamp := 1, dataKind := dataKind, eventKind := eventKind, visibility := .public
      provisionalPolicy := policy, scope := ⟨none, none, none, none⟩, identityKey := none
      payload := payload }
  signature := "s1"

def presenceEvent (eventId nodeId spaceId : String) (seq : Nat) : SignedNodeEvent :=
  event eventId nodeId "space.presence.changed" .spacePresence .neverBeforeConfirmation
    (.array [.string spaceId, .ofNat seq, .bool true])

def heartbeat (nodeId : String) (lastHeartbeatMs : Nat) : SignedNodeEvent :=
  event "heartbeat" nodeId heartbeatKind .presence .ephemeralOnly
    (.array [.string nodeId, .ofNat lastHeartbeatMs])

def push (e : SignedNodeEvent) : Turn := ⟨0, 1, fun _ => none, .event e true⟩

def visits : List Turn :=
  [push (presenceEvent "e1" "n" "park" 1), push (presenceEvent "e2" "n" "hall" 2),
    push (presenceEvent "e1" "n" "park" 1)]

lemma delivered_visits :
    delivered deployment visits = [presence "park" 1 true, presence "hall" 2 true, presence "park" 1 true] :=
  rfl

set_option maxRecDepth 100000

lemma deliveries_visits : Deliveries deployment .empty visits where
  valid := by
    intro e he
    have he : e ∈ [presenceEvent "e1" "n" "park" 1, presenceEvent "e2" "n" "hall" 2,
        presenceEvent "e1" "n" "park" 1] := he
    simp only [mem_cons, not_mem_nil, or_false] at he
    rcases he with rfl | rfl | rfl
    all_goals
      refine ⟨?_, by decide +kernel, by decide +kernel⟩
      intro _ ho
      cases ho
  ids := by
    intro e he e' he'
    have ha : ∀ e ∈ deliveries visits, e = presenceEvent "e1" "n" "park" 1 ∨
        e = presenceEvent "e2" "n" "hall" 2 := by
      intro e he
      have he : e ∈ [presenceEvent "e1" "n" "park" 1, presenceEvent "e2" "n" "hall" 2,
        presenceEvent "e1" "n" "park" 1] := he
      simp only [mem_cons, not_mem_nil, or_false] at he
      rcases he with rfl | rfl | rfl <;> simp
    rcases ha e he with rfl | rfl <;> rcases ha e' he' with rfl | rfl <;> intro hi
    · rfl
    · exact absurd hi (by decide)
    · exact absurd hi (by decide)
    · rfl
  seqs := by
    intro _ hp _ hp'
    rw [delivered_visits] at hp hp'
    simp only [mem_cons, not_mem_nil, or_false] at hp hp'
    rcases hp with rfl | rfl | rfl <;> rcases hp' with rfl | rfl | rfl <;> intro _ _ hseq <;>
      first | rfl | cases hseq
  elsewhere := by
    intro turn ht _ hta
    have hq : turn.delivery.isSome = true ∧ turn.remote = fun _ => none := by
      unfold visits at ht
      simp only [mem_cons, not_mem_nil, or_false] at ht
      rcases ht with rfl | rfl | rfl <;> exact ⟨rfl, rfl⟩
    rcases hta with ⟨hno, -⟩ | ⟨_, _, hs, -⟩
    · rw [hno] at hq
      cases hq.1
    · rw [hq.2] at hs
      cases hs

end OneAgent

open OneAgent in
theorem last_sequence_wins_visits : (((start .empty).turns deployment visits).db.spacePresence.get?
        ("net", "park", "did:key:a")).map SpacePresenceRow.payload = some (presence "park" 1 true) ∧
      ∃ reply, ((start .empty).turns deployment visits).db.agentPresence 0 "did:key:a"
        ⟨"net", none, none⟩ = .ok reply ∧ reply.presence = presence "hall" 2 true := by
  obtain ⟨ht, -, hr, -⟩ := last_sequence_wins deployment .empty visits deliveries_visits
  refine ⟨(ht _ _).2 ⟨?_, rfl, ?_⟩, (hr _ _ _ _).2 ⟨by decide, ⟨?_, ⟨rfl, rfl⟩, ?_⟩, ?_, rfl⟩⟩
  · rw [delivered_visits]
    exact mem_cons_self
  · intro _ hq hk
    rw [delivered_visits] at hq
    simp only [mem_cons, not_mem_nil, or_false] at hq
    rcases hq with rfl | rfl | rfl
    · exact Nat.le_refl _
    · exact absurd hk (by decide)
    · exact Nat.le_refl _
  · rw [delivered_visits]
    exact mem_cons_of_mem _ mem_cons_self
  · intro _ hq _
    rw [delivered_visits] at hq
    simp only [mem_cons, not_mem_nil, or_false] at hq
    rcases hq with rfl | rfl | rfl <;> decide
  · have hso : (((start .empty).turns deployment visits).db.spacePresence.get?
        ("net", "hall", "did:key:a")).map SpacePresenceRow.sourceId = some none := by decide +kernel
    obtain ⟨row, ho, hno⟩ := map_eq_some_iff.1 hso
    refine ⟨row.sourceNodeId, row, ho, rfl, ?_, ?_, by rw [hno]; rfl⟩
    · intro _ hn
      cases hn
      rfl
    · intro _ hs
      cases hs

end WattGateway.Gateway
