import WattGateway.Gateway.Effects
import WattGateway.Gateway.Traces
import WattGateway.Lib.Adopt

/-!
# Two gateways and one node

Each gateway announces the snapshot it holds of a node, and fetches the other's unless its own is as
new. So the two come to hold the same snapshot if their times differ (`peers_converge_iff`), and two
snapshots of one time stay where they are (`equal_times_stay`).
-/

namespace WattGateway.Gateway

open Next Option Table Function World

variable {nodeId : String} {propagationSource : String} {contact : ContactMaterial}
  {g g' : Bool → World} {generatedAt : Int}

/-! ## What a gateway holds -/

/-- A snapshot as it is held, served and compared. -/
abbrev Held := PublicClientSnapshot × String × String

def SignedPublicClientSnapshot.held (s : SignedPublicClientSnapshot) : Held :=
  (s.payload, s.signerAgentDid, s.signature)

def SnapshotRow.held (row : SnapshotRow) : Held := (row.payload, row.signerAgentDid, row.signature)

/-- The snapshot of the node that the table holds. -/
def World.held (w : World) (nodeId : String) : Option Held :=
  (w.db.nodeSnapshots.get? nodeId).map SnapshotRow.held

/-- The row of the node carries the time of its payload, and an artifact with that time is the row's
snapshot. -/
def Kept (nodeId : String) (rows : Table String SnapshotRow)
    (files : String → Option SignedPublicClientSnapshot) : Prop :=
  ∀ row, rows.get? nodeId = some row →
    row.generatedAt = normalizeGeneratedAtMillis row.payload.generatedAt ∧
    ∀ s, files nodeId = some s → s.payload.generatedAt = row.payload.generatedAt → s.held = row.held

variable {X : Deployment} {c' c : Core}

variable {s : SignedPublicClientSnapshot} {expected : Option String} {r : Except String Bool}
  {sourceId : Option Nat} {announceP2p : Bool}

lemma Kept.ingested (hp2p : X.p2p = true) (hke : Kept nodeId c.db.nodeSnapshots c.artifacts)
    (h : Ingested X s sourceId expected announceP2p c r c') :
    Kept nodeId c'.db.nodeSnapshots c'.artifacts := by
  rcases h.snapshots with ⟨-, hr, hf⟩ | ⟨-, hf, hr⟩
  · rw [hr, hf]
    exact hke
  rw [keptArtifacts, if_pos hp2p] at hf
  intro row ho
  by_cases hno : nodeId = s.payload.nodeId
  · have hi : c'.artifacts nodeId = some s := by
      rw [hf, hno]
      exact update_self _ _ _
    rcases hr with ⟨hst, hr⟩ | ⟨-, now, hr⟩
    · -- the row is later than the snapshot, so their times differ
      rw [hr] at ho
      obtain ⟨ht, -⟩ := hke row ho
      refine ⟨ht, fun s' hs' ha => ?_⟩
      cases hi.symm.trans hs'
      exfalso
      unfold Db.takesSnapshot at hst
      rw [show (snapshotRecord s sourceId).nodeId = nodeId from hno.symm, ho] at hst
      have hl := of_decide_eq_false hst
      rw [ht, ← ha] at hl
      exact hl (le_refl _)
    · rw [hr] at ho
      unfold Db.storeSnapshot at ho
      rw [get?_upsert, if_pos (show nodeId = (snapshotRecord s sourceId).nodeId from hno)]
        at ho
      cases ho
      refine ⟨rfl, fun s' hs' _ => ?_⟩
      cases hi.symm.trans hs'
      rfl
  · have hi : c'.artifacts nodeId = c.artifacts nodeId := by
      rw [hf]
      exact update_of_ne hno _ _
    rw [hi]
    refine hke row ?_
    rcases hr with ⟨-, hr⟩ | ⟨-, _, hr⟩
    · rw [← hr]
      exact ho
    · rw [hr] at ho
      unfold Db.storeSnapshot at ho
      rw [get?_upsert, if_neg (show ¬ nodeId = (snapshotRecord s sourceId).nodeId from hno)]
        at ho
      exact ho

/-- The gateway serves of the node the snapshot of its row, or none of that time. -/
structure Sound (nodeId : String) (w : World) : Prop where
  alone : w.Alone
  kept : Kept nodeId w.db.nodeSnapshots (w.artifacts 0)

variable {w : World}

/-- A turn keeps a gateway sound, and the snapshot of a node that it brings no snapshot of. -/
lemma Sound.turn {turn : Turn} (hp2p : X.p2p = true) (h : Sound nodeId w) (hin : turn.inst = 0) :
    Sound nodeId (w.turn X turn) := by
  obtain ⟨ha, c', hs, hc⟩ := turn_submitted (X := X) h.alone turn
  rw [hin] at hc
  have hk : Kept nodeId c'.db.nodeSnapshots c'.artifacts := by
    have hb : Kept nodeId (Core.before w turn).db.nodeSnapshots (Core.before w turn).artifacts := by
      unfold Core.before
      rw [hin]
      exact h.kept
    rcases hs.snapshots with ⟨hr, hf⟩ | ⟨_, _, _, _, _, _, hi, hr, hf⟩
    · rw [hr, hf]
      exact hb
    · rw [hr, hf]
      exact hb.ingested hp2p hi
  refine ⟨ha, ?_⟩
  have hd : (w.turn X turn).db = c'.db := congrArg Core.db hc
  have hf : (w.turn X turn).artifacts 0 = c'.artifacts := congrArg Core.artifacts hc
  rw [hd, hf]
  exact hk

/-- No snapshot of the node comes with the turn, neither submitted nor fetched. -/
def Turn.Quiet (nodeId : String) (turn : Turn) : Prop :=
  (match turn.submit with
    | .snapshot s _ _ _ => s.payload.nodeId ≠ nodeId
    | .event _ _ => True) ∧
  ∀ url s, turn.remote (.signedSnapshot (.http url)) = some s → s.payload.nodeId ≠ nodeId

lemma Ingested.get?_of_ne
    (h : Ingested X s sourceId expected announceP2p c r c') (hne : s.payload.nodeId ≠ nodeId) :
    c'.db.nodeSnapshots.get? nodeId = c.db.nodeSnapshots.get? nodeId := by
  rcases h.snapshots with ⟨-, hr, -⟩ | ⟨-, -, hr⟩
  · rw [hr]
  rcases hr with ⟨-, hr⟩ | ⟨-, _, hr⟩
  · rw [hr]
  · rw [hr]
    unfold Db.storeSnapshot
    rw [get?_upsert]
    exact if_neg hne.symm

lemma Turn.Quiet.held {turn : Turn} (h : turn.Quiet nodeId) (ha : w.Alone) :
    (w.turn X turn).held nodeId = w.held nodeId := by
  obtain ⟨-, c', hu, hc⟩ := turn_submitted (X := X) ha turn
  have hd : (w.turn X turn).db = c'.db := congrArg Core.db hc
  have hsa : c'.db.nodeSnapshots.get? nodeId = w.db.nodeSnapshots.get? nodeId := by
    obtain ⟨hsu, hre⟩ := h
    cases hs : turn.submit with
    | snapshot =>
      rw [hs] at hu hsu
      obtain ⟨r, hin⟩ := hu
      exact hin.get?_of_ne hsu
    | event =>
      rw [hs] at hu
      obtain ⟨_, hr⟩ := hu
      cases hr with
      | refused => rfl
      | taken _ _ he _ _ ht =>
        rw [ht.snapshots.1]
        cases he with
        | complete => rfl
        | unreachable => rfl
        | fetched _ _ _ _ s hf _ _ hin =>
          exact hin.get?_of_ne (hre _ s hf)
  unfold World.held
  rw [hd, hsa]

/-! ## Announcements -/

/-- What `publish_snapshot_announcements` says of a row. -/
def announcement (X : Deployment) (contact : ContactMaterial) (nodeId : String) (row : SnapshotRow) :
    GatewayP2pSyncMessage :=
  .snapshotAnnounceV1 X.localPeerId nodeId row.signerAgentDid row.payload.generatedAt contact

/-- How the handling of an announcement ends without an error. -/
inductive Heard (X : Deployment) (gatewayPeerId nodeId signerAgentDid : String) (generatedAt : Int)
    (contact : ContactMaterial) (c : Core) : Core → Prop
  | own (hown : X.localPeerId = gatewayPeerId) :
      Heard X gatewayPeerId nodeId signerAgentDid generatedAt contact c c
  | current (hcurrent : (c.db.nodeSnapshots.get? nodeId).any fun row =>
        normalizeGeneratedAtMillis generatedAt ≤ row.generatedAt) :
      Heard X gatewayPeerId nodeId signerAgentDid generatedAt contact c c
  | fetched (hold : ((c.db.nodeSnapshots.get? nodeId).any fun row =>
        normalizeGeneratedAtMillis generatedAt ≤ row.generatedAt) = false)
      (s : SignedPublicClientSnapshot)
      (hfetch : c.remote (.signedSnapshot (.iroh contact nodeId)) = some s)
      (hnode : s.payload.nodeId = nodeId) (htime : s.payload.generatedAt = generatedAt)
      (sourceId : Option Nat) (applied : Bool) (c' : Core)
      (hingested : Ingested X s sourceId (some s.signerAgentDid) false c (.ok applied) c') :
      Heard X gatewayPeerId nodeId signerAgentDid generatedAt contact c c'

section

variable {X : Deployment} {inst : Nat} {c : Core}

lemma runs_snapshotIsCurrent {Q : Except String Bool → Core → Prop}
    (h : Q (.ok ((c.db.nodeSnapshots.get? nodeId).any fun row =>
      normalizeGeneratedAtMillis generatedAt ≤ row.generatedAt)) c) :
    Runs inst Q (snapshotIsCurrent nodeId generatedAt) c := by
  unfold snapshotIsCurrent
  refine .bind (runs_read (r := .getSnapshotByNodeId nodeId) (ok ?_))
  exact runs_pure h

lemma runs_handleGossip (X : Deployment) (inst : Nat) (c : Core)
    (propagationSource gatewayPeerId nodeId signerAgentDid : String) (generatedAt : Int)
    (contact : ContactMaterial) : Runs inst (fun r c' => r = .ok () →
        Heard X gatewayPeerId nodeId signerAgentDid generatedAt contact c c')
      (handleGossip X propagationSource
        (.snapshotAnnounceV1 gatewayPeerId nodeId signerAgentDid generatedAt contact)) c := by
  unfold handleGossip
  refine .bind (runs_ofExcept ?_)
  cases validateSnapshotAnnouncement propagationSource gatewayPeerId contact with
  | error => exact fun h => by cases h
  | ok _ =>
    refine ok ?_
    split
    · rename_i ho
      exact runs_pure fun _ => .own ho.2
    unfold fetchUnlessCurrent
    refine .bind (runs_snapshotIsCurrent (ok ?_))
    split
    · rename_i hc
      exact runs_pure fun _ => .current hc
    rename_i hold
    refine .bind (runs_snapshotIsCurrent (ok ?_))
    rw [if_neg hold]
    unfold fetchAndIngestSnapshot
    refine .bind (runs_bailIf (fun _ h => by cases h) fun _ => ok ?_)
    refine .bind (runs_fetch (f := .signedSnapshot _) (fun s hf => ok ?_) ?_)
    · refine .bind (runs_bailIf (fun _ h => by cases h) fun hno => ok ?_)
      refine .bind (runs_bailIf (fun _ h => by cases h) fun _ => ok ?_)
      refine .bind (runs_bailIf (fun _ h => by cases h) fun ht => ok ?_)
      refine .bind (runs_read (r := .findNodeSourceForIdentity _ _) (ok ?_))
      refine .bind (Runs.mono (runs_ingestSignedSnapshot X inst c s _ _ false) ?_)
      rintro (e | applied) c' hin
      · exact fun h => by cases h
      · refine ok (runs_pure fun _ => ?_)
        exact .fetched (Bool.eq_false_iff.2 hold) s hf (of_not_not hno) (of_not_not ht)
          _ applied c' hin
    · exact fun _ h => by cases h

end

/-! ## Two gateways -/

/-- Two gateways that are peers, each an instance with its own tables and artifacts. -/
structure Peers where
  deployment : Bool → Deployment
  p2p : ∀ side, (deployment side).p2p = true
  distinct : (deployment true).localPeerId ≠ (deployment false).localPeerId

/-- What happens at one of two gateways: it handles an announcement of what the other holds, or
something else is submitted to it. -/
inductive PeerStep where
  | gossip (side : Bool) (propagationSource : String) (contact : ContactMaterial)
  | other (side : Bool) (turn : Turn)

variable {steps : Nat → PeerStep} {P : Peers}

namespace Peers

def serving (contact : ContactMaterial) (w : World) : Remote
  | .signedSnapshot (.iroh contact' nodeId) => if contact' = contact then w.artifacts 0 nodeId else none
  | _ => none

/-- The announcement that the other gateway makes of the node, handled on this side; none if there
is nothing to announce or an error. -/
def hear (P : Peers) (nodeId : String) (side : Bool) (propagationSource : String)
    (contact : ContactMaterial) (g : Bool → World) : Option World := do
  let row ← (g !side).db.nodeSnapshots.get? nodeId
  match (machine fun _ => 0).serial 0 (handleGossip (P.deployment side) propagationSource
      (announcement (P.deployment !side) contact nodeId row))
      { g side with remote := serving contact (g !side) } with
  | some (.ok _, w) => some ((machine fun _ => 0).finish 0 w)
  | _ => none

def step (P : Peers) (nodeId : String) (g : Bool → World) : PeerStep → Option (Bool → World)
  | .gossip side propagationSource contact =>
    (P.hear nodeId side propagationSource contact g).map (update g side)
  | .other side turn => some (update g side ((g side).turn (P.deployment side) turn))

end Peers

/-- The step brings no snapshot of the node but by an announcement. -/
def PeerStep.Quiet (nodeId : String) : PeerStep → Prop
  | .gossip _ _ _ => True
  | .other _ turn => turn.inst = 0 ∧ turn.Quiet nodeId

def PeerStep.hears : PeerStep → Option Bool
  | .gossip side _ _ => some side
  | .other _ _ => none

def heldTime : Option Held → Int
  | none => 0
  | some held => normalizeGeneratedAtMillis held.1.generatedAt

/-- Both gateways are sound and hold a snapshot of the node. -/
def Both (nodeId : String) (g : Bool → World) : Prop :=
  ∀ side, Sound nodeId (g side) ∧ ((g side).held nodeId).isSome

lemma held_eq_some (h : (w.held nodeId).isSome) :
    ∃ row, w.db.nodeSnapshots.get? nodeId = some row ∧ w.held nodeId = some row.held := by
  unfold held at h ⊢
  rw [isSome_map] at h
  obtain ⟨row, hr⟩ := isSome_iff_exists.1 h
  exact ⟨row, hr, by rw [hr]; rfl⟩

lemma Peers.distinct_not (P : Peers) (side : Bool) :
    (P.deployment side).localPeerId ≠ (P.deployment !side).localPeerId := by
  cases side with
  | true => exact P.distinct
  | false => exact P.distinct.symm

section

lemma hear_heard {side : Bool} {w' : World} {row : SnapshotRow} (ha : (g side).Alone)
    (hr : (g !side).db.nodeSnapshots.get? nodeId = some row)
    (h : P.hear nodeId side propagationSource contact g = some w') :
    w'.Alone ∧ ∃ c', Heard (P.deployment side) (P.deployment !side).localPeerId nodeId
        row.signerAgentDid row.payload.generatedAt contact
        { (g side).core 0 with remote := Peers.serving contact (g !side) } c' ∧
      w'.db = c'.db ∧ w'.artifacts 0 = c'.artifacts := by
  unfold Peers.hear at h
  rw [hr] at h
  obtain ⟨r, _, hs, ha₁, hh⟩ := runs_handleGossip (P.deployment side) 0
    { (g side).core 0 with remote := Peers.serving contact (g !side) } propagationSource
    (P.deployment !side).localPeerId nodeId row.signerAgentDid row.payload.generatedAt contact
    { g side with remote := Peers.serving contact (g !side) } ha rfl
  simp only [bind_eq_bind, bind_some, announcement, hs] at h
  cases r with
  | error => cases h
  | ok =>
    cases h
    exact ⟨fun t tx ht => alone_dropTx ha₁ t tx ht, _, hh rfl, rfl, rfl⟩

end

variable {gatewayPeerId signerAgentDid : String}

/-- An announcement of another gateway whose artifact is what it announces: that is taken over if it
is later than what is held. -/
lemma Heard.adopts {mine : SnapshotRow} (theirs : Held)
    (h : Heard X gatewayPeerId nodeId signerAgentDid generatedAt contact c c')
    (hp : X.localPeerId ≠ gatewayPeerId) (hm : c.db.nodeSnapshots.get? nodeId = some mine)
    (hse : ∀ s, c.remote (.signedSnapshot (.iroh contact nodeId)) = some s →
      s.payload.generatedAt = generatedAt → s.held = theirs) :
    (c'.db.nodeSnapshots.get? nodeId).map SnapshotRow.held =
      some (if mine.generatedAt < normalizeGeneratedAtMillis generatedAt then theirs
        else mine.held) := by
  cases h with
  | own ho => exact absurd ho hp
  | current hc =>
    rw [hm] at hc ⊢
    rw [if_neg (not_lt.2 (of_decide_eq_true hc))]
    rfl
  | fetched hold s hf hno hi sourceId applied _ hin =>
    rw [hm] at hold
    have he := not_le.1 (of_decide_eq_false hold)
    rw [if_pos he, ← hse s hf hi]
    rcases hin.snapshots with ⟨⟨_, hv⟩, -⟩ | ⟨-, -, hst | hne⟩
    · cases hin with
      | stale hv' | applied hv' => cases hv.symm.trans hv'
    · -- the table holds an earlier one, so it takes the snapshot
      exfalso
      have ht := hst.1
      unfold Db.takesSnapshot at ht
      rw [show (snapshotRecord s sourceId).nodeId = nodeId from hno, hm,
        show (snapshotRecord s sourceId).generatedAt = generatedAt from hi] at ht
      exact of_decide_eq_false ht (le_of_lt he)
    · obtain ⟨-, _, hs⟩ := hne
      rw [hs]
      unfold Db.storeSnapshot
      rw [get?_upsert, if_pos (show nodeId = (snapshotRecord s sourceId).nodeId from hno.symm)]
      rfl

lemma Heard.kept (hp2p : X.p2p = true) (hke : Kept nodeId c.db.nodeSnapshots c.artifacts)
    (h : Heard X gatewayPeerId nodeId signerAgentDid generatedAt contact c c') :
    Kept nodeId c'.db.nodeSnapshots c'.artifacts := by
  cases h with
  | own => exact hke
  | current => exact hke
  | fetched _ _ _ _ _ _ _ _ hin =>
    exact hke.ingested hp2p hin

section

lemma hear_adopts {side : Bool} {w' : World} (hb : Both nodeId g)
    (h : P.hear nodeId side propagationSource contact g = some w') : Sound nodeId w' ∧ w'.held nodeId =
      if heldTime ((g side).held nodeId) < heldTime ((g !side).held nodeId) then
        (g !side).held nodeId
      else (g side).held nodeId := by
  obtain ⟨mine, hm, hhe⟩ := held_eq_some (hb side).2
  obtain ⟨theirs, hth, hhe'⟩ := held_eq_some (hb !side).2
  obtain ⟨ht, -⟩ := (hb side).1.kept mine hm
  obtain ⟨-, hi⟩ := (hb !side).1.kept theirs hth
  obtain ⟨hl, _, hh, hd, hf⟩ := hear_heard (hb side).1.alone hth h
  refine ⟨⟨hl, ?_⟩, ?_⟩
  · rw [hd, hf]
    exact hh.kept (P.p2p side) (hb side).1.kept
  · have ha := hh.adopts theirs.held (P.distinct_not side) hm ?_
    · rw [hhe, hhe', ← apply_ite some]
      unfold held heldTime
      rw [hd, ha, ht]
      rfl
    · intro s he ht
      have hs : (if contact = contact then (g !side).artifacts 0 nodeId else none) = some s :=
        he
      rw [if_pos rfl] at hs
      exact hi s hs ht

lemma step_looks {s : PeerStep} (hb : Both nodeId g) (hq : s.Quiet nodeId)
    (h : P.step nodeId g s = some g') : Both nodeId g' ∧ (fun side => (g' side).held nodeId) =
      Adopt.look heldTime s.hears fun side => (g side).held nodeId := by
  cases s with
  | gossip side propagationSource contact =>
    obtain ⟨w', hw', rfl⟩ := map_eq_some_iff.1 h
    obtain ⟨hs, hh⟩ := hear_adopts hb hw'
    have ho : (w'.held nodeId).isSome := by
      rw [hh]
      split
      · exact (hb !side).2
      · exact (hb side).2
    constructor
    · intro side'
      by_cases hi : side' = side
      · subst hi
        rw [update_self]
        exact ⟨hs, ho⟩
      · rw [update_of_ne hi]
        exact hb side'
    · funext side'
      show _ = Adopt.adopt heldTime side (fun side => (g side).held nodeId) side'
      unfold Adopt.adopt
      by_cases hi : side' = side
      · subst hi
        rw [update_self, hh]
        split
        · rw [update_self]
        · rfl
      · rw [update_of_ne hi]
        split
        · rw [update_of_ne hi]
        · rfl
  | other side turn =>
    cases h
    obtain ⟨hin, ht⟩ := hq
    have hh := ht.held (X := P.deployment side) (hb side).1.alone
    have hs := (hb side).1.turn (P.p2p side) hin
    constructor
    · intro side'
      by_cases hi : side' = side
      · subst hi
        rw [update_self]
        exact ⟨hs, by rw [hh]; exact (hb side').2⟩
      · rw [update_of_ne hi]
        exact hb side'
    · funext side'
      show _ = (g side').held nodeId
      by_cases hi : side' = side
      · subst hi
        rw [update_self]
        exact hh
      · rw [update_of_ne hi]

end

/-! ## Runs -/

/-- Two gateways that serve the snapshot they hold of the node, and what happens to them from then on:
no snapshot of the node is new, and announcements are handled again and again on either side. Each is
of the row that the other holds at that time, and none of them fails. -/
structure PeerRun (P : Peers) (nodeId : String) (g : Nat → Bool → World) (steps : Nat → PeerStep) :
    Prop where
  start : ∀ side, Sound nodeId (g 0 side)
  holds : ∀ side, ((g 0 side).held nodeId).isSome
  quiet : ∀ n, (steps n).Quiet nodeId
  run : ∀ n, P.step nodeId (g n) (steps n) = some (g (n + 1))
  fair : ∀ side n, ∃ m, n ≤ m ∧ (steps m).hears = some side

def World.shown (w : World) (nodeId : String) : Option (PublicClientSnapshot × String) :=
  (w.db.nodeSnapshots.get? nodeId).map fun row => (row.payload, row.signature)

def World.instantOf (w : World) (nodeId : String) : Option Int :=
  (w.db.nodeSnapshots.get? nodeId).map SnapshotRow.generatedAt

section

variable {g : Nat → Bool → World}

lemma PeerRun.both (h : PeerRun P nodeId g steps) (n : Nat) : Both nodeId (g n) := by
  induction n with
  | zero => exact fun side => ⟨h.start side, h.holds side⟩
  | succ n ih => exact (step_looks ih (h.quiet n) (h.run n)).1

lemma shown_eq (w : World) (nodeId : String) :
    w.shown nodeId = (w.held nodeId).map fun held => (held.1, held.2.2) := by
  unfold shown held
  rw [map_map]
  rfl

lemma instantOf_eq (hs : Sound nodeId w) (ho : (w.held nodeId).isSome) :
    w.instantOf nodeId = some (heldTime (w.held nodeId)) := by
  obtain ⟨row, hr, hh⟩ := held_eq_some ho
  unfold instantOf
  rw [hr, hh, map_some, (hs.kept row hr).1]
  rfl

/-- The gateways hold the same in the end if and only if their times differ or they held the
same. -/
lemma PeerRun.converges (h : PeerRun P nodeId g steps) :
    (∃ n, ∀ m, n ≤ m → (g m true).shown nodeId = (g m false).shown nodeId) ↔
      (g 0 true).instantOf nodeId ≠ (g 0 false).instantOf nodeId ∨
        (g 0 true).shown nodeId = (g 0 false).shown nodeId := by
  have hl : ∀ n, (fun side => (g (n + 1) side).held nodeId) =
      Adopt.look heldTime (steps n).hears fun side => (g n side).held nodeId :=
    fun n => (step_looks (h.both n) (h.quiet n) (h.run n)).2
  have hi := Adopt.converges_iff (p := fun n side => (g n side).held nodeId)
    (Option.map fun held : Held => (held.1, held.2.2)) hl h.fair
  rw [instantOf_eq (h.both 0 true).1 (h.both 0 true).2,
    instantOf_eq (h.both 0 false).1 (h.both 0 false).2, Ne, some_inj]
  simp only [shown_eq]
  exact hi

end

/-- For any two peers that hold and serve a snapshot of a node, of which from then on none is new,
and that each handle the announcements of the other again and again: they come to hold the same
payload and signature, and hold it from then on, if and only if the times of the snapshots they start
with differ or the snapshots are the same. -/
theorem peers_converge_iff (P : Peers) (nodeId : String) (g : Nat → Bool → World)
    (steps : Nat → PeerStep) (h : PeerRun P nodeId g steps) :
    (∃ n, ∀ m, n ≤ m → (g m true).shown nodeId = (g m false).shown nodeId) ↔
      (g 0 true).instantOf nodeId ≠ (g 0 false).instantOf nodeId ∨
        (g 0 true).shown nodeId = (g 0 false).shown nodeId :=
  h.converges

/-! ### Runs in which only announcements are handled -/

section

variable {g : Bool → World}

def PeerStep.Valid (P : Peers) : PeerStep → Prop
  | .gossip side propagationSource contact => validateSnapshotAnnouncement propagationSource
      (P.deployment !side).localPeerId contact = .ok ()
  | .other _ _ => False

lemma step_of_time_eq {s : PeerStep} (hb : Both nodeId g) (hv : s.Valid P)
    (ht : heldTime ((g true).held nodeId) = heldTime ((g false).held nodeId)) :
    (P.step nodeId g s).isSome := by
  cases s with
  | other => exact hv.elim
  | gossip side propagationSource contact =>
    obtain ⟨mine, hm, hhe⟩ := held_eq_some (hb side).2
    obtain ⟨theirs, hh, hhe'⟩ := held_eq_some (hb !side).2
    have hs : heldTime ((g side).held nodeId) = heldTime ((g !side).held nodeId) := by
      cases side with
      | true => exact ht
      | false => exact ht.symm
    have hc : normalizeGeneratedAtMillis theirs.payload.generatedAt ≤ mine.generatedAt := by
      rw [hhe, hhe'] at hs
      rw [((hb side).1.kept mine hm).1]
      exact le_of_eq hs.symm
    have hr : Runs 0 (fun r _ => r = .ok ()) (handleGossip (P.deployment side) propagationSource
        (announcement (P.deployment !side) contact nodeId theirs))
        { (g side).core 0 with remote := Peers.serving contact (g !side) } := by
      refine .bind (runs_ofExcept ?_)
      rw [show validateSnapshotAnnouncement propagationSource _ contact = .ok () from hv]
      refine ok ?_
      split
      · exact runs_pure rfl
      refine .bind (runs_snapshotIsCurrent (ok ?_))
      rw [show ((g side).core 0).db.nodeSnapshots.get? nodeId = some mine from hm, any_some,
        if_pos (decide_eq_true hc)]
      exact runs_pure rfl
    obtain ⟨_, _, he, -, rfl⟩ :=
      hr { g side with remote := Peers.serving contact (g !side) } (hb side).1.alone rfl
    show (Option.map (update g side) (P.hear nodeId side propagationSource contact g)).isSome
    unfold Peers.hear
    rw [hh]
    simp only [bind_eq_bind, bind_some, he, map_some, isSome_some]

lemma step_stays {s : PeerStep} (hb : Both nodeId g) (hq : s.Quiet nodeId)
    (hv : s.Valid P)
    (ht : heldTime ((g true).held nodeId) = heldTime ((g false).held nodeId)) :
    ∃ g', P.step nodeId g s = some g' ∧ Both nodeId g' ∧
      ∀ side, (g' side).held nodeId = (g side).held nodeId := by
  obtain ⟨g', hg'⟩ := isSome_iff_exists.1 (step_of_time_eq hb hv ht)
  obtain ⟨hb', hl⟩ := step_looks hb hq hg'
  rw [Adopt.look_of_time_eq ht] at hl
  exact ⟨g', hg', hb', fun side => congrFun hl side⟩

def Peers.states (P : Peers) (nodeId : String) (steps : Nat → PeerStep) (g : Bool → World) :
    Nat → Bool → World
  | 0 => g
  | n + 1 => (P.step nodeId (P.states nodeId steps g n) (steps n)).getD g

lemma states_succ {n : Nat} {g' : Bool → World}
    (h : P.step nodeId (P.states nodeId steps g n) (steps n) = some g') :
    P.states nodeId steps g (n + 1) = g' := by
  unfold Peers.states
  rw [h, getD_some]

lemma states_of_time_eq {k : Nat} (hq : ∀ n, (steps n).Quiet nodeId) (hv : ∀ n, (steps n).Valid P)
    (hb : Both nodeId (P.states nodeId steps g k))
    (ht : heldTime ((P.states nodeId steps g k true).held nodeId) =
      heldTime ((P.states nodeId steps g k false).held nodeId)) (n : Nat) :
    P.step nodeId (P.states nodeId steps g (k + n)) (steps (k + n)) =
      some (P.states nodeId steps g (k + n + 1)) := by
  have hi : Both nodeId (P.states nodeId steps g (k + n)) ∧
      heldTime ((P.states nodeId steps g (k + n) true).held nodeId) =
        heldTime ((P.states nodeId steps g (k + n) false).held nodeId) := by
    induction n with
    | zero => exact ⟨hb, ht⟩
    | succ n ih =>
      obtain ⟨g', hg', hb', hh⟩ := step_stays ih.1 (hq (k + n)) (hv (k + n)) ih.2
      rw [← Nat.add_assoc, states_succ hg']
      refine ⟨hb', ?_⟩
      rw [hh, hh]
      exact ih.2
  obtain ⟨_, hg', -, -⟩ := step_stays hi.1 (hq (k + n)) (hv (k + n)) hi.2
  rw [hg', states_succ hg']

end

namespace Peers

def small : Peers where
  deployment side := { smallDeployment with localPeerId := if side then "a" else "b" }
  p2p _ := rfl
  distinct := by decide

def contactOf (id : String) : ContactMaterial := ⟨irohDirect, id, irohDirect, none, some id⟩

def inTurns (n : Nat) : PeerStep :=
  if n % 2 = 0 then .gossip true "hop" (contactOf "b") else .gossip false "hop" (contactOf "a")

def named (generatedAt : Int) (name : String) : SignedPublicClientSnapshot :=
  { smallSnapshot "k1" "s1" with
    payload := { (smallSnapshot "k1" "s1").payload with
      generatedAt := generatedAt, networkName := some name } }

def pushed (side : Bool) (snapshot : SignedPublicClientSnapshot) : World :=
  (start .empty).turns (small.deployment side)
    [⟨0, 1, fun _ => none, .snapshot snapshot none none true⟩]

section

variable (mine theirs : SignedPublicClientSnapshot)

def start : Bool → World
  | true => pushed true mine
  | false => pushed false theirs

lemma sound_start (side : Bool) : Sound "n" (start mine theirs side) := by
  have h : Sound "n" (World.start .empty) := ⟨alone_start _, fun _ hr => by cases hr⟩
  cases side with
  | true | false => exact h.turn (small.p2p _) rfl

end

lemma quiet_inTurns (nodeId : String) (n : Nat) : (inTurns n).Quiet nodeId := by
  unfold inTurns
  split <;> trivial

lemma valid_inTurns (n : Nat) : (inTurns n).Valid small := by
  unfold inTurns
  split
  · show validateSnapshotAnnouncement "hop" "b" (contactOf "b") = .ok ()
    decide
  · show validateSnapshotAnnouncement "hop" "a" (contactOf "a") = .ok ()
    decide

lemma fair_inTurns (side : Bool) (n : Nat) : ∃ m, n ≤ m ∧ (inTurns m).hears = some side := by
  cases side with
  | true =>
    refine ⟨2 * n, by omega, ?_⟩
    unfold inTurns
    rw [if_pos (by omega)]
    rfl
  | false =>
    refine ⟨2 * n + 1, by omega, ?_⟩
    unfold inTurns
    rw [if_neg (by omega)]
    rfl

/-- The gateways hear each other in turns, from the two snapshots on, if the first of the `k` times
before both hold the same time go well. -/
lemma run_inTurns (mine theirs : SignedPublicClientSnapshot) (k : Nat)
    (hh : ∀ side, ((start mine theirs side).held "n").isSome)
    (hf : ∀ n < k, (small.step "n" (small.states "n" inTurns (start mine theirs) n)
      (inTurns n)).isSome)
    (ht : heldTime ((small.states "n" inTurns (start mine theirs) k true).held "n") =
      heldTime ((small.states "n" inTurns (start mine theirs) k false).held "n")) :
    PeerRun small "n" (small.states "n" inTurns (start mine theirs)) inTurns := by
  have hs : ∀ n < k, small.step "n" (small.states "n" inTurns (start mine theirs) n)
      (inTurns n) = some (small.states "n" inTurns (start mine theirs) (n + 1)) := by
    intro n hn
    obtain ⟨_, hg'⟩ := isSome_iff_exists.1 (hf n hn)
    rw [hg', states_succ hg']
  have hb : ∀ n ≤ k, Both "n" (small.states "n" inTurns (start mine theirs) n) := by
    intro n
    induction n with
    | zero =>
      exact fun _ side => ⟨sound_start mine theirs side, hh side⟩
    | succ n ih =>
      exact fun hn => (step_looks (ih (by omega)) (quiet_inTurns "n" n) (hs n hn)).1
  refine ⟨sound_start mine theirs, hh, quiet_inTurns "n", fun n => ?_, fair_inTurns⟩
  rcases Nat.lt_or_ge n k with hn | hn
  · exact hs n hn
  · obtain ⟨j, rfl⟩ := Nat.exists_eq_add_of_le hn
    exact states_of_time_eq (quiet_inTurns "n") valid_inTurns (hb k (Nat.le_refl k)) ht j

end Peers

set_option maxRecDepth 100000

open Peers in
/-- Two snapshots of one time stay where they are. -/
theorem equal_times_stay : ∃ g, g 0 = start (named 1 "x") (named 1 "y") ∧
      PeerRun small "n" g inTurns ∧
      (g 0 true).instantOf "n" = (g 0 false).instantOf "n" ∧
      ¬ ∃ n, ∀ m, n ≤ m → (g m true).shown "n" = (g m false).shown "n" := by
  have hr := run_inTurns (named 1 "x") (named 1 "y") 0
    (by intro side; cases side <;> decide) (fun n hn => absurd hn (Nat.not_lt_zero n))
    (by decide)
  have hi : (start (named 1 "x") (named 1 "y") true).instantOf "n" =
      (start (named 1 "x") (named 1 "y") false).instantOf "n" := by decide
  refine ⟨_, rfl, hr, hi, fun hsa => ?_⟩
  rcases hr.converges.1 hsa with hne | hs
  · exact hne hi
  · have ha : ((start (named 1 "x") (named 1 "y") true).shown "n").map (·.1.networkName) =
        ((start (named 1 "x") (named 1 "y") false).shown "n").map (·.1.networkName) :=
      congrArg _ hs
    revert ha
    decide

open Peers in
theorem peers_converge_iff_later : ∃ n, ∀ m, n ≤ m →
      (small.states "n" inTurns (start (named 1 "x") (named 2 "y")) m true).shown "n" =
        (small.states "n" inTurns (start (named 1 "x") (named 2 "y")) m false).shown "n" := by
  refine (peers_converge_iff small "n" _ inTurns (run_inTurns _ _ 1 ?_ ?_ ?_)).2 (Or.inl ?_)
  · intro side
    cases side <;> decide
  · intro n _
    have h0 : n = 0 := by omega
    subst h0
    decide
  · decide
  · decide

end WattGateway.Gateway
