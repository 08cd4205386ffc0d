import WattGateway.Gateway.Footprints
import WattGateway.Gateway.ReadModels

/-!
# Events that come again

The tables remember what was ingested (`Settled`): the id of the event is taken or its record is no
news, and the row of its projection is as new as it is. So a second delivery writes no event and
nothing to the outbox, and at most the projection of the event itself
(`redelivery_changes_nothing`).
-/

namespace WattGateway.Gateway

open Option Table World

def ProjectionRow.shown (row : ProjectionRow) : ProjectionRow := { row with ingestedAt := 0 }

def ProjectionRow.Says (row : ProjectionRow) (r : ProjectionRecord) : Prop :=
  row.visibility = r.visibility ∧ row.payload = r.payload ∧ row.provenance = r.provenance ∧
    ∀ id ∈ r.sourceId, row.sourceId = some id

/-- The record that an event is projected to, if it is stored at all and has a projection. -/
def recordOf (X : Deployment) (e : SignedNodeEvent) (sourceId : Option Nat) :
    Option ProjectionRecord :=
  if e.payload.provisionalPolicy = .ephemeralOnly then none
  else match trustedProjection X e.payload with
    | .ok (some (dataKind, payload)) =>
      some (eventProjectionRecord e.payload sourceId (isProvisional e.payload) dataKind payload)
    | _ => none

def Db.Rival (db : Db) (r : ProjectionRecord) : Prop :=
  ∃ row, db.projectionRows.get? r.key = some row ∧
    row.generatedAt = normalizeGeneratedAtMillis r.generatedAt ∧ ¬ row.Says r

/-- The tables have seen the event: there is nothing in it that they would take. -/
structure Settled (X : Deployment) (e : SignedNodeEvent) (sourceId : Option Nat) (db : Db) : Prop where
  record : isSpaceEvent e = true → ∀ db₁, db.spaceRecord X e.payload sourceId = .ok (some db₁) →
    (db.uiEvents.get? e.payload.eventId).isSome = true
  event : isSpaceEvent e = false → ∀ projection, trustedProjection X e.payload = .ok projection →
    (db.uiEvents.get? e.payload.eventId).isSome = true
  projection : ∀ r ∈ recordOf X e sourceId, db.Shows r

section

variable {X : Deployment} {e : SignedNodeEvent} {sourceId : Option Nat}
variable {db : Db}

lemma isSome_of_grows {db' : Db} (h : db.Grows db') {id : String}
    (hi : (db.uiEvents.get? id).isSome = true) : (db'.uiEvents.get? id).isSome = true := by
  obtain ⟨row, hr⟩ := isSome_iff_exists.1 hi
  exact isSome_iff_exists.2 ⟨row, h.uiEvents id row hr⟩

lemma Settled.grows {db' : Db} (h : Settled X e sourceId db) (hg : db.Grows db') :
    Settled X e sourceId db' where
  record hs db₁ hne := by
    obtain ⟨db₀, hold⟩ := spaceRecord_of_grows hg hne
    exact isSome_of_grows hg (h.record hs db₀ hold)
  event hs projection ht := isSome_of_grows hg (h.event hs projection ht)
  projection r hr := (h.projection r hr).grows hg

lemma recordOf_eq_some {r : ProjectionRecord} (h : recordOf X e sourceId = some r) :
    e.payload.provisionalPolicy ≠ .ephemeralOnly ∧
      ∃ dataKind payload, trustedProjection X e.payload = .ok (some (dataKind, payload)) ∧
        r = eventProjectionRecord e.payload sourceId (isProvisional e.payload) dataKind payload := by
  unfold recordOf at h
  split at h
  · cases h
  · rename_i hp
    split at h
    · rename_i dataKind payload ht
      cases h
      exact ⟨hp, dataKind, payload, ht, rfl⟩
    · cases h

lemma recordOf_of_space (hs : isSpaceEvent e = true) : recordOf X e sourceId = none := by
  cases hr : recordOf X e sourceId with
  | none => rfl
  | some =>
    obtain ⟨-, _, _, ht, -⟩ := recordOf_eq_some hr
    cases ht.symm.trans (trustedProjection_of_space hs)

lemma shows_materialize {projection : Option (DataKind × Json)} (now : Nat)
    (ht : trustedProjection X e.payload = .ok projection) :
    ∀ r ∈ recordOf X e sourceId, (db.materialize e.payload sourceId now projection).Shows r := by
  intro _ hr
  obtain ⟨-, _, _, ht', rfl⟩ := recordOf_eq_some hr
  cases ht.symm.trans ht'
  exact shows_project _ _ _

variable {r : Except String (Option Nat)} {announceP2p : Bool} {c c' : Core}

lemma EventStored.settled (hp : e.payload.provisionalPolicy ≠ .ephemeralOnly)
    (h : EventStored X e sourceId announceP2p c r c') : Settled X e sourceId c'.db := by
  have hno : isSpaceEvent e = true → ∀ r ∈ recordOf X e sourceId, c'.db.Shows r := by
    intro hsp r hr
    rw [recordOf_of_space hsp] at hr
    cases hr
  cases h with
  | ephemeral hp' | heartbeatUnread hp' | heartbeat hp' => exact absurd hp' hp
  | unprojected _ _ ht =>
    refine ⟨fun hsp => ?_, fun _ projection ht' => ?_, fun r hr => ?_⟩
    · cases ht.symm.trans (trustedProjection_of_space hsp)
    · cases ht.symm.trans ht'
    · obtain ⟨-, _, _, ht', -⟩ := recordOf_eq_some hr
      cases ht.symm.trans ht'
  | inserted _ hsp _ ht hn _ _ now' =>
    refine ⟨fun hs => ?_, fun _ _ _ => ?_, shows_materialize now' ht⟩
    · cases hsp.symm.trans hs
    · refine isSome_of_grows (materialize_grows _ _ _ _ _) ?_
      show ((c.db.uiEvents.insertNew e.payload.eventId _).get? e.payload.eventId).isSome = true
      rw [insertNew_eq_upsert hn, get?_upsert, if_pos rfl]
      rfl
  | duplicate _ hsp _ ht _ hold now =>
    refine ⟨fun hs => ?_, fun _ _ _ => ?_, shows_materialize now ht⟩
    · cases hsp.symm.trans hs
    · refine isSome_of_grows (materialize_grows _ _ _ _ _) ?_
      rw [hold]
      rfl
  | spaceUnread _ hsp err he | spaceStale _ hsp he =>
    refine ⟨fun _ db₁ hne => ?_, fun hs => ?_, hno hsp⟩
    · cases he.symm.trans hne
    · cases hsp.symm.trans hs
  | spaceTaken _ hsp _ he row hold =>
    refine ⟨fun _ _ _ => ?_, fun hs => ?_, hno hsp⟩
    · rw [spaceRecord_others he] at hold
      show (c.db.uiEvents.get? _).isSome = true
      rw [show c.db.uiEvents.get? e.payload.eventId = some row from hold]
      rfl
    · cases hsp.symm.trans hs
  | spaceStored _ hsp db₁ _ hn =>
    refine ⟨fun _ _ _ => ?_, fun hs => ?_, hno hsp⟩
    · show ((db₁.uiEvents.insertNew e.payload.eventId _).get? e.payload.eventId).isSome = true
      rw [insertNew_eq_upsert hn, get?_upsert, if_pos rfl]
      rfl
    · cases hsp.symm.trans hs

lemma shown_of_project {r : ProjectionRecord} (now : Nat) {row : ProjectionRow}
    (hr : db.projectionRows.get? r.key = some row)
    (hle : normalizeGeneratedAtMillis r.generatedAt ≤ row.generatedAt) (hri : ¬ db.Rival r) :
    (r.row now (some row)).shown = row.shown := by
  unfold ProjectionRecord.row
  simp only
  split
  · rename_i hg
    have ht := Int.le_antisymm hg hle
    have hsa : row.Says r := by
      by_contra hn
      exact hri ⟨row, hr, ht, hn⟩
    obtain ⟨hv, ha, hp, ho⟩ := hsa
    have hi : (r.sourceId <|> row.sourceId) = row.sourceId := by
      cases hs : r.sourceId with
      | none => rfl
      | some id => exact (ho id hs).symm
    unfold ProjectionRow.shown
    simp only [bind_some, hi, ← ht, ← hv, ← ha, ← hp]
  · rfl

lemma Settled.stored (h : e.payload.provisionalPolicy ≠ .ephemeralOnly → Settled X e sourceId c.db)
    (hst : EventStored X e sourceId announceP2p c r c') :
    c'.db.uiEvents = c.db.uiEvents ∧ c'.db.p2pOutbox = c.db.p2pOutbox ∧
      ∀ key, (∀ r ∈ recordOf X e sourceId, r.key = key → ¬ c.db.Rival r) →
        (c'.db.projectionRows.get? key).map ProjectionRow.shown =
          (c.db.projectionRows.get? key).map ProjectionRow.shown := by
  cases hst with
  | heartbeat =>
    simp only
    split <;> exact ⟨rfl, rfl, fun _ _ => rfl⟩
  | inserted hp hs projection ht hn =>
    have hold := (h hp).event hs projection ht
    rw [hn] at hold
    cases hold
  | spaceStored hp hs db₁ he hn =>
    have hold := (h hp).record hs db₁ he
    rw [spaceRecord_others he] at hn
    rw [show c.db.uiEvents.get? e.payload.eventId = none from hn] at hold
    cases hold
  | duplicate hp hs projection ht row hold now =>
    cases projection with
    | none => exact ⟨rfl, rfl, fun _ _ => rfl⟩
    | some p =>
      refine ⟨rfl, rfl, fun key hi => ?_⟩
      have hr : recordOf X e sourceId = some (eventProjectionRecord e.payload sourceId
          (isProvisional e.payload) p.1 p.2) := by
        unfold recordOf
        rw [if_neg hp, ht]
      show ((c.db.projectionRows.upsert _ _).get? key).map _ = _
      rw [get?_upsert]
      split
      · rename_i hk
        obtain ⟨_, ho', hle⟩ := (h hp).projection _ hr
        rw [hk, ho']
        exact congrArg some (shown_of_project now ho' hle (hi _ hr hk.symm))
      · rfl
  | _ => exact ⟨rfl, rfl, fun _ _ => rfl⟩

end

/-- For every run and every event that was accepted in it: when the event comes again, by push or by
gossip, and is not beyond the next of its source, no event and no row of the outbox changes, and of
the projections at most the row under the key of the event, if that is of another record with the
same time. -/
theorem redelivery_changes_nothing (X : Deployment) (sources : Sources) (done mid : List Turn)
    (first again : Turn) (e : SignedNodeEvent) (announceP2p announceP2p' : Bool)
    (hfirst : first.submit = .event e announceP2p) (hagain : again.submit = .event e announceP2p')
    (haccepts : Accepts X ((start sources).turns X done).db e)
    (hgap : ((start sources).turns X (done ++ first :: mid)).db.gap e = false) :
    let w := (start sources).turns X (done ++ first :: mid)
    (w.turn X again).db.uiEvents = w.db.uiEvents ∧ (w.turn X again).db.p2pOutbox = w.db.p2pOutbox ∧
      ∀ key, (∀ r ∈ recordOf X e ((w.db.sourceOf e).map Prod.fst), r.key = key → ¬ w.db.Rival r) →
        ((w.turn X again).db.projectionRows.get? key).map ProjectionRow.shown =
          (w.db.projectionRows.get? key).map ProjectionRow.shown := by
  intro w
  have hd : ((start sources).turns X done).Alone := alone_turns X (alone_start sources) done
  obtain ⟨ha, c₁, hu, hc⟩ := turn_submitted (X := X) hd first
  have hb : (((start sources).turns X done).turn X first).db = c₁.db := congrArg Core.db hc
  have hw : w = (((start sources).turns X done).turn X first).turns X mid := by
    show turns X _ (done ++ first :: mid) = _
    unfold turns
    rw [List.foldl_append]
    rfl
  have hg : c₁.db.Grows w.db := by
    rw [hw, ← hb]
    exact turns_grow ha mid
  have ho : (w.db.sourceOf e).map Prod.fst =
      (((start sources).turns X done).db.sourceOf e).map Prod.fst := by
    rw [sourceOf_of_sources (hg.sources.trans hu.grows.sources)]
    rfl
  -- the first delivery settles the event, and it stays settled
  have ht : e.payload.provisionalPolicy ≠ .ephemeralOnly →
      Settled X e ((w.db.sourceOf e).map Prod.fst) w.db := by
    intro hp
    rw [hfirst] at hu
    obtain ⟨r, hr⟩ := hu
    cases hr with
    | refused _ he => exact absurd haccepts he
    | taken _ _ _ _ _ hs =>
      rw [ho]
      exact (hs.settled hp).grows hg
  obtain ⟨-, c₂, hu', hc'⟩ := turn_submitted (X := X) (w := w)
    (alone_turns X (alone_start sources) _) again
  have hb' : (w.turn X again).db = c₂.db := congrArg Core.db hc'
  rw [hagain] at hu'
  rw [hb']
  obtain ⟨_, hr⟩ := hu'
  cases hr with
  | refused => exact ⟨rfl, rfl, fun _ _ => rfl⟩
  | taken _ _ hre _ _ hs =>
    cases hre with
    | complete => exact Settled.stored ht hs
    | unreachable hgap' | fetched hgap' => exact absurd (hgap'.symm.trans hgap) (by decide)

/-! ### Missions of one node -/

namespace Missions

open Orders

def event (eventId : String) (seq : Nat) (policy : ProvisionalExportPolicy) (dataKind : DataKind)
    (payload : Json) : SignedNodeEvent where
  payload :=
    { eventId := eventId, nodeId := "n", publicKey := "k1", signerAgentDid := "k1", seq := seq
      timestamp := 1, dataKind := dataKind, eventKind := "mission", visibility := .public
      provisionalPolicy := policy, scope := ⟨none, none, none, none⟩, identityKey := none
      payload := payload }
  signature := "s1"

def mission (eventId missionId status : String) (seq : Nat) : SignedNodeEvent :=
  event eventId seq .neverBeforeConfirmation .missionLifecycle
    (.object [("id", .string missionId), ("status", .string status)])

def passing : SignedNodeEvent := event "e9" 5 .ephemeralOnly .travelState .null

def push (e : SignedNodeEvent) : Turn := ⟨0, 1, fun _ => none, .event e true⟩

def gossip (e : SignedNodeEvent) : Turn := ⟨0, 1, fun _ => none, .event e false⟩

def status (w : World) (id : String) : Option String :=
  (w.db.projectionRows.get? (.taskSummary, id, "n")).bind fun row =>
    (row.payload.index "status").asStr

def sources : Sources := .ofList [(1, smallSource .active)]

def served : Remote
  | .signedSnapshot (.http _) => some (withTasks 2 [task "t" "done"])
  | _ => none

def published : SignedNodeEvent := mission "e1" "m" "published" 1

def settled : SignedNodeEvent := mission "e2" "m" "settled" 2

def settledLater : SignedNodeEvent :=
  { settled with payload := { settled.payload with timestamp := 2 } }

def ahead : List Turn :=
  [push published, ⟨0, 1, fun _ => none, .snapshot (withTasks 1 [task "t" "open"]) (some 1) none false⟩,
    push passing]

end Missions

set_option maxRecDepth 100000

open Missions Orders in
/-- A mission that was settled is shown as published again, when the event that published it comes
again and has the same time. And the source is asked once more when an event that leaves no row comes
again, so that what it now serves is stored. -/
theorem redelivery_writes : (Accepts smallDeployment (start .empty).db published ∧
      status ((start .empty).turns smallDeployment [push published, push settled]) "m" =
        some "settled" ∧
      status ((start .empty).turns smallDeployment [push published, push settled, gossip published])
        "m" = some "published") ∧
    (Accepts smallDeployment ((start sources).turns smallDeployment (ahead.take 2)).db passing ∧
      status ((start sources).turns smallDeployment ahead) "t" = some "open" ∧
      status ((start sources).turns smallDeployment (ahead ++ [⟨0, 1, served, .event passing false⟩]))
        "t" = some "done") := by
  refine ⟨⟨⟨?_, by decide, by decide⟩, by decide, by decide⟩,
    ⟨?_, by decide, by decide⟩, by decide, by decide⟩
  · intro _ hs
    cases hs
  · intro _ hs
    cases hs
    rfl

open Missions Orders in
theorem redelivery_changes_nothing_later :
    let w := (start .empty).turns smallDeployment [push published, push settledLater]
    ((w.turn smallDeployment (gossip published)).db.projectionRows.get? (.taskSummary, "m", "n")).map
        ProjectionRow.shown =
      (w.db.projectionRows.get? (.taskSummary, "m", "n")).map ProjectionRow.shown := by
  refine (redelivery_changes_nothing smallDeployment .empty [] [push settledLater] (push published)
    (gossip published) published true false rfl rfl ⟨?_, by decide, by decide⟩
    (by decide)).2.2 _ ?_
  · intro _ hs
    cases hs
  · rintro _ hr hk ⟨row, ho, ht, -⟩
    obtain ⟨-, _, _, -, rfl⟩ := recordOf_eq_some hr
    have hl : (((start .empty).turns smallDeployment [push published, push settledLater]).db
        |>.projectionRows.get? (.taskSummary, "m", "n")).map ProjectionRow.generatedAt = some 2000 := by
      decide
    rw [hk, List.nil_append] at ho
    rw [ho] at hl
    have hf : row.generatedAt = normalizeGeneratedAtMillis 1 := ht
    exact absurd (hf.symm.trans (Option.some.inj hl)) (by decide)

end WattGateway.Gateway
