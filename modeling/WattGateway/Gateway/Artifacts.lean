import WattGateway.Gateway.Peers

/-!
# The artifact and the stored snapshot

An ingest writes the artifact that the peer to peer runtime serves, and then lets the table of
snapshots decide whether the snapshot is as new as the one it holds, or refuse it altogether. So the
two agree exactly when no older snapshot comes after a newer one, and none is refused but the one
that is stored (`artifact_is_stored_iff`).
-/

namespace WattGateway.Gateway

open List Table World

/-- The arguments of one ingest, and the time since the last one. -/
structure Ingest where
  elapsed : Nat
  snapshot : SignedPublicClientSnapshot
  sourceId : Option Nat
  expectedSignerAgentDid : Option String
  announceP2p : Bool

namespace Ingest

def turn (inst : Nat) (i : Ingest) : Turn :=
  ⟨inst, i.elapsed, fun _ => none,
    .snapshot i.snapshot i.sourceId i.expectedSignerAgentDid i.announceP2p⟩

def accepted (X : Deployment) (i : Ingest) : Bool :=
  (verifySignedSnapshot X.toCrypto i.snapshot i.expectedSignerAgentDid).isOk

def instant (i : Ingest) : Int := normalizeGeneratedAtMillis i.snapshot.payload.generatedAt

def brings (X : Deployment) (nodeId : String) (i : Ingest) : Bool :=
  i.accepted X && i.snapshot.payload.nodeId = nodeId

end Ingest

/-- An ingest, whose snapshot the database may refuse: a text with U+0000, a time out of range. -/
structure Attempt extends Ingest where
  refused : Bool

/-- The statements of a transaction are refused. -/
def refusing (inst : Nat) : Machine Empty Query Ans World Env :=
  { machine fun _ => inst with
    answer := fun t q o w => (machine fun _ => inst).answer t q
      (match q with
        | .stmt _ => .refused
        | _ => o) w }

def World.attempt (X : Deployment) (inst : Nat) (w : World) (i : Attempt) : World :=
  if i.refused then
    match (refusing inst).serial 0 ((i.turn inst).submit.prog X) (w.before (i.turn inst)) with
    | some (_, w') => (refusing inst).finish 0 w'
    | none => w
  else w.turn X (i.turn inst)

/-- The artifact of the node decodes to the snapshot that the table holds. -/
def Served (inst : Nat) (nodeId : String) (w : World) : Prop :=
  (w.artifacts inst nodeId).map SignedPublicClientSnapshot.held = w.held nodeId

/-- The snapshots of the node come in the order of their times, after `last`, and the database refuses
none but a copy of the last one it took. -/
def InOrder (X : Deployment) (nodeId : String) :
    Option SignedPublicClientSnapshot → List Attempt → Prop
  | _, [] => True
  | last, i :: rest =>
    if i.brings X nodeId then
      if i.refused then
        last.map SignedPublicClientSnapshot.held = some i.snapshot.held ∧ InOrder X nodeId last rest
      else (∀ s ∈ last, normalizeGeneratedAtMillis s.payload.generatedAt ≤ i.instant) ∧
        InOrder X nodeId (some i.snapshot) rest
    else InOrder X nodeId last rest

/-- The row of the node is that of the snapshot. -/
def HoldsLast (nodeId : String) (last : Option SignedPublicClientSnapshot) (w : World) : Prop :=
  (w.db.nodeSnapshots.get? nodeId).map (fun row => (row.held, row.generatedAt)) =
    last.map fun s => (s.held, normalizeGeneratedAtMillis s.payload.generatedAt)

section

variable {X : Deployment} {inst : Nat} {nodeId : String} {i : Attempt} {w w' : World}
  {last : Option SignedPublicClientSnapshot}

lemma HoldsLast.held (h : HoldsLast nodeId last w) :
    w.held nodeId = last.map SignedPublicClientSnapshot.held := by
  have hh := congrArg (Option.map Prod.fst) h
  rw [Option.map_map, Option.map_map] at hh
  exact hh

lemma HoldsLast.takes (h : HoldsLast nodeId last w) (time : Int) :
    (w.db.nodeSnapshots.get? nodeId).all (fun row => row.generatedAt ≤ time) = true ↔
      ∀ s ∈ last, normalizeGeneratedAtMillis s.payload.generatedAt ≤ time := by
  have ht := congrArg (Option.map Prod.snd) h
  rw [Option.map_map, Option.map_map] at ht
  cases hr : w.db.nodeSnapshots.get? nodeId <;> cases last <;> rw [hr] at ht <;> simp_all

/-- An ingest whose statements are refused has written its artifact before. -/
lemma attempt_refused (hp2p : X.p2p = true) (ha : w.Alone) (hr : i.refused = true) :
    (w.attempt X inst i).Alone ∧ (w.attempt X inst i).db = w.db ∧
      (w.attempt X inst i).artifacts inst = if i.accepted X then
        Function.update (w.artifacts inst) i.snapshot.payload.nodeId (some i.snapshot)
      else w.artifacts inst := by
  unfold attempt Ingest.accepted
  rw [if_pos hr]
  simp only [Ingest.turn, Submit.prog, ingestSignedSnapshotWithOptions, persistArtifactIf, hp2p]
  cases verifySignedSnapshot X.toCrypto i.snapshot i.expectedSignerAgentDid with
  | error => exact ⟨fun t tx ht => alone_dropTx ha t tx ht, rfl, rfl⟩
  | ok =>
    refine ⟨fun t tx ht => ?_, rfl, Function.update_self _ _ _⟩
    exact alone_dropTx (alone_dropTx (alone_upsert ha (fun _ => ⟨_, []⟩) 0 0)) t tx ht

lemma attempt_ingested (ha : w.Alone) (hr : i.refused = false) :
    (w.attempt X inst i).Alone ∧ ∃ r c', Ingested X i.snapshot i.sourceId
        i.expectedSignerAgentDid i.announceP2p (.before w (i.turn inst)) r c' ∧
      (w.attempt X inst i).db = c'.db ∧ (w.attempt X inst i).artifacts inst = c'.artifacts := by
  unfold attempt
  rw [if_neg (by rw [hr]; exact Bool.false_ne_true)]
  obtain ⟨hl, c', ⟨r, hin⟩, hc⟩ := turn_submitted (X := X) ha (i.turn inst)
  exact ⟨hl, r, c', hin, congrArg Core.db hc, congrArg Core.artifacts hc⟩

lemma attempt_of_not_brings (hp2p : X.p2p = true) (ha : w.Alone) (h : i.brings X nodeId = false) :
    (w.attempt X inst i).Alone ∧
      (w.attempt X inst i).artifacts inst nodeId = w.artifacts inst nodeId ∧
      (w.attempt X inst i).db.nodeSnapshots.get? nodeId = w.db.nodeSnapshots.get? nodeId := by
  have hne : i.accepted X = true → nodeId ≠ i.snapshot.payload.nodeId := by
    rintro hv rfl
    simp [Ingest.brings, hv] at h
  cases hr : i.refused with
  | true =>
    obtain ⟨hl, hd, hf⟩ := attempt_refused hp2p ha hr
    refine ⟨hl, ?_, by rw [hd]⟩
    rw [hf]
    split_ifs with hv
    · exact Function.update_of_ne (hne hv) _ _
    · rfl
  | false =>
    obtain ⟨hl, _, _, hin, hd, hf⟩ := attempt_ingested (X := X) ha hr
    rw [hd, hf]
    rcases hin.snapshots with ⟨-, hr, hf⟩ | ⟨hv, hf, -⟩
    · rw [hr, hf]
      exact ⟨hl, rfl, rfl⟩
    · have hne := hne (by rw [Ingest.accepted, hv]; rfl)
      refine ⟨hl, ?_, hin.get?_of_ne hne.symm⟩
      rw [hf, keptArtifacts, if_pos hp2p]
      exact Function.update_of_ne hne _ _

/-- A snapshot of the node becomes the artifact. It becomes the row unless the database refuses it or
the row is newer. -/
lemma attempt_of_brings (hp2p : X.p2p = true) (ha : w.Alone) (hh : HoldsLast nodeId last w)
    (h : i.brings X nodeId = true) : (w.attempt X inst i).Alone ∧
      (w.attempt X inst i).artifacts inst nodeId = some i.snapshot ∧
      HoldsLast nodeId (if i.refused = false ∧
        ∀ s ∈ last, normalizeGeneratedAtMillis s.payload.generatedAt ≤ i.instant then
        some i.snapshot else last) (w.attempt X inst i) := by
  obtain ⟨hacc, hno⟩ := Bool.and_eq_true_iff.1 h
  cases of_decide_eq_true hno
  cases hr : i.refused with
  | true =>
    obtain ⟨hl, hd, hf⟩ := attempt_refused hp2p ha hr
    refine ⟨hl, ?_, ?_⟩
    · rw [hf, if_pos hacc]
      exact Function.update_self _ _ _
    · rw [if_neg (by simp)]
      unfold HoldsLast
      rw [hd]
      exact hh
  | false =>
    obtain ⟨hl, _, c', hin, hd, hf⟩ := attempt_ingested (X := X) ha hr
    rcases hin.snapshots with ⟨⟨_, hv⟩, -⟩ | ⟨-, hf', hrow⟩
    · rw [Ingest.accepted, hv] at hacc
      cases hacc
    · refine ⟨hl, ?_, ?_⟩
      · rw [hf, hf', keptArtifacts, if_pos hp2p]
        exact Function.update_self _ _ _
      · have ht : (Core.before w (i.turn inst)).db.takesSnapshot
            (snapshotRecord i.snapshot i.sourceId) = true ↔ _ := hh.takes i.instant
        unfold HoldsLast
        rw [hd]
        rcases hrow with ⟨hs, hrow⟩ | ⟨hne, now, hrow⟩
        · rw [if_neg fun hc => absurd (ht.2 hc.2) (by rw [hs]; exact Bool.false_ne_true), hrow]
          exact hh
        · rw [if_pos ⟨rfl, ht.1 hne⟩, hrow]
          unfold Db.storeSnapshot
          rw [get?_upsert]
          exact congrArg (Option.map _) (if_pos rfl)

/-- From a state in which the artifact is the stored snapshot it stays so through the ingests exactly
if they come in order. -/
lemma served_iff (hp2p : X.p2p = true) (l : List Attempt) : ∀ {w last}, w.Alone →
    HoldsLast nodeId last w →
    ((∀ done, done <+: l → Served inst nodeId (done.foldl (attempt X inst) w)) ↔
      Served inst nodeId w ∧ InOrder X nodeId last l) := by
  induction l with
  | nil =>
    intro w last _ _
    simp [InOrder]
  | cons i rest ih =>
    intro w last ha hh
    have hp : (∀ done, done <+: i :: rest → Served inst nodeId (done.foldl (attempt X inst) w)) ↔
        Served inst nodeId w ∧ ∀ done, done <+: rest →
          Served inst nodeId (done.foldl (attempt X inst) (w.attempt X inst i)) := by
      constructor
      · exact fun h => ⟨h [] nil_prefix, fun done hd => h (i :: done) (cons_prefix_cons.2 ⟨rfl, hd⟩)⟩
      · rintro ⟨h₀, h⟩ (_ | ⟨j, done⟩) hd
        · exact h₀
        · obtain ⟨rfl, hd'⟩ := cons_prefix_cons.1 hd
          exact h done hd'
    rw [hp, InOrder]
    refine and_congr_right fun hs => ?_
    cases hb : i.brings X nodeId with
    | false =>
      obtain ⟨hl, hf, hr⟩ := attempt_of_not_brings hp2p ha hb
      rw [ih hl (by unfold HoldsLast; rw [hr]; exact hh), if_neg Bool.false_ne_true]
      refine and_iff_right ?_
      unfold Served World.held
      rw [hf, hr]
      exact hs
    | true =>
      obtain ⟨hl, hf, hh'⟩ := attempt_of_brings hp2p ha hh hb
      rw [ih hl hh', if_pos rfl, Served, hf, hh'.held]
      cases hr : i.refused with
      | true => rw [if_neg (by simp), if_pos rfl, eq_comm, Option.map_some]
      | false =>
        rw [if_neg Bool.false_ne_true]
        split_ifs with hle
        · rw [and_iff_right rfl, and_iff_right hle.2]
        · -- the row would have the time of the snapshot and would have let it in
          refine iff_of_false (fun h => hle ⟨rfl, ?_⟩) fun h => hle ⟨rfl, h.1⟩
          rintro s ⟨⟩
          have hp : i.snapshot.payload = s.payload := congrArg Prod.fst (Option.some.inj h.1)
          rw [Ingest.instant, hp]

end

/-- With the peer to peer runtime on, for every sequence of ingests: the artifact of a node is the
stored snapshot after each of them if and only if no snapshot of the node is older than one that was
taken before it, and the database refuses none that differs from the last one it took. -/
theorem artifact_is_stored_iff (X : Deployment) (hp2p : X.p2p = true) (sources : Sources)
    (inst : Nat) (nodeId : String) (ingests : List Attempt) :
    (∀ done, done <+: ingests →
      Served inst nodeId (done.foldl (attempt X inst) (World.start sources))) ↔
      InOrder X nodeId none ingests :=
  (served_iff hp2p ingests (alone_start sources) (show HoldsLast nodeId none _ from rfl)).trans
    (and_iff_right rfl)

namespace Replay

def snapshotAt (generatedAt : Int) : SignedPublicClientSnapshot :=
  { smallSnapshot "k1" "s1" with
    payload := { (smallSnapshot "k1" "s1").payload with generatedAt := generatedAt } }

def ingest (generatedAt : Int) : Attempt :=
  ⟨⟨1, snapshotAt generatedAt, none, none, true⟩, false⟩

def after (ingests : List Attempt) : World :=
  ingests.foldl (attempt smallDeployment 0) (World.start .empty)

def replayed : World := after [ingest 2, ingest 1]

def contact : ContactMaterial := ⟨irohDirect, "gateway", irohDirect, none, some "gateway"⟩

def peer : World :=
  { World.start .empty with
    remote := fun
      | .signedSnapshot _ => replayed.artifacts 0 "n"
      | _ => none }

end Replay

set_option maxRecDepth 100000

open Replay in
/-- The replay of an older snapshot leaves the table and replaces the artifact, and a peer that
fetches the stored snapshot is turned away. -/
theorem replay_replaces_artifact : ¬ Served 0 "n" replayed ∧
      (replayed.db.nodeSnapshots.get? "n").map (fun row => row.payload.generatedAt) = some 2 ∧
      (((machine fun _ => 1).serial 0 (fetchAndIngestSnapshot smallDeployment "n" "k1" 2 contact)
        peer).map Prod.fst) =
        some (.error "p2p snapshot generated_at mismatch: announced 2, fetched 1") := by
  have hs : (replayed.db.nodeSnapshots.get? "n").map (fun row => row.payload.generatedAt) =
      some 2 := by decide
  have he : (replayed.artifacts 0 "n").map (fun s => s.payload.generatedAt) = some 1 := by
    decide
  refine ⟨fun h => ?_, hs, by decide⟩
  unfold Served World.held at h
  have ht := congrArg (Option.map fun x => x.1.generatedAt) h
  rw [Option.map_map, Option.map_map] at ht
  have hne : (some 1 : Option Int) = some 2 := he.symm.trans (ht.trans hs)
  cases hne

open Replay in
theorem artifact_is_stored_iff_ordered :
    ((after [ingest 1, ingest 2]).artifacts 0 "n").map (fun s => s.payload.generatedAt) = some 2 ∧
      Served 0 "n" (after [ingest 1, ingest 2]) := by
  have hor : InOrder smallDeployment "n" none [ingest 1, ingest 2] :=
    And.intro (fun _ hs => by cases hs) (And.intro (fun _ hs => by cases hs; decide) trivial)
  have ha := (artifact_is_stored_iff smallDeployment rfl .empty 0 "n" _).2 hor
  exact ⟨by decide, ha _ (prefix_refl _)⟩

end WattGateway.Gateway
