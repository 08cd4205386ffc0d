import WattGateway.Gateway.Artifacts
import WattGateway.Lib.Stamped

/-!
# Read models and the order of arrival

An ingest puts a snapshot into a stamped register and, if it is let in, its projection seeds into
one register for each key (`turn_fans`). So the rows under the keys of the newest snapshot are its
rows (`newest_rows_any_order`); a row under a key that only an older one has is there if that one
came first (`older_rows_stay`).
-/

namespace WattGateway.Gateway

open List Table Stamped World

/-! ## World events that can be read again -/

/-- The content of the announcement can be read, its members name its key, and it has a time in
range. An announcement in array form passes its check and is not such. -/
def storable (X : Deployment) (payload : Json) : Bool :=
  (X.worldEventOfValue (payload.index "content")).isOk && (Db.worldEventKey payload).isSome &&
    match X.announcementOfValue payload with
    | .ok announcement => (i64OfNat (announcement.issuedAt / 1000)).isSome
    | .error _ => false

/-- Every world event of the snapshot that passes its check can be stored. -/
def PublicClientSnapshot.decodes (X : Deployment) (snapshot : PublicClientSnapshot) : Bool :=
  snapshot.worldEvents.all fun payload => !(validateWorldEvent X payload).isOk || storable X payload

section

variable {X : Deployment} {sourceId : Option Nat} {snapshot : PublicClientSnapshot}
  {signerAgentDid : String} {payload : Json}

lemma readable_of_storable (h : storable X payload = true) :
    ∃ announcement world key generatedAt, X.announcementOfValue payload = .ok announcement ∧
      X.worldEventOfValue (payload.index "content") = .ok world ∧
      Db.worldEventKey payload = some key ∧
      i64OfNat (announcement.issuedAt / 1000) = some generatedAt := by
  simp only [storable, Bool.and_eq_true, Option.isSome_iff_exists] at h
  obtain ⟨⟨hw, key, hk⟩, ha⟩ := h
  split at ha
  · rename_i announcement ha'
    obtain ⟨generatedAt, ht⟩ := Option.isSome_iff_exists.1 ha
    cases hc : X.worldEventOfValue (payload.index "content") with
    | error =>
      rw [hc] at hw
      cases hw
    | ok world => exact ⟨announcement, world, key, generatedAt, ha', rfl, hk, ht⟩
  · cases ha

lemma not_spaceFails (hd : snapshot.decodes X = true) {items : List SpaceItem}
    (hit : ∀ item ∈ items, item ∈ spaceItems X snapshot signerAgentDid) {db : Db} :
    ¬ SpaceFails X sourceId snapshot signerAgentDid items db := by
  induction items generalizing db with
  | nil => exact id
  | cons item _ ih =>
    rintro ⟨cursor, now, hf⟩
    have hs : ∃ db', item.store X sourceId snapshot signerAgentDid db cursor now = .ok db' := by
      cases item with
      | presence => exact ⟨_, rfl⟩
      | nodePresence => exact ⟨_, rfl⟩
      | worldEvent payload =>
        have hit := hit _ mem_cons_self
        unfold spaceItems presenceItem nodePresenceItem worldEventItem at hit
        simp only [mem_append, mem_filterMap, Option.ite_none_right_eq_some,
          Option.some.injEq, reduceCtorEq, and_false, exists_false, false_or,
          SpaceItem.worldEvent.injEq] at hit
        obtain ⟨_, hm, hok, rfl⟩ := hit
        have hs := all_eq_true.1 hd _ hm
        rw [hok, Bool.not_true, Bool.false_or] at hs
        obtain ⟨_, _, _, _, ha, hw, hk, ht⟩ := readable_of_storable hs
        unfold SpaceItem.store
        simp only [hw, hk, ha, ht, bind, Except.bind, orFail, pure, Except.pure]
        split
        · exact ⟨_, rfl⟩
        · exact ⟨_, rfl⟩
    obtain ⟨_, hs⟩ := hs
    rw [hs] at hf
    exact ih (fun item' h => hit item' (mem_cons_of_mem item h)) hf

end

/-! ## Rows as stamped registers -/

def SnapshotRow.stamped (row : SnapshotRow) : Int × PublicClientSnapshot × String :=
  (row.generatedAt, row.payload, row.signature)

def ProjectionRow.stamped (row : ProjectionRow) : Int × Json := (row.generatedAt, row.payload)

/-- The stored snapshot of a node: its time, payload and signature. -/
def Db.stored (db : Db) (nodeId : String) : Option (Int × PublicClientSnapshot × String) :=
  (db.nodeSnapshots.get? nodeId).map SnapshotRow.stamped

/-- The row under a key: its time and payload. -/
def Db.projected (db : Db) (key : DataKind × String × String) : Option (Int × Json) :=
  (db.projectionRows.get? key).map ProjectionRow.stamped

lemma stamped_row (r : ProjectionRecord) (now : Nat) (old : Option ProjectionRow) :
    some (r.row now old).stamped =
      put (old.map ProjectionRow.stamped) (normalizeGeneratedAtMillis r.generatedAt, r.payload) := by
  unfold ProjectionRecord.row put
  cases old with
  | none => rfl
  | some =>
    simp only [Option.map_some, admits_some, decide_eq_true_eq, ProjectionRow.stamped]
    split <;> rfl

/-- The values that records put under a key. -/
def partsAt (key : DataKind × String × String) (rs : List ProjectionRecord) : List Json :=
  (rs.filter fun r => r.key = key).map ProjectionRecord.payload

lemma projected_project (db : Db) (r : ProjectionRecord) (now : Nat)
    (key : DataKind × String × String) :
    (db.project r now).projected key = putAll (db.projected key)
      (normalizeGeneratedAtMillis r.generatedAt) (partsAt key [r]) := by
  unfold Db.projected Db.project partsAt
  rw [get?_upsert]
  by_cases hk : key = r.key
  · subst hk
    rw [if_pos rfl, Option.map_some, stamped_row]
    simp [putAll]
  · rw [if_neg hk]
    simp [putAll, Ne.symm hk]

lemma Projected.projected {rs : List ProjectionRecord} {db db' : Db} {t : Int}
    (h : Projected rs db db') (ht : ∀ r ∈ rs, normalizeGeneratedAtMillis r.generatedAt = t)
    (key : DataKind × String × String) :
    db'.projected key = putAll (db.projected key) t (partsAt key rs) := by
  induction rs generalizing db with
  | nil =>
    cases h
    rfl
  | cons r rs ih =>
    obtain ⟨_, he⟩ := h
    have hp : partsAt key (r :: rs) = partsAt key [r] ++ partsAt key rs := by
      unfold partsAt
      rw [← map_append, ← filter_append]
      rfl
    rw [ih he fun r' hr' => ht r' (mem_cons_of_mem r hr'), projected_project, hp,
      putAll_append, ht r mem_cons_self]

/-! ## Ingests -/

section

variable (X : Deployment) (sourceId : Option Nat) (snapshot : PublicClientSnapshot)
include X sourceId snapshot

lemma seeds_eq_map : snapshotProjectionSeeds sourceId snapshot X =
      (snapshotProjectionSeeds none snapshot X).map fun r => { r with sourceId := sourceId } := by
  unfold snapshotProjectionSeeds
  simp only [map_append, map_cons, map_nil, fanoutArray, map_map]
  rfl

/-- The parts of a snapshot do not depend on the source it is filed under. -/
lemma partsAt_seeds (key : DataKind × String × String) :
    partsAt key (snapshotProjectionSeeds sourceId snapshot X) =
      partsAt key (snapshotProjectionSeeds none snapshot X) := by
  rw [seeds_eq_map]
  unfold partsAt
  rw [filter_map, map_map]
  rfl

end

lemma seed_generatedAt {X : Deployment} {sourceId : Option Nat} {snapshot : PublicClientSnapshot}
    {r : ProjectionRecord} (h : r ∈ snapshotProjectionSeeds sourceId snapshot X) :
    r.generatedAt = snapshot.generatedAt := by
  unfold snapshotProjectionSeeds fanoutArray at h
  simp only [mem_append, mem_cons, not_mem_nil, or_false, mem_map] at h
  rcases h with (((((((rfl | rfl) | ⟨_, -, rfl⟩) | ⟨_, -, rfl⟩) | ⟨_, -, rfl⟩) | ⟨_, -, rfl⟩) |
    ⟨_, -, rfl⟩) | ⟨_, -, rfl⟩) | ⟨_, -, rfl⟩
  all_goals rfl

/-- A snapshot as an entry: its time, what is stored of it, and its parts under a key. -/
def snapshotEntry (X : Deployment) (key : DataKind × String × String)
    (s : SignedPublicClientSnapshot) : Stamped.Entry Int (PublicClientSnapshot × String) Json where
  time := normalizeGeneratedAtMillis s.payload.generatedAt
  value := (s.payload, s.signature)
  parts := partsAt key (snapshotProjectionSeeds none s.payload X)

lemma Ingested.fans {X : Deployment} {s : SignedPublicClientSnapshot} {sourceId : Option Nat}
    {expected : Option String} {announceP2p : Bool} {c c' : Core} {r : Except String Bool}
    (hd : s.payload.decodes X = true) (hv : verifySignedSnapshot X.toCrypto s expected = .ok ())
    (h : Ingested X s sourceId expected announceP2p c r c') (key : DataKind × String × String) :
    (c'.db.stored s.payload.nodeId, c'.db.projected key) =
      fan (c.db.stored s.payload.nodeId, c.db.projected key) (snapshotEntry X key s) := by
  have ha : admits (c.db.stored s.payload.nodeId) (snapshotEntry X key s).time =
      c.db.takesSnapshot (snapshotRecord s sourceId) := by
    unfold admits Db.stored Db.takesSnapshot
    rw [Option.all_map]
    rfl
  cases h with
  | refused _ hv' => cases hv.symm.trans hv'
  | stale _ hst =>
    rw [fan_of_not_admits (ha.trans hst)]
  | spaceFailed _ _ _ _ _ _ hf =>
    exact absurd hf (not_spaceFails hd fun _ h => h)
  | applied _ hne now id db₁ db₂ hs hp =>
    rw [fan_of_admits (ha.trans hne)]
    have ht : ∀ r ∈ snapshotProjectionSeeds sourceId s.payload X,
        normalizeGeneratedAtMillis r.generatedAt = (snapshotEntry X key s).time :=
      fun r hr => congrArg normalizeGeneratedAtMillis (seed_generatedAt hr)
    have ho : db₂.nodeSnapshots = (c.db.ingest X s sourceId announceP2p now id).nodeSnapshots := by
      rw [hp.others]
      exact hs.others.2.1
    have hi : db₁.projected key = c.db.projected key := by
      unfold Db.projected
      rw [hs.others.2.2.1]
      rfl
    refine Prod.ext ?_ ?_
    · show db₂.stored s.payload.nodeId = _
      unfold Db.stored
      rw [ho]
      unfold Db.ingest Db.enqueue Db.storeSnapshot
      rw [get?_upsert, if_pos (show s.payload.nodeId = (snapshotRecord s sourceId).nodeId from rfl)]
      rfl
    · show db₂.projected key = _
      rw [hp.projected ht, hi, partsAt_seeds]
      rfl

/-! ## Orders of arrival -/

def World.ingests (X : Deployment) (inst : Nat) (w : World) (l : List Ingest) : World :=
  w.turns X (l.map (Ingest.turn inst))

section

variable {X : Deployment} {nodeId : String} {w : World}

lemma turn_fans (inst : Nat) (ha : w.Alone) {i : Ingest} (hi : i.accepted X = true)
    (hdec : i.snapshot.payload.decodes X = true) (hno : i.snapshot.payload.nodeId = nodeId)
    (key : DataKind × String × String) :
    ((w.turn X (i.turn inst)).db.stored nodeId, (w.turn X (i.turn inst)).db.projected key) =
      fan (w.db.stored nodeId, w.db.projected key) (snapshotEntry X key i.snapshot) := by
  obtain ⟨-, c', ⟨_, hin⟩, hc⟩ := turn_submitted (X := X) ha (i.turn inst)
  have hd : (w.turn X (i.turn inst)).db = c'.db := congrArg Core.db hc
  have hv : verifySignedSnapshot X.toCrypto i.snapshot i.expectedSignerAgentDid = .ok () := by
    unfold Ingest.accepted at hi
    cases h : verifySignedSnapshot X.toCrypto i.snapshot i.expectedSignerAgentDid with
    | ok => rfl
    | error =>
      rw [h] at hi
      cases hi
  rw [hd, ← hno]
  exact hin.fans hdec hv key

lemma ingests_fan (inst : Nat) (ha : w.Alone) {l : List Ingest}
    (hc : ∀ i ∈ l, i.accepted X = true) (hd : ∀ i ∈ l, i.snapshot.payload.decodes X = true)
    (hno : ∀ i ∈ l, i.snapshot.payload.nodeId = nodeId) (key : DataKind × String × String) :
    ((w.ingests X inst l).db.stored nodeId, (w.ingests X inst l).db.projected key) =
      (l.map fun i => snapshotEntry X key i.snapshot).foldl fan
        (w.db.stored nodeId, w.db.projected key) := by
  induction l generalizing w with
  | nil => rfl
  | cons i _ ih =>
    have hs := turn_fans inst ha (hc i mem_cons_self) (hd i mem_cons_self)
      (hno i mem_cons_self) key
    have hr := ih (turn_submitted (X := X) ha (i.turn inst)).1
      (fun j hj => hc j (mem_cons_of_mem i hj)) (fun j hj => hd j (mem_cons_of_mem i hj))
      fun j hj => hno j (mem_cons_of_mem i hj)
    rw [hs] at hr
    exact hr

end

/-- For every list of validly signed snapshots of a node with pairwise different times, whose
announcements can be read again, ingested in two orders on a gateway in any state with every statement
succeeding: both end with the same stored snapshot, and with the same row under every key of the
newest snapshot. -/
theorem newest_rows_any_order (X : Deployment) (inst : Nat) (w : World)
    (hidle : w.Alone) (nodeId : String) (l l' : List Ingest)
    (haccepted : ∀ i ∈ l ++ l', i.accepted X = true)
    (hdecodes : ∀ i ∈ l ++ l', i.snapshot.payload.decodes X = true)
    (hnode : ∀ i ∈ l, i.snapshot.payload.nodeId = nodeId)
    (hdistinct : (l.map Ingest.instant).Nodup)
    (horder : (l.map Ingest.snapshot).Perm (l'.map Ingest.snapshot)) :
    (w.ingests X inst l).db.stored nodeId = (w.ingests X inst l').db.stored nodeId ∧
      ∀ newest ∈ l, (∀ i ∈ l, i.instant ≤ newest.instant) →
        ∀ r ∈ snapshotProjectionSeeds newest.sourceId newest.snapshot.payload X,
          (w.ingests X inst l).db.projected r.key = (w.ingests X inst l').db.projected r.key := by
  have hnode' : ∀ i ∈ l', i.snapshot.payload.nodeId = nodeId := by
    intro i hi
    obtain ⟨j, hj, ha⟩ := mem_map.1 (horder.symm.subset (mem_map_of_mem hi))
    rw [← ha]
    exact hnode j hj
  have hfan := fun key => ingests_fan inst hidle
    (fun i hi => haccepted i (mem_append_left l' hi))
    (fun i hi => hdecodes i (mem_append_left l' hi)) hnode key
  have hfan' := fun key => ingests_fan inst hidle
    (fun i hi => haccepted i (mem_append_right l hi))
    (fun i hi => hdecodes i (mem_append_right l hi)) hnode' key
  have hp : ∀ key, (l.map fun i => snapshotEntry X key i.snapshot).Perm
      (l'.map fun i => snapshotEntry X key i.snapshot) := by
    intro key
    have h := horder.map (snapshotEntry X key)
    rw [map_map, map_map] at h
    exact h
  have hd := fun key => foldl_fan_perm (s := (w.db.stored nodeId, w.db.projected key))
    (hp key) (by rw [map_map]; exact hdistinct)
  constructor
  · have hf := (hd (.presence, "", "")).1
    rw [← hfan, ← hfan'] at hf
    exact hf
  · intro newest hn hm r hr
    have hs := (hd r.key).2 (snapshotEntry X r.key newest.snapshot)
      (mem_map_of_mem hn) ?_ ?_
    · rw [← hfan, ← hfan'] at hs
      exact hs
    · intro _ he
      obtain ⟨i, hi, rfl⟩ := mem_map.1 he
      exact hm i hi
    · -- the seed itself is a part under its key
      show partsAt r.key _ ≠ []
      rw [← partsAt_seeds X newest.sourceId]
      refine ne_nil_of_mem (mem_map_of_mem (mem_filter.2 ⟨hr, ?_⟩))
      exact decide_eq_true rfl

namespace Orders

def withTasks (generatedAt : Int) (tasks : List Json) : SignedPublicClientSnapshot :=
  { smallSnapshot "k1" "s1" with
    payload := { (smallSnapshot "k1" "s1").payload with generatedAt := generatedAt, tasks := tasks } }

def task (id status : String) : Json :=
  .object [("task_id", .string id), ("status", .string status)]

def ingest (s : SignedPublicClientSnapshot) : Ingest := ⟨1, s, none, none, false⟩

end Orders

set_option maxRecDepth 100000

open Orders in
/-- A task that only the older snapshot has: its row is there if the older snapshot comes first, and
not if it comes last. -/
theorem older_rows_stay :
    let old := ingest (withTasks 1 [task "t" "open"])
    let new := ingest (withTasks 2 [])
    (((start .empty).ingests smallDeployment 0 [old, new]).db.projectionRows.get?
        (.taskSummary, "t", "n")).isSome = true ∧
      (((start .empty).ingests smallDeployment 0 [new, old]).db.projectionRows.get?
        (.taskSummary, "t", "n")).isSome = false := by
  decide

open Orders in
theorem newest_rows_any_order_tasks : ((start .empty).ingests smallDeployment 0
        [ingest (withTasks 1 [task "t" "open"]), ingest (withTasks 2 [task "t" "done"])]).db.projected
          (.taskSummary, "t", "n") =
      ((start .empty).ingests smallDeployment 0
        [ingest (withTasks 2 [task "t" "done"]), ingest (withTasks 1 [task "t" "open"])]).db.projected
          (.taskSummary, "t", "n") := by
  refine (newest_rows_any_order smallDeployment 0 (start .empty) (alone_start .empty) "n"
    [ingest (withTasks 1 [task "t" "open"]), ingest (withTasks 2 [task "t" "done"])]
    [ingest (withTasks 2 [task "t" "done"]), ingest (withTasks 1 [task "t" "open"])]
    ?_ ?_ ?_ ?_ ?_).2 (ingest (withTasks 2 [task "t" "done"])) (by simp) ?_
    (seed none (withTasks 2 [task "t" "done"]).payload .taskSummary (task "t" "done")
      (attachGeneratedAt (task "t" "done") 2)) ?_
  · decide
  · decide
  · decide
  · decide
  · exact List.Perm.swap _ _ _
  · decide
  · simp [snapshotProjectionSeeds, fanoutArray, ingest, withTasks]

end WattGateway.Gateway
