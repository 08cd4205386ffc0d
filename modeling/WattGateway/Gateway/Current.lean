import WattGateway.Gateway.Filing
import WattGateway.Gateway.Footprints

/-!
# Snapshots that count as current

`snapshot_is_current` looks at the row of a snapshot only, and row and read models are written in
different transactions. If a statement fails in between, or the process stops, or the check comes in
between, the row counts as current without them (`skipped_without_read_models`); in all other runs
it has them (`current_has_read_models`).
-/

namespace WattGateway.Gateway

open List Option Sys

variable {o : Outcome} {q : Query}

/-! ## The invariant -/

def stageOf (X : Deployment) (s : GatewaySys) (t : Nat) : Stage := (watch X).stage (s.threads t).hist

/-- The stored snapshot has its read models. -/
def Db.Complete (X : Deployment) (db : Db) (row : SnapshotRow) : Prop :=
  ∀ p ∈ snapshotProjectionSeeds row.sourceId row.payload X, db.Shows p

/-- A call has committed the row, and these projections of it are still to be written. -/
def Files (X : Deployment) (s : GatewaySys) (nodeId : String) (row : SnapshotRow) : Prop :=
  ∃ t r p rest, stageOf X s t = .filing r p rest ∧ r.nodeId = nodeId ∧ row.payload = r.payload ∧
    ∀ p' ∈ r.seeds X, p' ∈ p :: rest ∨ s.world.db.Shows p'

structure FiledOrFiling (X : Deployment) (s : GatewaySys) : Prop where
  txs : ∀ t tx, s.world.txs.get? t = some tx → ∀ nodeId row, .snapshot nodeId row ∈ tx.writes →
    ∃ r, stageOf X s t = .staged r ∧ r.nodeId = nodeId ∧ row.payload = r.payload
  rows : ∀ nodeId row, s.world.db.nodeSnapshots.get? nodeId = some row →
    s.world.db.Complete X row ∨ Files X s nodeId row
  heard : ∀ t nodeId row, (s.threads t).hist.Heard (.read (.getSnapshotByNodeId nodeId))
    (.ok (some row)) → s.world.db.Complete X row

/-- What one step of a call may not do: fail a statement of a call whose row is committed and whose
projections are not all written, lose the answer to the commit of such a row, commit the row of a
snapshot that does not decode, or check a snapshot while a call is on the way with its projections. -/
structure Unbroken (X : Deployment) (instances : Nat → Nat) (s : GatewaySys) (t : Nat) (o : Outcome)
    (q : Query) : Prop where
  statement : ∀ r p rest, stageOf X s t = .filing r p rest →
    ∀ e w, answer (instances t) t s.world o q ≠ some (.error e, w)
  commit : ∀ r, stageOf X s t = .staged r → q = .commit → o ≠ .lost ∧ r.payload.decodes X = true
  check : ∀ nodeId, q = .read (.getSnapshotByNodeId nodeId) →
    ∀ t' r p rest, stageOf X s t' = .filing r p rest → r.nodeId ≠ nodeId

def unbroken (X : Deployment) (instances : Nat → Nat) (s : GatewaySys) : Action Env → Prop
  | .run t o => ∀ q k, (s.threads t).prog = .ask q k → Unbroken X instances s t o q
  | .env _ => True

section

variable {X : Deployment} {s s' : GatewaySys} {instances : Nat → Nat}
variable {row : SnapshotRow}

variable {r : SnapshotRecord} {db : Db}

lemma complete_of_seeds (hpa : row.payload = r.payload)
    (h : ∀ p ∈ r.seeds X, db.Shows p) : db.Complete X row := by
  intro _ hp
  rw [seeds_eq_map, hpa] at hp
  obtain ⟨p₀, hp₀, rfl⟩ := mem_map.1 hp
  have hs := h { p₀ with sourceId := r.sourceId } (by
    unfold SnapshotRecord.seeds
    rw [seeds_eq_map]
    exact mem_map_of_mem hp₀)
  exact hs

variable {p : ProjectionRecord}

lemma shows_apply (a : AutoWrite) (now : Nat) (h : db.Shows p) : (a.apply db now).Shows p := by
  cases a with
  | upsertProjectionRow r => exact h.grows (grows_project db r now)
  | insertAuditRecord => exact h
  | updateSourceSyncStatus => exact h

lemma shows_answer {w w' : World} {t inst : Nat} {x : Ans q}
    (ha : answer inst t w o q = some (x, w')) (h : w.db.Shows p) : w'.db.Shows p := by
  by_cases hq : q.Writes
  · cases q with
    | commit =>
      rcases (commit_cases ha).2.2 with hd | ⟨tx, -, hd, -⟩
      · rw [hd]
        exact h
      · unfold Db.Shows
        rw [hd, (view_others w.db tx).1]
        exact h
    | stmt =>
      rw [(stmt_cases ha).1]
      exact h
    | write a =>
      rcases (write_cases ha).2 with hd | ⟨hd, -⟩
      · rw [hd]
        exact shows_apply a _ h
      · rw [hd]
        exact h
    | _ => exact hq.elim
  · rw [(other_cases hq ha).1]
    exact h

lemma FiledOrFiling.of_world (h : FiledOrFiling X s)
    (hth : ∀ t, (s'.threads t).hist = (s.threads t).hist)
    (hd : s'.world.db = s.world.db)
    (ht : ∀ t tx, s'.world.txs.get? t = some tx → s.world.txs.get? t = some tx) :
    FiledOrFiling X s' := by
  have hs : ∀ t, stageOf X s' t = stageOf X s t := by
    intro t
    unfold stageOf
    rw [hth]
  refine ⟨fun t tx hx nodeId row hm => ?_, fun nodeId row hr => ?_, fun t nodeId row hh => ?_⟩
  · rw [hs]
    exact h.txs t tx (ht t tx hx) nodeId row hm
  · unfold Files
    simp only [hs]
    rw [hd] at hr ⊢
    exact h.rows nodeId row hr
  · rw [hth] at hh
    rw [hd]
    exact h.heard t nodeId row hh

lemma Db.Complete.answer {w w' : World} {t inst : Nat} {x : Ans q}
    (h : w.db.Complete X row) (ha : answer inst t w o q = some (x, w')) : w'.db.Complete X row :=
  fun p hp => shows_answer ha (h p hp)

section Answer

variable {t : Nat} {k : Ans q → Proc Reply} {x : Ans q} {w' : World}

abbrev afterAnswer (s : GatewaySys) (t : Nat) (k : Ans q → Proc Reply) (x : Ans q) (w' : World) :
    GatewaySys :=
  s.advance t (k x) (s.world.now, .heard q x) w'

lemma stageOf_after : stageOf X (afterAnswer s t k x w') t = (stageOf X s t).hear X q x := by
  unfold stageOf
  rw [advance_self]
  rfl

lemma stageOf_after_ne {t' : Nat} (hne : t' ≠ t) :
    stageOf X (afterAnswer s t k x w') t' = stageOf X s t' := by
  unfold stageOf
  rw [advance_ne hne]

lemma staged_of_exec {st : Stmt} {view : Db} {d : Defaults} {a : st.Result} {nodeId : String}
    (he : st.exec view d = .ok (a, some (.snapshot nodeId row))) (stage : Stage) :
    ∃ r, stage.hear X (.stmt st) (.ok a) = .staged r ∧ r.nodeId = nodeId ∧
      row.payload = r.payload := by
  have hw := writes_of_exec he
  cases st with
  | upsertSnapshot r =>
    obtain ⟨hno, _, _, hr⟩ := hw
    have ht : a = true := by
      unfold Stmt.exec at he
      simp only at he
      split at he
      · exact (Prod.mk.inj (Except.ok.inj he)).1.symm
      · cases (Prod.mk.inj (Except.ok.inj he)).2
    subst ht
    refine ⟨r, rfl, hno.symm, ?_⟩
    rw [hr]
    rfl
  | _ => exact hw.elim

lemma FiledOrFiling.txs_after (h : FiledOrFiling X s) (hall : (stageOf X s t).Allows q)
    (ha : answer (instances t) t s.world o q = some (x, w')) :
    ∀ t' tx, w'.txs.get? t' = some tx → ∀ nodeId row, .snapshot nodeId row ∈ tx.writes →
      ∃ r, stageOf X (afterAnswer s t k x w') t' = .staged r ∧ r.nodeId = nodeId ∧
        row.payload = r.payload := by
  intro t' tx ht nodeId row hm
  -- a transaction of another call is as it was
  have ho : t' ≠ t → s.world.txs.get? t' = some tx →
      ∃ r, stageOf X (afterAnswer s t k x w') t' = .staged r ∧ r.nodeId = nodeId ∧
        row.payload = r.payload := by
    intro hne hold
    rw [stageOf_after_ne hne]
    exact h.txs t' tx hold nodeId row hm
  by_cases hne : t' = t
  swap
  · refine ho hne ?_
    by_cases hq : q.Writes
    · cases q with
      | commit => exact (commit_cases ha).2.1 t' tx ht
      | stmt => exact (stmt_cases ha).2.1 t' tx hne ht
      | write => rwa [(write_cases ha).1] at ht
      | _ => exact hq.elim
    · rcases (other_cases hq ha).2.1 t' tx ht with hold | ⟨he, -⟩
      · exact hold
      · exact absurd he hne
  subst hne
  rw [stageOf_after]
  -- a transaction of the call itself holds a snapshot only while it is staged
  have hs : s.world.txs.get? t' = some tx → ∃ r, stageOf X s t' = .staged r ∧
      r.nodeId = nodeId ∧ row.payload = r.payload := fun hold => h.txs t' tx hold nodeId row hm
  by_cases hq : q.Writes
  · cases q with
    | commit =>
      rw [(commit_cases ha).1] at ht
      cases ht
    | write =>
      rw [(write_cases ha).1] at ht
      obtain ⟨r, hr, -⟩ := hs ht
      rw [hr] at hall
      rcases hall with hb | ⟨_, hb⟩ <;> cases hb
    | stmt =>
      obtain ⟨-, -, hx⟩ := stmt_cases ha
      cases x with
      | error =>
        rw [show w'.txs.get? t' = none from hx] at ht
        cases ht
      | ok =>
        obtain ⟨tx₀, _, _, ht₀, hexe, hn⟩ := hx
        rw [hn] at ht
        cases ht
        rcases mem_append.1 hm with hm | hm
        · obtain ⟨r, hr, hno, hp⟩ := h.txs t' tx₀ ht₀ nodeId row hm
          refine ⟨r, ?_, hno, hp⟩
          rw [hr] at hall ⊢
          rcases hall with hb | ⟨_, hc⟩
          · cases hb
          · cases hc
            rfl
        · rw [mem_toList] at hm
          cases hm
          exact staged_of_exec hexe _
    | _ => exact hq.elim
  · rcases (other_cases hq ha).2.1 t' tx ht with hold | ⟨-, hem⟩
    · obtain ⟨_, hr, -⟩ := hs hold
      rw [hr] at hall
      rcases hall with rfl | ⟨_, rfl⟩ <;> exact absurd trivial hq
    · rw [hem] at hm
      cases hm

lemma FiledOrFiling.filing_after {rest : List ProjectionRecord}
    {nodeId : String} (ht : stageOf X s t = .filing r p rest)
    (hall : (stageOf X s t).Allows q) (hok : ∀ e, x ≠ .error e)
    (ha : answer (instances t) t s.world o q = some (x, w')) (hno : r.nodeId = nodeId)
    (hpa : row.payload = r.payload)
    (hs : ∀ p' ∈ r.seeds X, p' ∈ p :: rest ∨ s.world.db.Shows p') :
    w'.db.Complete X row ∨ Files X (afterAnswer s t k x w') nodeId row := by
  rw [ht] at hall
  obtain ⟨hl, hne⟩ := hall
  have hf : stageOf X (afterAnswer s t k x w') t = (Stage.filing r p rest).hear X q x := by
    rw [stageOf_after, ht]
  cases x with
  | error e => exact absurd rfl (hok e)
  | ok a =>
    unfold Stage.hear at hf
    simp only [Query.Plain.applied hl a] at hf
    cases hp : q.projection? with
    | none =>
      rw [hp] at hf
      refine .inr ⟨t, r, p, rest, hf, hno, hpa, fun p' hp' => ?_⟩
      exact (hs p' hp').imp_right (shows_answer ha)
    | some p₁ =>
      obtain rfl := hne p₁ hp
      rw [hp] at hf
      have hle : ∀ p' ∈ r.seeds X, p' ∈ rest ∨ w'.db.Shows p' := by
        intro p' hp'
        rcases hs p' hp' with hm | hold
        · rcases mem_cons.1 hm with rfl | hm
          · right
            obtain rfl := Query.projection?_eq_some hp
            rcases (write_cases ha).2 with hd | ⟨-, _, he⟩
            · rw [hd]
              exact shows_project _ _ _
            · cases he
          · exact .inl hm
        · exact .inr (shows_answer ha hold)
      cases rest with
      | nil =>
        refine .inl (complete_of_seeds hpa fun p' hp' => ?_)
        rcases hle p' hp' with hm | hh
        · cases hm
        · exact hh
      | cons p₂ rest₂ => exact .inr ⟨t, r, p₂, rest₂, hf, hno, hpa, hle⟩

section

variable (h : FiledOrFiling X s) (hall : (stageOf X s t).Allows q)
  (hco : Unbroken X instances s t o q) (ha : answer (instances t) t s.world o q = some (x, w'))
include h hall hco ha

lemma FiledOrFiling.rows_after : ∀ nodeId row, w'.db.nodeSnapshots.get? nodeId = some row →
      w'.db.Complete X row ∨ Files X (afterAnswer s t k x w') nodeId row := by
  intro nodeId row hr
  -- a row that was there before
  have hold : s.world.db.nodeSnapshots.get? nodeId = some row →
      w'.db.Complete X row ∨ Files X (afterAnswer s t k x w') nodeId row := by
    intro hr
    rcases h.rows nodeId row hr with hc | ⟨t₀, r, p, rest, hs, hno, hpa, hse⟩
    · exact .inl (hc.answer ha)
    · by_cases hne : t₀ = t
      · subst hne
        refine FiledOrFiling.filing_after hs hall (fun e he => ?_) ha hno hpa hse
        exact hco.statement r p rest hs e w' (he ▸ ha)
      · refine .inr ⟨t₀, r, p, rest, ?_, hno, hpa, fun p' hp' => ?_⟩
        · rw [stageOf_after_ne hne]
          exact hs
        · exact (hse p' hp').imp_right (shows_answer ha)
  by_cases hq : q.Writes
  · cases q with
    | commit =>
      rcases (commit_cases ha).2.2 with hd | ⟨tx, ht, hd, hx⟩
      · rw [hd] at hr
        exact hold hr
      · rw [hd] at hr
        have hv : (tx.view s.world.db).Has (.snapshot nodeId row) := hr
        rcases has_view hv with hm | hr
        · -- the row of this commit: all its projections are to be written
          obtain ⟨r, hs, hno, hpa⟩ := h.txs t tx ht nodeId row hm
          obtain ⟨ho, hd⟩ := hco.commit r hs rfl
          obtain rfl : x = .ok () := hx.resolve_right ho
          obtain ⟨p, rest, hse⟩ := seeds_eq_cons (X := X) r
          refine .inr ⟨t, r, p, rest, ?_, hno, hpa, fun p' hp' => ?_⟩
          · rw [stageOf_after, hs]
            show Stage.committed X r = _
            rw [Stage.committed, if_pos hd, hse]
            rfl
          · rw [hse] at hp'
            exact .inl hp'
        · exact hold hr
    | stmt =>
      rw [(stmt_cases ha).1] at hr
      exact hold hr
    | write a =>
      rcases (write_cases ha).2 with hd | ⟨hd, -⟩
      · rw [hd] at hr
        refine hold ?_
        cases a <;> exact hr
      · rw [hd] at hr
        exact hold hr
    | _ => exact hq.elim
  · rw [(other_cases hq ha).1] at hr
    exact hold hr

lemma FiledOrFiling.after : FiledOrFiling X (afterAnswer s t k x w') where
  txs := h.txs_after hall ha
  rows := h.rows_after hall hco ha
  heard t' nodeId row hhe := by
    by_cases hne : t' = t
    · subst hne
      rw [advance_self] at hhe
      rcases hhe.of_cons with hn | hold
      · -- the check itself comes while no call is on the way
        cases hn
        rw [answer] at ha
        split at ha
        · obtain ⟨hx, rfl⟩ := Prod.mk.inj (Option.some.inj ha)
          have hr : s.world.db.nodeSnapshots.get? nodeId = some row := Except.ok.inj hx
          rcases h.rows nodeId row hr with hc | ⟨t₀, r, p, rest, hs, hno, -⟩
          · exact hc
          · exact absurd hno (hco.check nodeId rfl t₀ r p rest hs)
        · cases (Prod.mk.inj (Option.some.inj ha)).1
      · exact (h.heard t' nodeId row hold).answer ha
    · rw [advance_ne hne] at hhe
      exact (h.heard t' nodeId row hhe).answer ha

end

end Answer

lemma answers_machine (instances : Nat → Nat) : Answers (machine instances) := by
  refine ⟨fun _ c => c.elim, fun t q o w e w' h => ?_⟩
  obtain ⟨_, -, hy⟩ := map_eq_some_iff.1 h
  cases hy

end

/-- In every run in which no statement of a call fails between the commit of a snapshot row and the
last of its projections, the answer to that commit is not lost, the snapshot decodes, and no check of
a node comes while a call is in between with a snapshot of the node: every row that
`snapshot_is_current` was answered with has all its read models. -/
theorem current_has_read_models (X : Deployment) (sources : Sources)
    (calls : Nat → Call) (instances : Nat → Nat) (s : GatewaySys)
    (hr : Reaches (machine instances) (unbroken X instances) (gatewayStart X sources calls) s)
    (t : Nat) (nodeId : String) (row : SnapshotRow)
    (hheard : (s.threads t).hist.Heard (.read (.getSnapshotByNodeId nodeId)) (.ok (some row))) :
    s.world.db.Complete X row := by
  have hst : LeadsAll (watch X) (fun _ stage => stage = .idle)
      (gatewayStart X sources calls) := fun t => call_idles (calls t)
  have hf : FiledOrFiling X s := by
    refine hr.invariant ?_ ?_
    · refine ⟨fun t tx hx => ?_, fun nodeId row ho => ?_, fun t nodeId row hheard => ?_⟩
      · cases hx
      · cases ho
      · exact absurd hheard (Hist.not_heard_nil _ _)
    · intro s a hr hco h
      have hle := hr.leads (answers_machine instances) hst
      rcases gateway_step instances s a with hs | ⟨e, -, hs⟩ | ⟨t, _, q, k, x, w, rfl, hp, hn, hs⟩
      · rw [hs]
        exact h
      · rw [hs]
        refine h.of_world (fun _ => rfl) ?_ ?_
        · cases e <;> rfl
        · cases e with
          | disconnect t => exact fun _ _ => s.world.get?_of_dropTx t
          | _ => exact fun _ _ hx => hx
      · have hall : (stageOf X s t).Allows q := by
          have ht := hle t
          rw [hp] at ht
          exact ht.1
        have haf := h.after (k := k) hall (hco q k hp) hn
        rw [hs]
        refine haf.of_world (fun t' => settle_hist _ _ t t') ?_ ?_
        · rcases settle_world instances t (afterAnswer s t k x w) with hw | hw <;> rw [hw]
          rfl
        · rcases settle_world instances t (afterAnswer s t k x w) with hw | hw <;> rw [hw]
          · exact fun _ _ hx => hx
          · exact fun _ _ => World.get?_of_dropTx _ t
  exact hf.heard t nodeId row hheard

/-! ### A snapshot and its announcement -/

namespace Skipped

open Orders

def calls : Nat → Call
  | 0 => .ingestSnapshot (withTasks 1 [task "t" "open"])
  | _ => .gossip "peer" (.snapshotAnnounceV1 "peer" "n" "k1" 1
      ⟨irohDirect, "peer", irohDirect, none, some "peer"⟩)

def start : GatewaySys := gatewayStart smallDeployment .empty calls

def ran (acts : List (Action Env)) : GatewaySys := start.runActions (machine fun _ => 0) acts

/-- The row of the latest query, if that was a check of the node. -/
def checkedRow : History → Option SnapshotRow
  | (_, .heard (.read (.getSnapshotByNodeId "n")) (.ok (some row))) :: _ => some row
  | _ => none

lemma heard_of_checkedRow {h : History} (hs : (checkedRow h).isSome = true) :
    ∃ row, h.Heard (.read (.getSnapshotByNodeId "n")) (.ok (some row)) := by
  unfold checkedRow at hs
  split at hs
  · rename_i τ row h
    exact ⟨row, Hist.heard_self τ _ _ h⟩
  · cases hs

def failed : GatewaySys :=
  ran (List.replicate 6 (.run 0 .ok) ++ [.run 0 .failed, .run 1 .ok])

def filed : GatewaySys := ran (List.replicate 24 (.run 0 .ok))

def stagedDecodes : Stage → Bool
  | .staged r => r.payload.decodes smallDeployment
  | _ => true

def goesOn (s : GatewaySys) : Bool :=
  stagedDecodes (stageOf smallDeployment s 0) &&
  match (s.threads 0).prog with
  | .ask (.read (.getSnapshotByNodeId _)) _ => false
  | .ask q _ =>
    match answer 0 0 s.world .ok q with
    | some (.error _, _) => false
    | _ => true
  | _ => true

lemma unbroken_of_goesOn {s : GatewaySys} (h : goesOn s = true) :
    unbroken smallDeployment (fun _ => 0) s (.run 0 .ok) := by
  intro q k hp
  unfold goesOn at h
  rw [hp, Bool.and_eq_true] at h
  obtain ⟨hd, h⟩ := h
  refine ⟨fun _ _ _ _ e w ha => ?_, fun _ hs _ => ⟨by decide, by rwa [hs] at hd⟩, ?_⟩
  · split at h
    · cases h
    · rename_i heq
      cases heq
      rw [ha] at h
      cases h
    · rename_i hne
      exact absurd rfl (hne q k)
  · rintro nodeId rfl
    cases h

def isIdle : Stage → Bool
  | .idle => true
  | _ => false

lemma unbroken_of_idle {s : GatewaySys}
    (h : ∀ t, isIdle (stageOf smallDeployment s t) = true) (t : Nat) :
    unbroken smallDeployment (fun _ => 0) s (.run t .ok) := by
  intro _ _ _
  refine ⟨fun _ _ _ hs => ?_, fun _ hs _ => ?_, fun _ _ t' _ _ _ hs => ?_⟩
  · have hi := h t
    rw [hs] at hi
    cases hi
  · have hi := h t
    rw [hs] at hi
    cases hi
  · have hi := h t'
    rw [hs] at hi
    cases hi

set_option maxRecDepth 100000

lemma reaches_filed : Reaches (machine fun _ => 0) (unbroken smallDeployment fun _ => 0) start filed ∧
      ∀ t', t' ≠ 0 → filed.threads t' = start.threads t' := by
  have hall : (List.range 24).all (fun j => goesOn (ran (List.replicate j (.run 0 .ok)))) = true := by
    decide
  unfold filed ran
  refine reaches_alone 24 start fun j hj _ => unbroken_of_goesOn ?_
  exact all_eq_true.1 hall j (mem_range.2 hj)

end Skipped

open Skipped Orders in
theorem skipped_without_read_models : Reaches (machine fun _ => 0) anyStep start failed ∧
      (failed.threads 0).prog.isDone = true ∧ (failed.threads 1).prog.isDone = true ∧
      ∃ row, (failed.threads 1).hist.Heard (.read (.getSnapshotByNodeId "n")) (.ok (some row)) ∧
        ¬ failed.world.db.Complete smallDeployment row := by
  refine ⟨reaches_runActions _ _, by decide, by decide, ?_⟩
  have hc : (checkedRow (failed.threads 1).hist).isSome = true := by decide
  obtain ⟨row, hr⟩ := heard_of_checkedRow hc
  refine ⟨row, hr, fun hco => ?_⟩
  have he : failed.world.db.projectionRows.rows.isEmpty = true := by decide
  obtain ⟨_, hp, _⟩ := hco _ mem_cons_self
  rw [Table.get?_eq_some, isEmpty_iff.1 he] at hp
  cases hp

open Skipped Orders in
theorem current_has_read_models_filed :
    ∃ row, ((filed.step (machine fun _ => 0) (.run 1 .ok)).threads 1).hist.Heard
        (.read (.getSnapshotByNodeId "n")) (.ok (some row)) ∧
      (filed.step (machine fun _ => 0) (.run 1 .ok)).world.db.Complete smallDeployment row := by
  obtain ⟨he, ho⟩ := reaches_filed
  have hc : (checkedRow ((filed.step (machine fun _ => 0) (.run 1 .ok)).threads 1).hist).isSome =
      true := by decide
  obtain ⟨row, hr⟩ := heard_of_checkedRow hc
  refine ⟨row, hr, current_has_read_models smallDeployment .empty calls (fun _ => 0) _
    (he.step (.run 1 .ok) ?_) 1 "n" row hr⟩
  -- the push has left the stage of filing, and the other calls have not begun
  have hi : isIdle (stageOf smallDeployment filed 0) = true := by decide
  refine unbroken_of_idle (fun t => ?_) 1
  by_cases ht : t = 0
  · rwa [ht]
  · rw [stageOf, ho t ht]
    rfl

end WattGateway.Gateway
