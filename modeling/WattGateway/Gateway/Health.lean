import WattGateway.Gateway.Kinds
import WattGateway.Gateway.Pins

/-!
# Health

The counts of the health endpoint. The refreshes that applied a snapshot are counted under a record
kind that no audit row has, so their number is always zero (`backfill_counted_iff`).
-/

namespace WattGateway.Gateway

open Sys

structure GatewayHealthCounts where
  sourceCount : Nat
  activeSourceCount : Nat
  snapshotCount : Nat
  projectionCount : Nat
  uiEventCount : Nat
  backfillEventCount : Nat

def counts (db : Db) : GatewayHealthCounts where
  sourceCount := db.nodeSources.rows.length
  activeSourceCount := (db.nodeSources.select fun _ row => row.sourceStatus = .active).length
  snapshotCount := db.nodeSnapshots.rows.length
  projectionCount := db.projectionRows.rows.length
  uiEventCount := db.uiEvents.rows.length
  backfillEventCount := db.ingestAudit.countP (·.recordKind = "gap_snapshot_refresh_applied")

/-- The gap refreshes that applied a snapshot and whose audit row was written. -/
def appliedRefreshes (db : Db) : Nat :=
  db.ingestAudit.countP (·.recordKind = gapSubject (.ok true))

section

variable {X : Deployment} {sources : Sources} {calls : Nat → Call} {instances : Nat → Nat}
  {cond : GatewaySys → Action Env → Prop} {s : GatewaySys} {r : AuditRecord}

/-- An audit row is that of a stored event or of a gap refresh. -/
lemma recordKind_of_audit (hr : Reaches (machine instances) cond (gatewayStart X sources calls) s)
    (h : r ∈ s.world.db.ingestAudit) :
    r.recordKind = "ui_event_insert" ∨ ∃ sourceId source nodeId missingFromSeq missingToSeq outcome,
      r = gapAudit sourceId source nodeId missingFromSeq missingToSeq outcome := by
  have hh : s.world.Holds (.audit r) := h
  obtain ⟨_, q, _, -, hd, hm⟩ := derived_of_holds hr hh
  cases q with
  | write a =>
    cases a with
    | insertAuditRecord =>
      cases hm
      refine hd.imp_left ?_
      rintro ⟨_, _, _, -, -, rfl⟩
      rfl
    | _ => cases hm
  | _ => cases hm

end

lemma gapSubject_ne (outcome : Except String Bool) :
    gapSubject outcome ≠ "gap_snapshot_refresh_applied" := by
  unfold gapSubject
  split <;> decide

/-- In every state of a run the number that is reported is right just if no refresh so far has
applied a snapshot and left its audit row. -/
theorem backfill_counted_iff (X : Deployment) (sources : Sources) (calls : Nat → Call)
    (instances : Nat → Nat) (s : GatewaySys)
    (hr : Reaches (machine instances) anyStep (gatewayStart X sources calls) s) :
    (counts s.world.db).backfillEventCount = appliedRefreshes s.world.db ↔
      appliedRefreshes s.world.db = 0 := by
  have hno : (counts s.world.db).backfillEventCount = 0 := by
    refine List.countP_eq_zero.2 fun r ho => ?_
    rw [decide_eq_true_iff]
    rcases recordKind_of_audit hr ho with hk | ⟨_, _, _, _, _, outcome, rfl⟩
    · rw [hk]
      decide
    · exact gapSubject_ne outcome
  rw [hno]
  exact eq_comm

/-! ## A refresh that applies a snapshot -/

namespace Refreshed

def event (seq : Nat) : SignedNodeEvent :=
  let first := Protected.event .hiveActivity
  { first with payload := { first.payload with eventId := toString seq, seq } }

def calls (t : Nat) : Call := .ingestNodeEvent (event (2 * t + 1))

def remote : Remote
  | .signedSnapshot _ => some (smallSnapshot "k1" "s1")
  | _ => none

def run : GatewaySys :=
  (gatewayStart smallDeployment (Pinned.sources .active) calls).runActions (machine fun _ => 0)
    (.env (.serve remote) :: List.replicate 20 (.run 0 .ok) ++ List.replicate 30 (.run 1 .ok))

end Refreshed

set_option maxRecDepth 100000

open Refreshed in
theorem refresh_not_counted :
    appliedRefreshes run.world.db = 1 ∧ (counts run.world.db).backfillEventCount = 0 := by
  decide

open Refreshed in
theorem backfill_counted_iff_run : appliedRefreshes run.world.db = 1 ∧
      ((counts run.world.db).backfillEventCount = appliedRefreshes run.world.db ↔
        appliedRefreshes run.world.db = 0) :=
  ⟨by decide, backfill_counted_iff _ _ _ _ _ (Sys.reaches_runActions _ _)⟩

end WattGateway.Gateway
