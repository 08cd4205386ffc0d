import WattGateway.Message.PublishCommands
import WattGateway.Message.Sessions

/-!
# Failed publishes

`publish` writes the control tables in the transaction of its fence, and through the pool only the
route bindings and the binding states of members. So a publish that ends with an error has changed
nothing else, unless the database took the commit and the answer was lost.
-/

namespace WattGateway.Message

open Prog List Sample

/-- The columns of a membership that say who is a member, in which role and since which version. -/
def MembershipRow.standing (r : MembershipRow) : String × MemberState × List Role :=
  (r.membershipVersion, r.state, r.rolesJson)

/-- What the control tables hold besides bindings and binding states. -/
structure Control where
  memberships : List ((String × String × String) × String × MemberState × List Role)
  scopeVersions : List ((String × String) × ScopeVersionRow)
  mutationWindows : List ((String × String) × MutationWindowRow)
  receipts : List ((String × String × String) × ReceiptRow)
  audit : List AuditRow
  deriving DecidableEq

def Db.control (db : Db) : Control where
  memberships := db.memberships.rows.map fun x => (x.1, x.2.standing)
  scopeVersions := db.scopeVersions.rows
  mutationWindows := db.mutationWindows.rows
  receipts := db.receipts.rows
  audit := db.audit

lemma Stmt.Binds.control {st : Stmt} (h : st.Binds) {now : Nat} {db db' : Db}
    (hrun : st.run now db = .ok db') : db'.control = db.control := by
  cases st with
  | deleteRouteBindings =>
    cases hrun
    rfl
  | insertBinding =>
    simp only [Stmt.run] at hrun
    split at hrun <;> cases hrun
    rfl
  | activateBindings n l =>
    cases hrun
    have hr : (db.memberships.update (fun k r => k.1 = n ∧ k.2.1 = l ∧ r.state = .active)
        boundActive).rows.map (fun x => (x.1, x.2.standing)) =
        db.memberships.rows.map fun x => (x.1, x.2.standing) := by
      unfold Table.update
      rw [map_map]
      refine map_congr_left fun x _ => ?_
      simp only [Function.comp_apply]
      split <;> rfl
    simp only [Db.control, hr]
  | _ => exact h.elim

lemma commit_outcome {t : Nat} {o : Outcome} {w w' : World} {r : Except String Unit}
    (h : perform t .commit o w = some (r, w')) (hd : w'.db ≠ w.db) :
    o = .ok ∧ r = .ok () ∨ o = .lost := by
  simp only [perform] at h
  split at h
  · cases h
    exact absurd rfl hd
  · rename_i tx _
    cases hv : tx.view w.db with
    | error =>
      rw [hv] at h
      cases h
      exact absurd rfl hd
    | ok =>
      rw [hv] at h
      cases o <;> cases h
      · exact .inl ⟨rfl, rfl⟩
      · exact absurd rfl hd
      · exact absurd rfl hd
      · exact .inr rfl

section Runs

variable {X : Wattswarm} {config : Config} {calls : Nat → Call} {w : World} {s : State} {t : Nat}
  {session : VerifiedSession} {frame : PublishFrame}

section

variable (hcall : calls t = .publish session frame) (h : Reachable X config calls w s)
include hcall h

lemma last_of_reachable : (s.threads t).prog.Last (· = .commit) := by
  refine Sys.Reaches.last ?_ h
  show ((calls t).prog X config).Last _
  rw [hcall]
  exact (last_publish X config session frame).map _

lemma binds_of_reachable {st : Stmt} {k : Gw Reply}
    (hp : (s.threads t).prog = .cmd (.exec st) k) : st.Binds := by
  have hne : (s.threads t).prog.Never fun c => ∃ st : Stmt, c = .exec st ∧ ¬ st.Binds := by
    refine Sys.Reaches.never ?_ h
    show ((calls t).prog X config).Never _
    rw [hcall]
    exact (never_unbinding X config session frame).bind fun _ => trivial
  rw [hp] at hne
  by_contra hs
  exact hne.1 ⟨st, rfl, hs⟩

/-- A step of a publish leaves the control tables, or it is the commit: the publish returns, or the
answer was lost. -/
lemma control_step (o : Outcome) :
    (s.step gateway (.run t o)).world.db.control = s.world.db.control ∨
      (∃ r, ((s.step gateway (.run t o)).threads t).prog = .ret r) ∨
      o = .lost ∧ ∃ k, (s.threads t).prog = .cmd .commit k := by
  rcases world_step s (.run t o) with ⟨hd, -⟩ | ⟨_, ha, -⟩ |
    ⟨_, _, _, k, _, w', ha, hp, hx, he, hd, -⟩
  · exact .inl (by rw [hd])
  · cases ha
  · cases ha
    rcases he.db with hs | ⟨_, rfl, hr⟩ | ⟨rfl, -⟩
    · exact .inl (by rw [hd, hs])
    · exact .inl (by rw [hd]; exact (binds_of_reachable hcall h hp).control hr)
    · by_cases hs : w'.db = s.world.db
      · exact .inl (by rw [hd, hs])
      · rcases commit_outcome hx hs with ⟨rfl, rfl⟩ | ho
        · have hl := last_of_reachable hcall h
          rw [hp] at hl
          obtain ⟨reply, rfl⟩ := hl.1 rfl
          refine .inr (Or.inl ⟨reply, ?_⟩)
          rw [Sys.step_cmd hp hx, Sys.settle_prog, Sys.advance_self]
        · exact .inr (Or.inr ⟨ho, k, hp⟩)

end

lemma returned_stays {r : Reply} (h : (s.threads t).prog = .ret r) (acts : List (Action Env)) :
    ((s.runActions gateway acts).threads t).prog = .ret r := by
  induction acts generalizing s with
  | nil => exact h
  | cons _ _ ih => exact ih (by rw [Sys.step_of_done (by rw [h]; rfl)]; exact h)

end Runs

/-- A publish that ends with an error has left the control tables as they were at each of its steps,
whatever other calls did in between, and so, if it ran alone, from its start to its end; except that
the answer to its commit may have been lost. -/
theorem failed_publish_leaves_no_trace (X : Wattswarm) (config : Config) (calls : Nat → Call)
    (w : World) (acts : List (Action Env)) (t : Nat) (session : VerifiedSession)
    (frame : PublishFrame) (e : String) (hcall : calls t = .publish session frame)
    (herr : (((initial X config calls w).runActions gateway acts).threads t).prog = .fail e) :
    (∀ before o after, acts = before ++ .run t o :: after →
      (((initial X config calls w).runActions gateway before).step gateway
          (.run t o)).world.db.control =
        ((initial X config calls w).runActions gateway before).world.db.control ∨
      o = .lost ∧ ∃ k, (((initial X config calls w).runActions gateway before).threads t).prog =
        .cmd .commit k) ∧ ((∀ a ∈ acts, (∃ o, a = .run t o) ∨ ∃ ms, a = .env (.tick ms)) →
      ((initial X config calls w).runActions gateway acts).world.db.control = w.db.control ∨
      ∃ before after, acts = before ++ .run t .lost :: after ∧ ∃ k,
        (((initial X config calls w).runActions gateway before).threads t).prog =
          .cmd .commit k) := by
  have ht : ∀ before o after, acts = before ++ .run t o :: after →
      (((initial X config calls w).runActions gateway before).step gateway
          (.run t o)).world.db.control =
        ((initial X config calls w).runActions gateway before).world.db.control ∨
      o = .lost ∧ ∃ k, (((initial X config calls w).runActions gateway before).threads t).prog =
        .cmd .commit k := by
    intro before o after ha
    rcases control_step hcall (Sys.reaches_runActions before _) o with hs | ⟨_, hr⟩ | hl
    · exact .inl hs
    · rw [ha, Sys.runActions_append] at herr
      have he := returned_stays hr after
      exact absurd (herr.symm.trans he) nofun
    · exact .inr hl
  refine ⟨ht, fun hal => ?_⟩
  by_cases hl : ∃ before after, acts = before ++ .run t .lost :: after ∧ ∃ k,
      (((initial X config calls w).runActions gateway before).threads t).prog = .cmd .commit k
  · exact .inr hl
  · left
    -- along the run, by its prefixes
    have hp : ∀ before after, acts = before ++ after →
        ((initial X config calls w).runActions gateway before).world.db.control = w.db.control := by
      intro before
      induction before using List.reverseRecOn with
      | nil => exact fun _ _ => rfl
      | append_singleton before a ih =>
        intro after ha
        rw [append_assoc] at ha
        rw [Sys.runActions_append]
        refine Eq.trans ?_ (ih _ ha)
        rcases hal a (by simp [ha]) with ⟨o, rfl⟩ | ⟨_, rfl⟩
        · rcases ht before o after ha with hs | ⟨rfl, hc⟩
          · exact hs
          · exact absurd ⟨before, after, ha, hc⟩ hl
        · rfl
    exact hp acts [] (append_nil acts).symm

namespace AuditFails

def events : List Event := [snapshot "e" "g" [("g", [.finalizer]), ("p", [])] 1 ["g"]]

def start : State :=
  initial (wattswarm events) config (fun _ => publishOf events 0) world

def acts : List (Action Env) := steps 0 44 ++ [.run 0 .failed]

end AuditFails

set_option maxRecDepth 100000

open AuditFails in
theorem failed_publish_leaves_no_trace_audit :
    ((start.runActions gateway acts).threads 0).prog.error? = some "database error" ∧
      (start.runActions gateway acts).world.db.control = world.db.control ∧
      (start.runActions gateway (steps 0 46)).world.db.control ≠ world.db.control := by
  have hr : ((start.runActions gateway acts).threads 0).prog.error? = some "database error" := by
    decide
  refine ⟨hr, ?_, by decide⟩
  have he : ((start.runActions gateway acts).threads 0).prog = .fail "database error" :=
    error?_eq_some.1 hr
  unfold start at he ⊢
  have h := (failed_publish_leaves_no_trace (wattswarm events) config
    (fun _ => publishOf events 0) world acts 0 _ _ "database error" rfl he).2
  have hc : ∀ a ∈ acts, a = .run 0 .ok ∨ a = .run 0 .failed := by
    simp only [acts, steps, mem_append, mem_replicate, mem_singleton]
    rintro a (⟨-, rfl⟩ | rfl)
    · exact .inl rfl
    · exact .inr rfl
  rcases h (fun a ha => (hc a ha).elim (fun ha => .inl ⟨_, ha⟩) fun ha => .inl ⟨_, ha⟩) with
    h | ⟨before, after, heq, -⟩
  · exact h
  · have hm : Action.run 0 .lost ∈ acts := by
      rw [heq]
      exact mem_append_right _ (mem_cons_self ..)
    rcases hc _ hm with ha | ha <;> cases ha

end WattGateway.Message
