import WattGateway.Message.Quorum

/-!
# Snapshots in a run

The active Global membership of a network changes by the commit of a snapshot that passed the author
and quorum rule on the roles that were read, or by that of a grant (`activeMembership_step`). The
rule looks at nothing but the membership that is signed (`membership_comes_back`), reads the roles
before the fence is taken (`snapshot_authorized_at_commit`), and accepts genesis whatever was
committed before (`snapshot_signed_by_finalizers_iff`).
-/

namespace WattGateway.Message

open Hist Sample Db List Sys Table Select MembershipMutation

variable {membership : Membership} {scope : SwarmScope}

section

variable {X : Wattswarm} {config : Config} {calls : Nat → Call} {w : World}
  {cond : State → Action Env → Prop} {s : State}

/-! ## What the check read -/

lemma authorities_step (s : State) (a : Action Env) :
    (s.step gateway a).world.db.authorities = s.world.db.authorities := by
  rcases db_step s a with hd | ⟨_, _, -, ⟨_, _, -, -, hv⟩, -⟩ | ⟨_, _, _, -, _, -, hr⟩ | hd
  · rw [hd]
  · exact Tx.view_authorities hv
  · exact (Stmt.run_ok hr).2.2.2.1
  · rw [hd]

lemma authorities_of_reaches {s₀ : State} (hr : Reaches gateway cond s₀ s) :
    s.world.db.authorities = s₀.world.db.authorities := by
  induction hr with
  | refl => rfl
  | step _ _ _ ih => rw [authorities_step, ih]

variable {n : String}

lemma genesis_heard (hr : ReachableIf X config calls w cond s) {t : Nat} {genesis : Option String}
    (hx : (s.threads t).hist.Heard (.select (.genesisAuthority n)) genesis) :
    genesis = run 0 s.world.db (.genesisAuthority n) := by
  obtain ⟨_, _, _, -, -, h₂, -, rfl⟩ := select_asked hr hx
  unfold run
  rw [authorities_of_reaches h₂]

lemma Db.SameScope.finalizers {db db' : Db} (h : Db.SameScope n "global" db db') (p : String) :
    p ∈ db'.finalizers n ↔ p ∈ db.finalizers n := by
  rw [mem_finalizers, mem_finalizers, h.activeRoles]

/-! ## Checked against the state it replaces -/

/-- The step is not the commit of a mutation of the Global scope while another call that has read
its roles is still running. -/
def Unraced (X : Wattswarm) (calls : Nat → Call) (n : String) (s : State) (a : Action Env) : Prop :=
  ∀ t o m, a = .run t o → isCommit (s.threads t).prog = true →
    (calls t).Mutates X n "global" m → ∀ t', t' ≠ t → (s.threads t').prog.isDone = false →
      ∀ rows, ¬ (s.threads t').hist.Heard (.select (.globalRoles n)) rows

/-- The Finalizers that the running calls have read are those of the tables. -/
def RolesFresh (n : String) (s : State) : Prop :=
  ∀ t rows, (s.threads t).prog.isDone = false →
    (s.threads t).hist.Heard (.select (.globalRoles n)) rows →
    ∀ p, p ∈ finalizersOf rows ↔ p ∈ s.world.db.finalizers n

lemma RolesFresh.step (hX : X.LabelsGlobal) (hw : w.txs = .empty)
    (hr : ReachableIf X config calls w cond s) (hi : RolesFresh n s) (a : Action Env)
    (ha : Unraced X calls n s a) : RolesFresh n (s.step gateway a) := by
  intro t rows hu hx p
  have hu₀ := running_of_step hu
  rcases scope_step hX hw hr a n "global" with hs |
    ⟨t₀, o, _, m, _, _, rfl, ⟨_, -, hp₀, -, -⟩, hno, htx, -, -, hm, -, -⟩
  · rw [hs.finalizers p]
    rcases heard_step hx with hx | ⟨o, _, _, -, -, hb⟩
    · exact hi t rows hu₀ hx p
    · cases hb
      exact Iff.rfl
  · -- a commit of this scope: the committing call is done, and the others have read nothing
    have hc : isCommit (s.threads t₀).prog = true := by rw [hp₀]; rfl
    by_cases ht : t = t₀
    · subst ht
      rw [done_of_commit hX hw hr hc htx hno] at hu
      cases hu
    · rw [step_other ht] at hx
      exact absurd hx (ha t₀ o m rfl hc hm t ht hu₀ rows)

lemma rolesFresh_of_reaches (hX : X.LabelsGlobal) (hw : w.txs = .empty)
    (hr : ReachableIf X config calls w (Unraced X calls n) s) : RolesFresh n s := by
  refine hr.invariant ?_ fun s a hs ha hi => hi.step hX hw hs a ha
  intro _ _ _ hx
  exact absurd hx (not_heard_nil _ _)

/-- In every run in which no mutation of the Global scope commits while another call that has read
its roles is still running, a snapshot at its commit satisfies the author and quorum rule on the
tables it is about to change. -/
theorem snapshot_authorized_at_commit {n v : String} {scope : SwarmScope} {membership : Membership}
    {threshold : Nat} {signatures : List SignatureEnvelope}
    (hX : X.scopeLabel .global = some "global") (hw : w.txs = .empty)
    (hr : ReachableIf X config calls w (Unraced X calls n) s) {t : Nat} {db' : Db}
    (hc : AtCommit s t db') {session : VerifiedSession} {frame : PublishFrame}
    (hcall : calls t = .publish session frame)
    (hm : (calls t).Mutates X n "global" (.snapshot scope membership threshold signatures v)) :
    s.world.db.authorizes X n session.principalId membership threshold signatures = .ok () := by
  obtain ⟨-, -, -, -, -, -, -, -, hh⟩ := hc.mutatedScope hX hw hr hcall hm
  obtain ⟨-, _, _, hcall', rfl⟩ := hm.snapshot
  rw [hcall] at hcall'
  cases hcall'
  obtain ⟨_, rows, hg, ho, hok⟩ := hh
  rw [genesis_heard hr hg] at hok
  have hu : (s.threads t).prog.isDone = false := by
    obtain ⟨_, -, hp, -, -⟩ := hc
    rw [hp]
    rfl
  exact snapshotAuthority_congr (rolesFresh_of_reaches hX hw hr t rows hu ho) hok

/-! ## Who signed -/

variable {signatures : List SignatureEnvelope} {threshold : Nat}

/-- A snapshot at its commit satisfied the rule on the tables as they were when its call read the
roles. -/
lemma snapshot_checked {v : String}
    (hX : X.LabelsGlobal) (hw : w.txs = .empty)
    (hr : ReachableIf X config calls w cond s) {t : Nat} {db' : Db} (hc : AtCommit s t db')
    {session : VerifiedSession} {frame : PublishFrame} (ha : calls t = .publish session frame)
    (hm : (calls t).Mutates X n "global" (.snapshot scope membership threshold signatures v)) :
    ∃ s' k, ReachableIf X config calls w cond s' ∧ Reaches gateway cond s' s ∧
      (s'.threads t).prog = .ask (.select (.globalRoles n)) k ∧
      s'.world.db.authorizes X n session.principalId membership threshold signatures = .ok () := by
  obtain ⟨-, -, -, -, -, -, -, -, hh⟩ := hc.mutatedScope hX hw hr ha hm
  obtain ⟨-, _, _, ha', rfl⟩ := hm.snapshot
  rw [ha] at ha'
  cases ha'
  obtain ⟨_, _, hg, ho, hok⟩ := hh
  rw [genesis_heard hr hg] at hok
  obtain ⟨s', _, k, h₁, -, h₂, hp, rfl⟩ := select_asked hr ho
  refine ⟨s', k, h₁, h₂, hp, ?_⟩
  unfold run at hok
  rw [authorities_of_reaches h₂] at hok
  exact hok

/-- In every run, whatever was committed before, a snapshot at its commit is signed by as many
distinct Finalizers as its threshold says, exactly if its author is not genesis or a Finalizer is
among its signers. The Finalizers are those of the tables when its call read the roles. -/
theorem snapshot_signed_by_finalizers_iff {n v : String} {scope : SwarmScope}
    {membership : Membership} {threshold : Nat} {signatures : List SignatureEnvelope}
    (hX : X.scopeLabel .global = some "global") (hw : w.txs = .empty)
    (hr : Reachable X config calls w s) {t : Nat} {db' : Db} (hc : AtCommit s t db')
    {session : VerifiedSession} {frame : PublishFrame} (hcall : calls t = .publish session frame)
    (hm : (calls t).Mutates X n "global" (.snapshot scope membership threshold signatures v)) :
    ∃ s' k, Reachable X config calls w s' ∧ Reaches gateway anyStep s' s ∧
      (s'.threads t).prog = .ask (.select (.globalRoles n)) k ∧
      (QuorumSigned X membership signatures (s'.world.db.finalizers n) threshold ↔
        run 0 s'.world.db (.genesisAuthority n) ≠ some session.principalId ∨
          ∃ p ∈ s'.world.db.finalizers n, SignedBy X membership signatures p) := by
  obtain ⟨s', k, h₁, h₂, hp, hok⟩ := snapshot_checked hX hw hr hc hcall hm
  refine ⟨s', k, h₁, h₂, hp, ?_⟩
  obtain ⟨_, _, hg, ha, _, hs⟩ := quorumSigned_of_ok hok
  rw [hg]
  rcases allowedSigners_eq_ok.1 ha with ⟨he, rfl⟩ | ⟨hne, -, rfl⟩
  · -- genesis: its signature is the only one counted, so the threshold is one
    have ho : threshold = 1 := by
      have hle := hs.le_one
      omega
    rw [ho, quorumSigned_one, he, or_iff_right fun h => h rfl]
  · exact iff_of_true hs (Or.inl fun h => hne (Option.some.inj h).symm)

/-! ## Memberships that come back -/

def Db.ActiveMembership (db : Db) (n : String) (membership : Membership) : Prop :=
  ∀ p, db.activeRoles n "global" p = membership.get? p

lemma activeMembership_of_snapshot {l v : String}
    {existing routes : List String} {db db' : Db}
    (hm : Mutated n l (.snapshot scope membership threshold signatures v)
      ((snapshot scope membership threshold signatures v).desired existing)
      routes db db') (p : String) : db'.activeRoles n l p = membership.get? p := by
  rw [hm.activeRoles p]
  unfold desired roles
  cases hp : membership.get? p with
  | none => rw [if_neg (get?_eq_none.1 hp)]
  | some =>
    rw [if_pos (mem_map_of_mem (get?_eq_some.1 hp))]
    exact congrArg (fun x => some (x.getD [])) hp

/-- The author may write the snapshot and enough of those who may sign it signed it. -/
def Db.Endorses (X : Wattswarm) (db : Db) (n author : String) (membership : Membership)
    (threshold : Nat) (signatures : List SignatureEnvelope) : Prop :=
  0 < threshold ∧ ∃ g, run 0 db (.genesisAuthority n) = some g ∧
    ((author = g ∧ QuorumSigned X membership signatures [g] threshold) ∨
      (author ≠ g ∧ author ∈ db.finalizers n ∧
        QuorumSigned X membership signatures (db.finalizers n) threshold))

lemma endorses_of_authorizes {db : Db} {author : String}
    (h : db.authorizes X n author membership threshold signatures = .ok ()) :
    db.Endorses X n author membership threshold signatures := by
  obtain ⟨g, _, hg, ha, hp, hs⟩ := quorumSigned_of_ok h
  refine ⟨hp, g, hg, ?_⟩
  rcases allowedSigners_eq_ok.1 ha with ⟨he, rfl⟩ | ⟨hne, hf, rfl⟩
  · exact .inl ⟨he, hs⟩
  · exact .inr ⟨hne, hf, hs⟩

/-- The call whose commit brings membership `A` back in `s`: a snapshot that carries it, endorsed
when its call read the roles, or a grant, and then `A` gives nobody a role. -/
def CarriesBack (X : Wattswarm) (config : Config) (calls : Nat → Call) (w : World) (n : String)
    (A : Membership) (s : State) (t : Nat) : Prop :=
  (∃ session frame scope membership threshold signatures v s' k,
      calls t = .publish session frame ∧
      (calls t).Mutates X n "global" (.snapshot scope membership threshold signatures v) ∧
      (∀ p, membership.get? p = A.get? p) ∧
      Reachable X config calls w s' ∧ Reaches gateway anyStep s' s ∧
      (s'.threads t).prog = .ask (.select (.globalRoles n)) k ∧
      s'.world.db.Endorses X n session.principalId membership threshold signatures) ∨
    (∃ grant, calls t = .admitGrant grant ∧ grant.networkId = n ∧
      ∀ p roles, A.get? p = some roles → roles = [])

lemma activeMembership_step (hX : ∀ scope, X.scopeLabel scope = some "global" ↔ scope = .global)
    (hw : w.txs = .empty) (hr : Reachable X config calls w s) {a : Action Env}
    {A : Membership} (ho : ¬ s.world.db.ActiveMembership n A)
    (hin : (s.step gateway a).world.db.ActiveMembership n A) :
    ∃ t, AtCommit s t (s.step gateway a).world.db ∧ CarriesBack X config calls w n A s t := by
  have hX₀ := (hX .global).2 rfl
  rcases scope_step hX₀ hw hr a n "global" with hs |
    ⟨t, _, _, m, _, _, -, hc, -, -, -, -, hm, -, hu⟩
  · exact absurd (fun p => by rw [← hs.activeRoles p]; exact hin p) ho
  · refine ⟨t, hc, ?_⟩
    cases m with
    | snapshot scope membership threshold signatures v =>
      obtain ⟨-, session, frame, ha, -⟩ := hm.snapshot
      obtain ⟨s', k, h₁, h₂, hp, hok⟩ := snapshot_checked hX₀ hw hr hc ha hm
      refine .inl ⟨session, frame, scope, membership, threshold, signatures, v, s', k, ha, hm,
        fun p => ?_, h₁, h₂, hp, endorses_of_authorizes hok⟩
      rw [← activeMembership_of_snapshot hu p, hin p]
    | principal scope =>
      cases ha : calls t with
      | admitGrant grant =>
        rw [ha] at hm
        refine .inr ⟨grant, ha, hm.1, fun p roles hp => ?_⟩
        rw [← hin p, hu.activeRoles p] at hp
        split at hp
        · exact (Option.some.inj hp).symm
        · cases hp
      | publish =>
        -- a publish changes one member of a group or a region, never of the Global scope
        rw [ha] at hm
        obtain ⟨-, _, hv, hvm, hl⟩ := hm
        rcases (validateRecordFrame_mutation hv hvm).2 with ⟨_, _, _, he⟩ | ⟨_, _, he, hne, -⟩
        · cases he
        · cases he
          exact absurd ((hX _).1 hl) hne
      | challenge | control =>
        rw [ha] at hm
        exact hm.elim

/-- After the commit of a snapshot with membership `B`, a different membership `A` is active in a
later state only if in between a snapshot that carries `A` was committed, whose author was genesis
or a Finalizer and which was signed by enough of those who may sign it when its call read the
roles, or, if `A` gives nobody a role, a grant. When the signatures were made plays no part. -/
theorem membership_comes_back
    (hX : ∀ scope, X.scopeLabel scope = some "global" ↔ scope = .global) (hw : w.txs = .empty)
    (hr : Reachable X config calls w s) {t₀ : Nat} {o : Outcome}
    (hc : AtCommit s t₀ (s.step gateway (.run t₀ o)).world.db) {n v₀ : String}
    {scope₀ : SwarmScope} {A B : Membership} {threshold₀ : Nat}
    {signatures₀ : List SignatureEnvelope}
    (hm : (calls t₀).Mutates X n "global" (.snapshot scope₀ B threshold₀ signatures₀ v₀))
    (hAB : ∃ p, A.get? p ≠ B.get? p) {s₂ : State}
    (hlater : Reaches gateway anyStep (s.step gateway (.run t₀ o)) s₂)
    (hA : s₂.world.db.ActiveMembership n A) :
    ∃ s' a t, Reaches gateway anyStep (s.step gateway (.run t₀ o)) s' ∧
      Reaches gateway anyStep (s'.step gateway a) s₂ ∧
      AtCommit s' t (s'.step gateway a).world.db ∧ CarriesBack X config calls w n A s' t := by
  have hX₀ := (hX .global).2 rfl
  obtain ⟨-, _, _, ha, -⟩ := hm.snapshot
  obtain ⟨-, _, _, -, -, -, -, hu, -⟩ := hc.mutatedScope hX₀ hw hr ha hm
  have hr₁ : Reachable X config calls w (s.step gateway (.run t₀ o)) := .step _ hr trivial
  induction hlater with
  | refl =>
    obtain ⟨p, hp⟩ := hAB
    exact absurd ((hA p).symm.trans (activeMembership_of_snapshot hu p)) hp
  | @step s' a hs' _ ih =>
    by_cases hb : s'.world.db.ActiveMembership n A
    · obtain ⟨s'', a', t, h₁, h₂, he⟩ := ih hb
      exact ⟨s'', a', t, h₁, h₂.step a trivial, he⟩
    · obtain ⟨t, ho, hh⟩ := activeMembership_step hX hw (hr₁.trans hs') hb hA
      exact ⟨s', a, t, hs', .refl, ho, hh⟩

end

/-! ## Concrete runs -/

lemma activeMembership_of_rows {db : Db} {n : String}
    (h : run 0 db (.globalRoles n) = membership.rows) : db.ActiveMembership n membership := by
  intro _
  ext roles
  rw [← mem_globalRoles, h]
  exact get?_eq_some.symm

lemma handover_unraced (k : Nat) :
    ReachableIf (wattswarm takeover) config (publishOf takeover) world
      (Unraced (wattswarm takeover) (publishOf takeover) "n")
      (takeoverRun (steps 0 k)) := by
  refine (reaches_alone k _ fun j _ hs t o m ha _ _ t' ht _ rows hx => ?_).1
  cases ha
  rw [hs t' ht] at hx
  exact not_heard_nil _ _ hx

lemma handover_mutates : (publishOf takeover 0).Mutates (wattswarm takeover) "n"
    "global" (.snapshot .global
      (Table.ofList [("g", []), ("f", [.finalizer]), ("h", [.finalizer])]) 1
      [⟨"g", signatureOf "g"⟩] "handover") :=
  ⟨rfl, _, rfl, rfl, rfl⟩

set_option maxRecDepth 100000

theorem snapshot_authorized_at_commit_handover :
    (takeoverRun (steps 0 58)).world.db.authorizes (wattswarm takeover) "n" "g"
      (Table.ofList [("g", []), ("f", [.finalizer]), ("h", [.finalizer])]) 1
      [⟨"g", signatureOf "g"⟩] = .ok () := by
  have ho : AtCommit (takeoverRun (steps 0 58)) 0
      ((takeoverRun (steps 0 58)).step gateway (.run 0 .ok)).world.db :=
    atCommit_of_isCommit (by decide)
  have hc : publishOf takeover 0 = .publish ⟨"n", "g"⟩ _ := rfl
  -- without the expected type, so that the author is read off the call
  have h := snapshot_authorized_at_commit rfl rfl (handover_unraced 58) ho hc
    handover_mutates
  exact h

/-- After the handover, `"f"` takes the role of `"h"` away while a snapshot of `"h"` is checked but
not committed. -/
def race : List Event :=
  [snapshot "handover" "g" [("g", []), ("f", [.finalizer]), ("h", [.finalizer])] 1 ["g"],
    snapshot "demotion" "f" [("f", [.finalizer]), ("h", [])] 1 ["f"],
    snapshot "late" "h" [("h", [.finalizer])] 1 ["h"]]

def raced : State :=
  (initial (wattswarm race) config (publishOf race) world).runActions
    gateway (steps 0 59 ++ steps 2 2 ++ steps 1 42 ++ steps 2 30)

/-- It commits and returns an acceptance, though `"h"` is no Finalizer in the state before. -/
theorem stale_snapshot_commits : isCommit (raced.threads 2).prog = true ∧
      ((raced.step gateway (.run 2 .ok)).threads 2).prog.result? =
        some (.publish ⟨.fresh, "late", .interactive, 1, "late"⟩) ∧
      raced.world.db.finalizers "n" = ["f"] ∧
      (raced.step gateway (.run 2 .ok)).world.db.finalizers "n" = ["h"] ∧
      (raced.world.db.authorizes (wattswarm race) "n" "h"
        (Table.ofList [("h", [.finalizer])]) 1 [⟨"h", signatureOf "h"⟩]).isOk = false := by
  decide

def secondGenesis : List Event :=
  [snapshot "handover" "g" [("g", []), ("f", [.finalizer])] 1 ["g"],
    snapshot "again" "g" [("g", [.finalizer])] 1 ["g"]]

def secondGenesisCommit : State :=
  (initial (wattswarm secondGenesis) config (publishOf secondGenesis)
    world).runActions gateway (steps 0 46 ++ steps 1 32)

theorem snapshot_signed_by_finalizers_iff_again : ∃ s' k, Reachable (wattswarm secondGenesis) config
        (publishOf secondGenesis) world s' ∧ Reaches gateway anyStep s' secondGenesisCommit ∧
      (s'.threads 1).prog = .ask (.select (.globalRoles "n")) k ∧
      (QuorumSigned (wattswarm secondGenesis) (Table.ofList [("g", [.finalizer])])
          [⟨"g", signatureOf "g"⟩] (s'.world.db.finalizers "n") 1 ↔
        run 0 s'.world.db (.genesisAuthority "n") ≠ some "g" ∨
          ∃ p ∈ s'.world.db.finalizers "n", SignedBy (wattswarm secondGenesis)
            (Table.ofList [("g", [.finalizer])]) [⟨"g", signatureOf "g"⟩] p) :=
  snapshot_signed_by_finalizers_iff (w := world) (t := 1) rfl rfl
    (reaches_runActions _ _)
    (atCommit_of_isCommit (o := .ok) (by decide))
    (show publishOf secondGenesis 1 = .publish _ _ from rfl) ⟨rfl, _, rfl, rfl, rfl⟩

/-- It commits on the signature of genesis alone, though `"f"` is the only Finalizer since the
first one was committed. -/
theorem genesis_alone_commits_again : isCommit (secondGenesisCommit.threads 1).prog = true ∧
      ((secondGenesisCommit.step gateway (.run 1 .ok)).threads 1).prog.result? =
        some (.publish ⟨.fresh, "again", .interactive, 1, "again"⟩) ∧
      (secondGenesisCommit.threads 0).prog.result? =
        some (.publish ⟨.fresh, "handover", .interactive, 1, "handover"⟩) ∧
      secondGenesisCommit.world.db.finalizers "n" = ["f"] ∧
      ¬ QuorumSigned (wattswarm secondGenesis) (Table.ofList [("g", [.finalizer])])
        [⟨"g", signatureOf "g"⟩] ["f"] 1 := by
  rw [← and_assoc, ← and_assoc, ← and_assoc]
  refine ⟨by decide, ?_⟩
  rw [quorumSigned_one]
  rintro ⟨_, hp, _, hs, rfl, -⟩
  rw [mem_singleton.1 hs] at hp
  exact absurd hp (by decide)

def pair : List (String × List Role) := [("f", [.finalizer]), ("h", [.finalizer])]

/-- After the handover the two Finalizers sign a membership of their own, then one with `"p"`, and
then `"f"` writes a new event with the first membership and its old signatures. -/
def rollback : List Event :=
  [snapshot "handover" "g" [("g", []), ("f", [.finalizer]), ("h", [.finalizer])] 1 ["g"],
    snapshot "first" "f" pair 2 ["f", "h"],
    snapshot "second" "f" (pair ++ [("p", [])]) 2 ["f", "h"],
    snapshot "replay" "f" pair 2 ["f", "h"]]

def beforeSecond : State :=
  (initial (wattswarm rollback) config (publishOf rollback)
    world).runActions gateway (steps 0 59 ++ steps 1 42 ++ steps 2 54)

def afterReplay : State :=
  (beforeSecond.step gateway (.run 2 .ok)).runActions gateway (steps 3 42)

lemma second_mutates : (publishOf rollback 2).Mutates (wattswarm rollback) "n"
    "global" (.snapshot .global (Table.ofList (pair ++ [("p", [])])) 2
      [⟨"f", signatureOf "f"⟩, ⟨"h", signatureOf "h"⟩] "second") :=
  ⟨rfl, _, rfl, rfl, rfl⟩

theorem membership_comes_back_replay :
    ∃ s' a t, Reaches gateway anyStep (beforeSecond.step gateway (.run 2 .ok)) s' ∧
      Reaches gateway anyStep (s'.step gateway a) afterReplay ∧
      AtCommit s' t (s'.step gateway a).world.db ∧
      CarriesBack (wattswarm rollback) config (publishOf rollback) world "n" (Table.ofList pair)
        s' t :=
  membership_comes_back (w := world) (label_global rollback) rfl
    (reaches_runActions _ _) (atCommit_of_isCommit (by decide))
    second_mutates ⟨"p", by decide⟩ (reaches_runActions _ _)
    (activeMembership_of_rows (by decide))

/-- The last publish carries the envelopes of the first, is accepted, and brings its membership
back. -/
theorem old_signatures_roll_back :
    (rollback.map Event.payload)[3]? = (rollback.map Event.payload)[1]? ∧
      run 0 beforeSecond.world.db (.globalRoles "n") = pair ∧
      run 0 (beforeSecond.step gateway (.run 2 .ok)).world.db (.globalRoles "n") =
        pair ++ [("p", [])] ∧
      (afterReplay.threads 3).prog.result? =
        some (.publish ⟨.fresh, "replay", .interactive, 1, "replay"⟩) ∧
      run 0 afterReplay.world.db (.globalRoles "n") = pair := by
  refine ⟨rfl, ?_⟩
  decide

end WattGateway.Message
