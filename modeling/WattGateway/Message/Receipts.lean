import WattGateway.Message.Fences

/-!
# Receipts in a run

A stored receipt stays until it expires, whatever the calls do (`receipt_step`, `receipt_kept`).
`send_control` stores its receipt without a `record_hash`, which a table created from empty refuses:
after the broker's confirm it never returns (`control_never_returns`).
-/

namespace WattGateway.Message

open Hist List Sample Stmt

variable {m : MembershipMutation} {tx : Tx} {db : Db} {row : ReceiptRow}

/-! ## One receipt, statement by statement -/

def Stmt.onReceipt (key : String × String × String) (now : Nat) (old : Option ReceiptRow) :
    Stmt → Option ReceiptRow
  | .insertReceipt n p rid row => if key = (n, p, rid) then some (nextReceipt now row old) else old
  | .insertControlReceipt n p cid routeHash policy bindingHash expires =>
    if key = (n, p, cid) then
      some (old.getD ⟨routeHash, none, none, .interactive, policy, 1, bindingHash, expires⟩)
    else old
  | _ => old

variable {db' : Db} {st : Stmt}

lemma Stmt.run_receipt {now : Nat} (h : st.run now db = .ok db') (key : String × String × String) :
    db'.receipts.get? key = st.onReceipt key now (db.receipts.get? key) := by
  cases st with
  | insertReceipt n p rid =>
    obtain ⟨u, -, h⟩ := bind_eq_ok.1 h
    cases h
    by_cases hk : key = (n, p, rid) <;> simp [Stmt.onReceipt, hk]
  | insertControlReceipt n p cid =>
    obtain ⟨_, h⟩ := rest_ok h
    cases h
    by_cases hk : key = (n, p, cid) <;> simp [Stmt.onReceipt, hk]
  | insertBinding =>
    simp only [Stmt.run] at h
    split at h
    · cases h
      rfl
    · cases h
  | _ => cases h; rfl

lemma Tx.view_receipt (h : tx.view db = .ok db')
    (key : String × String × String) : db'.receipts.get? key =
      tx.writes.foldl (fun old w => w.2.onReceipt key w.1 old) (db.receipts.get? key) :=
  foldlM_component (π := fun db => db.receipts.get? key)
    (fun _ _ _ hu => run_receipt hu key) h

variable {n l : String}

lemma onReceipt_of_mutation {desired routes : List String}
    (hs : st ∈ mutationStmts n l m desired routes) (key : String × String × String) (now : Nat)
    (old : Option ReceiptRow) : st.onReceipt key now old = old := by
  rcases mem_mutationStmts hs with rfl | ⟨_, rfl⟩ | rfl | ⟨_, _, _, rfl⟩ | rfl <;> rfl

variable {h : Hist Cmd Query Ans}

variable {ws : List (Nat × Stmt)}

lemma Applied.onReceipt {X : Wattswarm} {additional : Option String}
    (ha : Applied X n l m additional h ws) (key : String × String × String)
    (old : Option ReceiptRow) : ws.foldl (fun old w => w.2.onReceipt key w.1 old) old = old := by
  obtain ⟨_, _, _, _, _, -, rfl, hc, -, -⟩ := ha
  refine foldl_fixed (fun w hw x => ?_) old
  rcases mem_cons.1 hw with rfl | hw
  · rfl
  · exact onReceipt_of_mutation (hc ▸ mem_map_of_mem hw) key w.1 x

lemma mem_of_txOf (ht : txOf h = some tx) {τ : Nat} (hw : (τ, st) ∈ tx.writes) :
    (τ, .did (.stmt st)) ∈ h := by
  induction h generalizing tx with
  | nil => cases ht
  | cons e _ ih =>
    obtain ⟨_, c | ⟨_, _⟩⟩ := e
    · cases c with
      | begin =>
        cases ht
        cases hw
      | stmt =>
        rw [txOf_stmt, Option.map_eq_some_iff] at ht
        obtain ⟨_, ht', rfl⟩ := ht
        rcases mem_append.1 hw with hw | hw
        · exact mem_cons_of_mem _ (ih ht' hw)
        · cases mem_singleton.1 hw
          exact mem_cons_self
      | commit => cases ht
      | _ => exact mem_cons_of_mem _ (ih ht hw)
    · exact mem_cons_of_mem _ (ih ht hw)

/-! ## What a history says -/

def isPublish : Entry Cmd Query Ans → Bool
  | .did (.basicPublish _ _ _) => true
  | _ => false

def Confirmed (h : Hist Cmd Query Ans) : Prop := ∃ ex key m, h.Did (.basicPublish ex key m)

lemma confirmed_iff : Confirmed h ↔ (h.any fun e => isPublish e.2) = true := by
  rw [any_eq_true]
  constructor
  · rintro ⟨_, _, _, τ, hm⟩
    exact ⟨_, hm, rfl⟩
  · rintro ⟨⟨τ, _⟩, hm, he⟩
    unfold isPublish at he
    split at he
    · rename_i heq
      subst heq
      exact ⟨_, _, _, τ, hm⟩
    · cases he

instance (h : Hist Cmd Query Ans) : Decidable (Confirmed h) := decidable_of_iff _ confirmed_iff.symm

section Runs

variable {X : Wattswarm} {config : Config} {calls : Nat → Call} {w : World}
  {cond : State → Action Env → Prop} {s : State}

/-! ## Receipts of publishes -/

def Call.Publishes (call : Call) (n p rid : String) : Prop :=
  ∃ session frame, call = .publish session frame ∧ session.networkId = n ∧
    session.principalId = p ∧ frame.recordId = rid

/-- The principal sends no control frames on the network. -/
def OnlyPublishes (calls : Nat → Call) (n p : String) : Prop :=
  ∀ t session frame, calls t = .control session frame →
    ¬ (session.networkId = n ∧ session.principalId = p)

/-- The statements of a publish at its commit, on one receipt. -/
lemma PublishReady.onReceipt {session : VerifiedSession} {frame : PublishFrame}
    {vf : ValidatedFrame} {τ : Nat}
    (he : PublishReady X session frame h vf l ws τ row) (ht : txOf h = some tx)
    (key : String × String × String) (old : Option ReceiptRow) :
    tx.writes.foldl (fun old w => w.2.onReceipt key w.1 old) old =
      if key = (session.networkId, session.principalId, frame.recordId) then
        some (nextReceipt τ row old)
      else old := by
  obtain ⟨_, _, ht'⟩ := he.tx
  rw [ht, Option.some.injEq] at ht'
  subst ht'
  have hs : ws.foldl (fun old w => w.2.onReceipt key w.1 old) old = old := by
    cases hm : vf.membershipMutation with
    | none => rw [he.unmutated hm]; rfl
    | some m => exact (he.mutated m hm).onReceipt key old
  rw [foldl_append, hs]
  rfl

variable {p rid : String}

section

variable (hX : X.LabelsGlobal) (hw : w.txs = .empty)
  (hr : ReachableIf X config calls w cond s)
include hX hw hr

lemma AtCommit.stores {t : Nat} (hc : AtCommit s t db') (ht : (calls t).Publishes n p rid) :
    ∃ row τ, (τ, .did (.stmt (.insertReceipt n p rid row))) ∈ (s.threads t).hist ∧
      (s.threads t).hist.Heard (.select (.confirmedReceipt n p rid)) none ∧
      db'.receipts.get? (n, p, rid) =
        some (nextReceipt τ row (s.world.db.receipts.get? (n, p, rid))) := by
  obtain ⟨_, _, ha, rfl, rfl, rfl⟩ := ht
  obtain ⟨hok, -⟩ := hc.effect hX hw hr
  obtain ⟨_, hx, -, hv⟩ := hc.txOf (txInv_of_reaches hw hr)
  rw [ha] at hok
  obtain ⟨_, _, _, τ, row, he⟩ := hok
  refine ⟨row, τ, ?_, he.looked, ?_⟩
  · obtain ⟨_, _, hx'⟩ := he.tx
    exact mem_of_txOf hx' (by simp)
  · rw [Tx.view_receipt hv, he.onReceipt hx, if_pos rfl]

lemma AtCommit.receipt_of_not {t : Nat} (hc : AtCommit s t db')
    (ht : ¬ (calls t).Publishes n p rid) :
    db'.receipts.get? (n, p, rid) = s.world.db.receipts.get? (n, p, rid) := by
  obtain ⟨hok, -⟩ := hc.effect hX hw hr
  obtain ⟨_, hx, -, hv⟩ := hc.txOf (txInv_of_reaches hw hr)
  rw [Tx.view_receipt hv]
  cases ha : calls t with
  | publish session frame =>
    rw [ha] at hok
    obtain ⟨_, _, ws, τ, _, he⟩ := hok
    rw [he.onReceipt hx, if_neg]
    intro hk
    cases hk
    exact ht ⟨session, frame, ha, rfl, rfl, rfl⟩
  | admitGrant =>
    rw [ha] at hok
    obtain ⟨_, found, _, he⟩ := hok
    obtain ⟨_, hx'⟩ := he.tx
    rw [hx, Option.some.injEq] at hx'
    subst hx'
    rw [foldl_cons]
    by_cases hf : found = none
    · exact (he.mutated hf).onReceipt _ _
    · rw [he.early hf]
      rfl
  | challenge | control => rw [ha] at hok; exact hok.elim

/-- What a step can do to the receipt of a publish: nothing, delete it once it has expired, or
store one with a commit. -/
lemma receipt_step (a : Action Env) (hp : OnlyPublishes calls n p) (rid : String) :
    (s.step gateway a).world.db.receipts.get? (n, p, rid) = s.world.db.receipts.get? (n, p, rid) ∨
    (s.step gateway a).world.db.receipts.get? (n, p, rid) =
      (s.world.db.receipts.get? (n, p, rid)).filter (fun r => s.world.now < r.expiresAt) ∨
    ∃ t o tx, a = .run t o ∧ AtCommit s t (s.step gateway a).world.db ∧
      s.world.txs.get? t = some tx ∧ (s.step gateway a).world.txs.get? t = none ∧
      (calls t).Publishes n p rid := by
  rcases db_step s a with hd | ⟨t, o, ha, hc, hno⟩ | ⟨t, o, st, ha, hc⟩ | hd
  · exact .inl (by rw [hd])
  · by_cases ht : (calls t).Publishes n p rid
    · obtain ⟨tx, -, hx, -⟩ := hc.txOf (txInv_of_reaches hw hr)
      exact .inr (Or.inr ⟨t, o, tx, ha, hc, hx, hno, ht⟩)
    · exact .inl (hc.receipt_of_not hX hw hr ht)
  · have hok := hc.ok hX hr
    obtain ⟨_, -, hu⟩ := hc
    left
    rw [run_receipt hu]
    cases st with
    | insertControlReceipt =>
      obtain ⟨session, frame, hca, rfl, rfl⟩ := hok
      refine if_neg fun hk => ?_
      cases hk
      exact hp t session frame hca ⟨rfl, rfl⟩
    | insertBinding => rfl
    | deleteRouteBindings => rfl
    | activateBindings => rfl
    | _ => exact hok.elim
  · right
    left
    rw [hd, Table.get?_delete]
    congr 1
    funext r
    rw [← decide_not]
    exact decide_eq_decide.2 Nat.not_le

end

lemma hist_times (hr : ReachableIf X config calls w cond s) (t : Nat) :
    ∀ e ∈ (s.threads t).hist, e.1 ≤ s.world.now := by
  induction hr with
  | refl => simp [initial]
  | @step s a _ _ ih =>
    have hn := now_le_step s a
    intro e he
    rcases Sys.step_thread gateway s a t with hs | ⟨_, _, _, _, _, -, -, -, -, hh⟩ |
      ⟨_, _, _, _, _, -, -, -, -, hh⟩ | ⟨_, _, -, -, -, hh⟩
    · rw [hs] at he
      exact Nat.le_trans (ih e he) hn
    · rw [hh] at he
      rcases mem_cons.1 he with rfl | he
      · exact hn
      · exact Nat.le_trans (ih e he) hn
    · rw [hh] at he
      rcases mem_cons.1 he with rfl | he
      · exact hn
      · exact Nat.le_trans (ih e he) hn
    · rw [hh] at he
      exact Nat.le_trans (ih e he) hn

lemma receipt_kept (hX : X.LabelsGlobal) (hw : w.txs = .empty)
    (hr : ReachableIf X config calls w cond s) (a : Action Env) (hp : OnlyPublishes calls n p)
    (h : row.expiresAt ≤ s.world.now ∨ s.world.db.receipts.get? (n, p, rid) = some row) :
    row.expiresAt ≤ (s.step gateway a).world.now ∨
      (s.step gateway a).world.db.receipts.get? (n, p, rid) = some row := by
  have hn := now_le_step s a
  by_cases he : row.expiresAt ≤ s.world.now
  · exact .inl (Nat.le_trans he hn)
  have ho := h.resolve_left he
  rcases receipt_step hX hw hr a hp rid with hs | hs | ⟨t, _, _, -, hc, -, -, ht⟩
  · exact .inr (hs.trans ho)
  · right
    rw [hs, ho]
    exact Option.filter_eq_some_iff.2 ⟨rfl, by simpa using he⟩
  · obtain ⟨_, τ, hm, -, hs⟩ := hc.stores hX hw hr ht
    have hτ : τ ≤ s.world.now := hist_times hr t _ hm
    right
    rw [hs, ho, nextReceipt, if_neg]
    omega

/-! ## Receipts of control frames -/

lemma receiptColumns_step (s : State) (a : Action Env) :
    (s.step gateway a).world.db.receiptColumns = s.world.db.receiptColumns := by
  rcases db_step s a with hd | ⟨_, _, -, ⟨_, _, -, -, hv⟩, -⟩ | ⟨_, _, _, -, _, -, hu⟩ | hd
  · rw [hd]
  · exact Tx.view_receiptColumns hv
  · exact (run_ok hu).2.2.2.2
  · rw [hd]

lemma receiptColumns_of_reaches (hr : ReachableIf X config calls w cond s) :
    s.world.db.receiptColumns = w.db.receiptColumns := by
  induction hr with
  | refl => rfl
  | step _ _ _ ih => rw [receiptColumns_step, ih]

variable {routeHash bindingHash : Digest} {cid : String}

/-- A table created from empty refuses every control receipt. -/
lemma controlReceipt_refused (ho : db.receiptColumns = initSchema none) {now policy expires : Nat} :
    (Stmt.insertControlReceipt n p cid routeHash policy bindingHash expires).run now db ≠
      .ok db' := by
  intro h
  obtain ⟨_, hc, -⟩ := bind_eq_ok.1 h
  rw [ho, checkInsert_control] at hc
  cases hc

lemma no_control_receipt (hc : w.db.receiptColumns = initSchema none)
    (hr : ReachableIf X config calls w cond s) (t : Nat) {policy expires : Nat} :
    ¬ (s.threads t).hist.Did
      (.exec (.insertControlReceipt n p cid routeHash policy bindingHash expires)) := by
  induction hr with
  | refl => simp [initial]
  | @step s a hs _ ih =>
    rintro ⟨τ, hd⟩
    rcases did_step hd with hd | ⟨_, _, _, -, -, -, ⟨_, hu, -⟩, -⟩
    · exact ih ⟨τ, hd⟩
    · exact controlReceipt_refused ((receiptColumns_of_reaches hs).trans hc) hu

/-- On tables created from empty, in every run, a `send_control` whose record the broker has
confirmed never returns an acceptance. -/
theorem control_never_returns (hX : X.scopeLabel .global = some "global")
    (hcols : w.db.receiptColumns = initSchema none) (hr : Reachable X config calls w s) {t : Nat}
    (hsent : Confirmed (s.threads t).hist) (r : ControlAcceptance) :
    (s.threads t).prog ≠ .ret (.control r) := by
  intro he
  obtain ⟨ex, key, m, hsent⟩ := hsent
  have hf := follows_of_reaches hX hr t
  rw [he] at hf
  rcases hf.2 with hn | ⟨_, _, _, _, _, _, _, hd⟩
  · exact hn ex key m hsent
  · exact no_control_receipt hcols hr t hd

end Runs

/-! ## Concrete control frames -/

def repeatedControl : Nat → Call := fun _ =>
  .control ⟨"n", "g"⟩ ⟨"1", "n", "g", "g", "c", "ping", [], signatureOf "g"⟩

def repeatedControlRun (acts : List (Action Env)) : State :=
  (initial (wattswarm []) config repeatedControl world).runActions gateway acts

set_option maxRecDepth 100000

theorem control_never_returns_first :
    ((repeatedControlRun (steps 0 11)).threads 0).prog ≠ .ret (.control ⟨"c", "cg"⟩) :=
  control_never_returns rfl rfl (Sys.reaches_runActions _ _) (by decide) _

/-- The first call fails after the broker's confirm and leaves no receipt, and the second sends the
frame again. -/
theorem control_sent_twice : Confirmed ((repeatedControlRun (steps 0 11)).threads 0).hist ∧
      ((repeatedControlRun (steps 0 11)).threads 0).prog.isDone = true ∧
      ((repeatedControlRun (steps 0 11)).threads 0).prog.result? = none ∧
      (repeatedControlRun (steps 0 11)).world.db.receipts.get? ("n", "g", "c") = none ∧
      Confirmed ((repeatedControlRun (steps 0 11 ++ steps 1 11)).threads 1).hist ∧
      (repeatedControlRun (steps 0 11 ++ steps 1 11)).world.broker.routed.length = 2 := by
  decide

end WattGateway.Message
