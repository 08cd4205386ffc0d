import WattGateway.Message.Receipts

/-!
# At most once

The receipt lookup, the broker's confirm and the commit of the receipt are separate steps, so a
record is handed over once only if the calls with its id take turns from lookup to end, and none
fails in between (`Serialized`, `publish_at_most_once`). The invariant `Serial` says what a receipt
under the key means while a call is between its lookup and its end: it has expired.
-/

namespace WattGateway.Message

open Hist Sys Sample Option

variable {n p rid : String}

/-! ## What a history says about a receipt -/

section

variable (h : Hist Cmd Query Ans)
include h

def Looked (n p rid : String) : Prop :=
  ∃ r, h.Heard (.select (.confirmedReceipt n p rid)) r

def Stored (n p rid : String) (row : ReceiptRow) : Prop :=
  h.Did .commit ∧ h.Did (.stmt (.insertReceipt n p rid row))

/-- The receipt a call rests on: the one it found, or the one it stored. -/
def RestsOn (n p rid : String) (row : ReceiptRow) : Prop :=
  h.Heard (.select (.confirmedReceipt n p rid)) (some row) ∨ Stored h n p rid row

end

variable {row : ReceiptRow}

lemma RestsOn.mono {h h' : Hist Cmd Query Ans} (hr : RestsOn h n p rid row)
    (hs : h <:+ h') : RestsOn h' n p rid row :=
  hr.imp (fun hh => hh.mono hs) fun hd => ⟨hd.1.mono hs, hd.2.mono hs⟩

/-- The record, route, delivery class and policy version a publish carries. -/
def Call.Carries (X : Wattswarm) (call : Call) (payload : Bytes) (route : EventTransportRoute)
    (cls : DeliveryClass) (policy : Nat) : Prop :=
  ∃ session frame vf, call = .publish session frame ∧
    validateRecordFrame X frame session = .ok vf ∧ payload = frame.payload ∧ route = vf.route ∧
    cls = X.deliveryClassForRecord vf.route.lane vf.urgency ∧ policy = frame.deliveryPolicyVersion

def ReceiptRow.IsFor (row : ReceiptRow) (payload : Bytes) (route : EventTransportRoute)
    (cls : DeliveryClass) (policy : Nat) : Prop :=
  row.recordHash = some (.record payload) ∧ row.authorizedRouteHash = .route route ∧
    row.deliveryClass = cls ∧ row.deliveryPolicyVersion = policy

lemma ReceiptRow.IsFor.unique {payload payload' : Bytes} {route route' : EventTransportRoute}
    {cls cls' : DeliveryClass} {policy policy' : Nat} (h : row.IsFor payload route cls policy)
    (h' : row.IsFor payload' route' cls' policy') :
    payload = payload' ∧ route = route' ∧ cls = cls' ∧ policy = policy' := by
  obtain ⟨h₁, h₂, h₃, h₄⟩ := h
  obtain ⟨h₁', h₂', h₃', h₄'⟩ := h'
  rw [h₁] at h₁'
  rw [h₂] at h₂'
  cases h₁'
  cases h₂'
  exact ⟨rfl, rfl, h₃.symm.trans h₃', h₄.symm.trans h₄'⟩

section Runs

variable {X : Wattswarm} {config : Config} {calls : Nat → Call} {w : World}
  {cond : State → Action Env → Prop} {s : State} {t : Nat}

section

variable (hX : X.LabelsGlobal) (hr : ReachableIf X config calls w cond s)
include hX hr

lemma lookup_unique (ht : (calls t).Publishes n p rid) {x y : Option ReceiptRow}
    (hx : (s.threads t).hist.Heard (.select (.confirmedReceipt n p rid)) x)
    (hy : (s.threads t).hist.Heard (.select (.confirmedReceipt n p rid)) y) : x = y := by
  obtain ⟨session, frame, hc, rfl, rfl, rfl⟩ := ht
  refine Reaches.heard_unique
    (q := .select (.confirmedReceipt session.networkId session.principalId frame.recordId))
    (R := fun t => callRule X config (calls t)) (fun t => prog_follows hX (calls t)) (fun _ => rfl)
    (fun h hok => ?_) hr hx hy
  have hl := hok.2
  rw [hc] at hl
  exact hl.2

lemma allowed_of_did {c : Cmd} (hd : (s.threads t).hist.Did c) :
    ∃ h, h <:+ (s.threads t).hist ∧ CmdOk X config (calls t) h c := by
  obtain ⟨h, hs, hok⟩ := Reaches.did_allowed (R := fun t => callRule X config (calls t))
    (fun t => prog_follows hX (calls t)) (fun _ => rfl) hr hd
  exact ⟨h, hs, hok.2⟩

lemma Confirmed.looked (ht : (calls t).Publishes n p rid) (hc : Confirmed (s.threads t).hist) :
    (s.threads t).hist.Heard (.select (.confirmedReceipt n p rid)) none := by
  obtain ⟨session, frame, ha, rfl, rfl, rfl⟩ := ht
  obtain ⟨ex, key, m, hd⟩ := hc
  obtain ⟨h, hs, hok⟩ := allowed_of_did hX hr hd
  rw [ha] at hok
  exact hok.1.mono hs

lemma receipt_issued (hd : (s.threads t).hist.Did (.stmt (.insertReceipt n p rid row))) :
    (s.threads t).hist.Heard (.select (.confirmedReceipt n p rid)) none ∧
      (∃ a, (s.threads t).hist.Heard .clock a ∧ row.expiresAt = a + receiptLifetimeMs) ∧
      ∃ payload route cls policy, (calls t).Carries X payload route cls policy ∧
        row.IsFor payload route cls policy := by
  obtain ⟨h, hs, hok⟩ := allowed_of_did hX hr hd
  obtain ⟨session, frame, vf, version, expected, a, hc, rfl, rfl, rfl, hv, hno, ha, rfl⟩ := hok
  exact ⟨hno.mono hs, ⟨a, ha.mono hs, rfl⟩, frame.payload, vf.route, _,
    frame.deliveryPolicyVersion, ⟨session, frame, vf, hc, hv, rfl, rfl, rfl, rfl⟩, rfl, rfl,
    rfl, rfl⟩

lemma RestsOn.looked (hre : RestsOn (s.threads t).hist n p rid row) :
    Looked (s.threads t).hist n p rid := by
  rcases hre with hh | ⟨-, hd⟩
  · exact ⟨_, hh⟩
  · exact ⟨_, (receipt_issued hX hr hd).1⟩

end

/-! ## Taking turns -/

/-- The condition on a step: a call looks its receipt up only while no other call with the record
id is between its own lookup and its end, and no call fails once its record is confirmed. -/
structure Serialized (calls : Nat → Call) (n p rid : String) (s : State) (a : Action Env) :
    Prop where
  lookup : ∀ t o k, a = .run t o → (calls t).Publishes n p rid →
    (s.threads t).prog = .ask (.select (.confirmedReceipt n p rid)) k →
    ∀ t', t' ≠ t → (calls t').Publishes n p rid → (s.threads t').prog.isDone = false →
      ¬ Looked (s.threads t').hist n p rid
  finish : ∀ t o e, a = .run t o → (calls t).Publishes n p rid →
    Confirmed ((s.step gateway a).threads t).hist → ((s.step gateway a).threads t).prog ≠ .fail e

variable {a : Action Env}

lemma looked_step (h : Looked ((s.step gateway a).threads t).hist n p rid) :
    Looked (s.threads t).hist n p rid ∨
      ∃ o k, a = .run t o ∧ (s.threads t).prog = .ask (.select (.confirmedReceipt n p rid)) k := by
  obtain ⟨r, hr⟩ := h
  rcases heard_step hr with hr | ⟨o, k, b, ha, hp, -⟩
  · exact .inl ⟨r, hr⟩
  · exact .inr ⟨o, k, ha, hp⟩

/-- No two calls of the key run past their lookups. -/
def Alone (calls : Nat → Call) (n p rid : String) (s : State) : Prop :=
  ∀ i j, i ≠ j → (calls i).Publishes n p rid → (calls j).Publishes n p rid →
    Looked (s.threads i).hist n p rid → Looked (s.threads j).hist n p rid →
    (s.threads i).prog.isDone = false → (s.threads j).prog.isDone = false → False

lemma Alone.step (hi : Alone calls n p rid s) (ha : Serialized calls n p rid s a) :
    Alone calls n p rid (s.step gateway a) := by
  intro i j hj hp hpj hli hl hd hdj
  have hd₀ := running_of_step hd
  have hdj₀ := running_of_step hdj
  rcases looked_step hli with hli₀ | ⟨o, k, rfl, hk⟩
  · rcases looked_step hl with hl₀ | ⟨o, k, rfl, hk⟩
    · exact hi i j hj hp hpj hli₀ hl₀ hd₀ hdj₀
    · exact ha.lookup j o k rfl hpj hk i hj hp hd₀ hli₀
  · rw [step_other hj.symm] at hl
    exact ha.lookup i o k rfl hp hk j hj.symm hpj hdj₀ hl

/-- A receipt that is under the key while a call runs past its lookup has expired, and had expired
when the call issued its own. -/
structure Clear (calls : Nat → Call) (n p rid : String) (s : State) : Prop where
  now : ∀ t, (calls t).Publishes n p rid → (s.threads t).prog.isDone = false →
    (s.threads t).hist.Heard (.select (.confirmedReceipt n p rid)) none →
    ∀ r, s.world.db.receipts.get? (n, p, rid) = some r → r.expiresAt ≤ s.world.now
  issued : ∀ t, (calls t).Publishes n p rid → (s.threads t).prog.isDone = false →
    ∀ τ row, (τ, .did (.stmt (.insertReceipt n p rid row))) ∈ (s.threads t).hist →
    ∀ r, s.world.db.receipts.get? (n, p, rid) = some r → r.expiresAt ≤ τ

section

variable (hX : X.LabelsGlobal) (hw : w.txs = .empty)
  (hr : ReachableIf X config calls w cond s) (hpub : OnlyPublishes calls n p)
include hX hw hr hpub

lemma receipt_unchanged (hi : Alone calls n p rid s) (ht : (calls t).Publishes n p rid)
    (hu : ((s.step gateway a).threads t).prog.isDone = false)
    (hl : Looked (s.threads t).hist n p rid) {r : ReceiptRow}
    (hg : (s.step gateway a).world.db.receipts.get? (n, p, rid) = some r) :
    s.world.db.receipts.get? (n, p, rid) = some r := by
  have hu₀ := running_of_step hu
  rcases receipt_step hX hw hr a hpub rid with hs | hs | ⟨t', o, tx, rfl, hc, hx, hno, ht'⟩
  · rw [← hs, hg]
  · rw [hs] at hg
    exact (filter_eq_some_iff.1 hg).1
  · exfalso
    obtain ⟨k, -, hp, -, -⟩ := id hc
    by_cases htt : t' = t
    · subst htt
      rw [done_of_commit hX hw hr (by rw [hp]; rfl) hx hno] at hu
      cases hu
    · obtain ⟨-, -, -, hl', -⟩ := hc.stores hX hw hr ht'
      exact hi t' t htt ht' ht ⟨_, hl'⟩ hl (by rw [hp]; rfl) hu₀

lemma Clear.step (hal : Alone calls n p rid s) (hi : Clear calls n p rid s) (a : Action Env) :
    Clear calls n p rid (s.step gateway a) := by
  have hn := now_le_step s a
  constructor
  · intro t ht hu hno r hg
    rcases heard_step hno with hno | ⟨o, k, b, rfl, hp, hb⟩
    · have hg₀ := receipt_unchanged hX hw hr hpub hal ht hu ⟨_, hno⟩ hg
      exact Nat.le_trans (hi.now t ht (running_of_step hu) hno r hg₀) hn
    · -- the lookup itself found no live receipt
      rw [db_of_ask hp] at hg
      have hf : (s.world.db.receipts.get? (n, p, rid)).filter
          (fun r => s.world.now < r.expiresAt) = none := Except.ok.inj hb
      rw [hg, filter_eq_none_iff] at hf
      have he := hf r rfl
      rw [decide_eq_true_eq] at he
      omega
  · intro t ht hu τ row hm r hg
    have hu₀ := running_of_step hu
    rcases did_step hm with hm | ⟨o, k, w', rfl, hp, rfl, -⟩
    · have hl : Looked (s.threads t).hist n p rid := ⟨_, (receipt_issued hX hr ⟨τ, hm⟩).1⟩
      exact hi.issued t ht hu₀ τ row hm r
        (receipt_unchanged hX hw hr hpub hal ht hu hl hg)
    · -- the statement is issued now, after a lookup that found nothing
      obtain ⟨session, frame, vf, version, expected, a, -, rfl, rfl, rfl, -, hno, -, -⟩ :=
        cmdOk_of_reaches hX hr hp
      exact hi.now t ht hu₀ hno r
        (receipt_unchanged hX hw hr hpub hal ht hu ⟨_, hno⟩ hg)

/-! ## Receipts while they live -/

/-- The receipt has expired or is under its key. -/
def Standing (n p rid : String) (s : State) (row : ReceiptRow) : Prop :=
  row.expiresAt ≤ s.world.now ∨ s.world.db.receipts.get? (n, p, rid) = some row

/-- Every call that rests on a receipt rests on one that has expired or is under its key. -/
def Kept (calls : Nat → Call) (n p rid : String) (s : State) : Prop :=
  ∀ t, (calls t).Publishes n p rid → (∃ row, RestsOn (s.threads t).hist n p rid row) →
    ∃ row, RestsOn (s.threads t).hist n p rid row ∧ Standing n p rid s row

lemma Kept.step (hcl : Clear calls n p rid s) (hi : Kept calls n p rid s) (a : Action Env) :
    Kept calls n p rid (s.step gateway a) := by
  rintro t ht ⟨row, hre⟩
  have hu := hist_suffix_step gateway s a t
  by_cases he : ∃ row, RestsOn (s.threads t).hist n p rid row
  · obtain ⟨row, hre, hst⟩ := hi t ht he
    exact ⟨row, hre.mono hu, receipt_kept hX hw hr a hpub hst⟩
  · rcases hre with hh | ⟨hco, hs⟩
    · -- found in this step
      rcases heard_step hh with hold | ⟨o, k, b, -, -, hb⟩
      · exact absurd ⟨row, .inl hold⟩ he
      · have hg := (filter_eq_some_iff.1 (Except.ok.inj hb)).1
        exact ⟨row, .inl hh, receipt_kept hX hw hr a hpub (Or.inr hg)⟩
    · -- stored in this step, over a receipt that had expired when it was issued
      have hl : ¬ (s.threads t).hist.Did .commit := by
        intro hd
        rw [step_of_done (done_of_did_commit hX hr hd)] at hs
        exact he ⟨row, .inr ⟨hd, hs⟩⟩
      obtain ⟨o, -, hc⟩ := atCommit_of_did hl hco
      obtain ⟨row', τ, hm, -, hg⟩ := hc.stores hX hw hr ht
      obtain ⟨k, -, hp, -, -⟩ := hc
      have ho : nextReceipt τ row' (s.world.db.receipts.get? (n, p, rid)) = row' := by
        cases hold : s.world.db.receipts.get? (n, p, rid) with
        | none => rfl
        | some r => exact if_pos (hcl.issued t ht (by rw [hp]; rfl) τ row' hm r hold)
      rw [ho] at hg
      exact ⟨row', .inr ⟨hco, ⟨τ, hu.subset hm⟩⟩, .inr hg⟩

end

/-- A call that runs past its lookup either found the receipt of a call that is done, or looked
after that receipt had expired. -/
def Found (calls : Nat → Call) (n p rid : String) (s : State) : Prop :=
  ∀ i j, i ≠ j → (calls i).Publishes n p rid → (calls j).Publishes n p rid →
    (s.threads i).prog.isDone = true → (∃ row, RestsOn (s.threads i).hist n p rid row) →
    (s.threads j).prog.isDone = false → Looked (s.threads j).hist n p rid →
    ∃ row, RestsOn (s.threads i).hist n p rid row ∧ (row.expiresAt ≤ s.world.now ∨
      (s.threads j).hist.Heard (.select (.confirmedReceipt n p rid)) (some row))

lemma found_after (hke : Kept calls n p rid s) (hi : Found calls n p rid s) {i j : Nat}
    (hij : i ≠ j) (hp : (calls i).Publishes n p rid) (hj : (calls j).Publishes n p rid)
    (hd : (s.threads i).prog.isDone = true)
    (hre : ∃ row, RestsOn (s.threads i).hist n p rid row)
    (hu : (s.threads j).prog.isDone = false)
    (hl : Looked ((s.step gateway a).threads j).hist n p rid) :
    ∃ row, RestsOn (s.threads i).hist n p rid row ∧ (row.expiresAt ≤ s.world.now ∨
      ((s.step gateway a).threads j).hist.Heard (.select (.confirmedReceipt n p rid))
        (some row)) := by
  obtain ⟨r, hhe⟩ := hl
  rcases heard_step hhe with hold | ⟨o, k, b, -, -, hb⟩
  · obtain ⟨row, ho, hor⟩ := hi i j hij hp hj hd hre hu ⟨r, hold⟩
    exact ⟨row, ho, hor.imp_right fun hh => hh.mono (hist_suffix_step gateway s a j)⟩
  · -- the lookup happens now
    obtain ⟨row, ho, hs⟩ := hke i hp hre
    refine ⟨row, ho, ?_⟩
    by_cases he : row.expiresAt ≤ s.world.now
    · exact .inl he
    · have hg := hs.resolve_left he
      have hfo : (s.world.db.receipts.get? (n, p, rid)).filter
          (fun r => s.world.now < r.expiresAt) = some row :=
        filter_eq_some_iff.2 ⟨hg, by simpa using he⟩
      rw [← Except.ok.inj hb] at hhe
      exact .inr (hfo ▸ hhe)

section

variable (hX : X.LabelsGlobal) (hr : ReachableIf X config calls w cond s)
include hX hr

lemma Found.step (hal : Alone calls n p rid s)
    (hke : Kept calls n p rid s) (hi : Found calls n p rid s) (hca : cond s a)
    (ha : Serialized calls n p rid s a) : Found calls n p rid (s.step gateway a) := by
  intro i j hj hp hpj hd hre hu hl
  have hu₀ := running_of_step hu
  cases hd₀ : (s.threads i).prog.isDone with
  | true =>
    rw [step_of_done hd₀] at hre ⊢
    obtain ⟨row, ho, hor⟩ := found_after hke hi hj hp hpj hd₀ hre hu₀ hl
    exact ⟨row, ho, hor.imp_left fun he => Nat.le_trans he (now_le_step s a)⟩
  | false =>
    -- `i` ends in this step, while `j` runs past its lookup
    exfalso
    rcases step_moved gateway s a i with hs | ⟨o, rfl⟩
    · rw [hs, hd₀] at hd
      cases hd
    · obtain ⟨row, ho⟩ := hre
      rw [step_other hj.symm] at hl
      rcases looked_step (ho.looked hX (Reaches.step _ hr hca)) with hli | ⟨o', k, -, hk⟩
      · exact hal i j hj hp hpj hli hl hd₀ hu₀
      · exact ha.lookup i o k rfl hp hk j hj.symm hpj hu₀ hl

/-! ## Calls that have ended -/

lemma stored_of_commit (ht : (calls t).Publishes n p rid) (hd : (s.threads t).hist.Did .commit) :
    (s.threads t).hist.Heard (.select (.confirmedReceipt n p rid)) none ∧
      ∃ row, Stored (s.threads t).hist n p rid row := by
  obtain ⟨session, frame, hc, rfl, rfl, rfl⟩ := ht
  obtain ⟨h, hs, hok⟩ := allowed_of_did hX hr hd
  rw [hc] at hok
  obtain ⟨vf, l, ws, τ, row, he⟩ := hok
  obtain ⟨τ', audit, hx⟩ := he.tx
  exact ⟨he.looked.mono hs, row, hd, τ, hs.subset (mem_of_txOf hx (by simp))⟩

end

/-- Two calls that have ended: one ended after the receipt the other rests on had expired, or they
rest on the same receipt, which not both of them stored. -/
def Apart (n p rid : String) (s : State) (i j ei ej : Nat) : Prop :=
  ∃ ri rj, RestsOn (s.threads i).hist n p rid ri ∧ RestsOn (s.threads j).hist n p rid rj ∧
    (ri.expiresAt ≤ ej ∨ rj.expiresAt ≤ ei ∨
      ri = rj ∧ ¬ ((s.threads i).hist.Did .commit ∧ (s.threads j).hist.Did .commit))

lemma Apart.symm {i j ei ej : Nat} (h : Apart n p rid s i j ei ej) :
    Apart n p rid s j i ej ei := by
  obtain ⟨ri, rj, hi, hj, hor⟩ := h
  refine ⟨rj, ri, hj, hi, ?_⟩
  rcases hor with h | h | ⟨h, hn⟩
  · exact .inr (Or.inl h)
  · exact .inl h
  · exact .inr (Or.inr ⟨h.symm, fun hb => hn ⟨hb.2, hb.1⟩⟩)

def EndedApart (calls : Nat → Call) (n p rid : String) (s : State) : Prop :=
  ∀ i j ei ej, i ≠ j → (calls i).Publishes n p rid → (calls j).Publishes n p rid →
    (s.threads i).ended = some ei → (s.threads j).ended = some ej →
    (∃ row, RestsOn (s.threads i).hist n p rid row) →
    (∃ row, RestsOn (s.threads j).hist n p rid row) → Apart n p rid s i j ei ej

section

variable (hX : X.LabelsGlobal)
include hX

section

variable (hr : ReachableIf X config calls w cond s) (hke : Kept calls n p rid s)
  (hfo : Found calls n p rid s)
include hr hke hfo

lemma apart_of_end (hc : cond s a) {i j ei ej : Nat} (hi : i ≠ j)
    (hpi : (calls i).Publishes n p rid) (hp : (calls j).Publishes n p rid)
    (ha : (s.step gateway a).threads i = s.threads i)
    (hm : (s.step gateway a).threads j ≠ s.threads j)
    (hei : ((s.step gateway a).threads i).ended = some ei)
    (hj : ((s.step gateway a).threads j).ended = some ej)
    (hri : ∃ row, RestsOn ((s.step gateway a).threads i).hist n p rid row)
    (hrj : ∃ row, RestsOn ((s.step gateway a).threads j).hist n p rid row) :
    Apart n p rid (s.step gateway a) i j ei ej := by
  have hr' : ReachableIf X config calls w cond (s.step gateway a) := .step _ hr hc
  have hu : (s.threads j).prog.isDone = false := by
    by_contra hd
    rw [Bool.not_eq_false] at hd
    exact hm (step_of_done hd a)
  have hnow : ej = (s.step gateway a).world.now := by
    rcases step_settled gateway s a j with hs | ⟨-, hn⟩ | ⟨-, w', hw', he⟩
    · exact absurd hs hm
    · rw [hn] at hj
      cases hj
    · rw [he] at hj
      rw [hw']
      exact (Option.some.inj hj).symm
  obtain ⟨rj, hrj⟩ := hrj
  rw [ha] at hei hri
  have hdo := Reaches.done_of_ended (fun _ => rfl) hr hei
  obtain ⟨row, ho, hor⟩ := found_after hke hfo hi hpi hp hdo hri hu
    (hrj.looked hX hr')
  rw [← ha] at ho
  rcases hor with hx | hh
  · refine ⟨row, rj, ho, hrj, .inl ?_⟩
    rw [hnow]
    exact Nat.le_trans hx (now_le_step s a)
  · refine ⟨row, row, ho, .inl hh, .inr (Or.inr ⟨rfl, ?_⟩)⟩
    rintro ⟨-, hco⟩
    cases lookup_unique hX hr' hp hh (stored_of_commit hX hr' hp hco).1

lemma EndedApart.step (hi : EndedApart calls n p rid s) (hca : cond s a) :
    EndedApart calls n p rid (s.step gateway a) := by
  intro i j ei ej hij hp hpj hei he hri hj
  by_cases hsi : (s.step gateway a).threads i = s.threads i
  · by_cases hs : (s.step gateway a).threads j = s.threads j
    · unfold Apart
      rw [hsi] at hei hri ⊢
      rw [hs] at he hj ⊢
      exact hi i j ei ej hij hp hpj hei he hri hj
    · exact apart_of_end hX hr hke hfo hca hij hp hpj hsi hs hei he hri hj
  · by_cases hs : (s.step gateway a).threads j = s.threads j
    · exact (apart_of_end hX hr hke hfo hca hij.symm hpj hp hs hsi he hei hj hri).symm
    · -- one action moves one call
      obtain ⟨o, rfl⟩ := (step_moved gateway s a i).resolve_left hsi
      obtain ⟨o', ho⟩ := (step_moved gateway s (.run i o) j).resolve_left hs
      cases ho
      exact absurd rfl hij

end

/-- A call that has ended after a confirm has committed. -/
def Committed (calls : Nat → Call) (n p rid : String) (s : State) : Prop :=
  ∀ t, (calls t).Publishes n p rid → (s.threads t).prog.isDone = true →
    Confirmed (s.threads t).hist → (s.threads t).hist.Did .commit

lemma Committed.step (hr : ReachableIf X config calls w cond s) (hi : Committed calls n p rid s)
    (hca : cond s a) (ha : Serialized calls n p rid s a) :
    Committed calls n p rid (s.step gateway a) := by
  intro t ht hd hc
  have hr' : ReachableIf X config calls w cond (s.step gateway a) := .step _ hr hca
  rcases step_moved gateway s a t with hs | ⟨o, rfl⟩
  · rw [hs] at hd hc ⊢
    exact hi t ht hd hc
  · have hf := follows_of_reaches hX hr' t
    obtain ⟨session, frame, hl, rfl, rfl, rfl⟩ := id ht
    cases hp : ((s.step gateway (.run t o)).threads t).prog with
    | fail e => exact absurd hp (ha.finish t o e rfl ht hc)
    | cmd | ask => rw [hp] at hd; cases hd
    | ret x =>
      rw [hp] at hf
      cases x with
      | publish =>
        obtain ⟨session', frame', vf, hl', -, ho | ⟨receipt, hh, -⟩⟩ := hf
        · exact ho
        · rw [hl] at hl'
          cases hl'
          cases lookup_unique hX hr' ht hh (hc.looked hX hr' ht)
      | control => obtain ⟨⟨_, _, hl'⟩, -⟩ := hf; rw [hl] at hl'; cases hl'
      | admitGrant => exact hf.2
      | challenge => obtain ⟨_, _, hl'⟩ := hf; rw [hl] at hl'; cases hl'

/-! ## The result -/

/-- What holds of the calls and receipts of one key when the calls take turns. -/
structure Serial (calls : Nat → Call) (n p rid : String) (s : State) : Prop where
  alone : Alone calls n p rid s
  clear : Clear calls n p rid s
  kept : Kept calls n p rid s
  found : Found calls n p rid s
  apart : EndedApart calls n p rid s
  committed : Committed calls n p rid s

lemma serial_of_reaches (hw : w.txs = .empty) (hpub : OnlyPublishes calls n p)
    (hr : ReachableIf X config calls w (Serialized calls n p rid) s) : Serial calls n p rid s := by
  refine hr.invariant ?_ fun s a hs ha hi => ?_
  · have hl : ∀ t, ¬ Looked ((initial X config calls w).threads t).hist n p rid :=
      fun t h => not_heard_nil _ _ h.choose_spec
    have he : ∀ t, ¬ ∃ row, RestsOn ((initial X config calls w).threads t).hist n p rid row := by
      rintro t ⟨row, hh | ⟨hd, -⟩⟩
      · exact not_heard_nil _ _ hh
      · exact not_did_nil _ hd
    exact
      { alone := fun i _ _ _ _ hi => absurd hi (hl i)
        clear :=
          { now := fun t _ _ hh => absurd ⟨_, hh⟩ (hl t)
            issued := fun t _ _ τ row hm => absurd hm List.not_mem_nil }
        kept := fun t _ hh => absurd hh (he t)
        found := fun i _ _ _ _ _ hh => absurd hh (he i)
        apart := fun i _ _ _ _ _ _ _ _ hh => absurd hh (he i)
        committed := fun t _ _ hc => absurd hc.choose_spec.choose_spec.choose_spec
          (not_did_nil _) }
  · exact
      { alone := hi.alone.step ha
        clear := hi.clear.step hX hw hs hpub hi.alone a
        kept := hi.kept.step hX hw hs hpub hi.clear a
        found := hi.found.step hX hs hi.alone hi.kept ha ha
        apart := hi.apart.step hX hs hi.kept hi.found ha
        committed := hi.committed.step hX hs ha ha }

/-- An accepted publish rests on a receipt, and every receipt it rests on is for what it
carries. -/
lemma accepted_isFor (hr : ReachableIf X config calls w cond s)
    (ht : (calls t).Publishes n p rid) {r : PublishAcceptance}
    (hret : (s.threads t).prog = .ret (.publish r)) :
    (∃ row, RestsOn (s.threads t).hist n p rid row) ∧
      ∀ row, RestsOn (s.threads t).hist n p rid row →
        ∃ payload route cls policy, (calls t).Carries X payload route cls policy ∧
          row.IsFor payload route cls policy := by
  have hf := follows_of_reaches hX hr t
  rw [hret] at hf
  obtain ⟨session, frame, vf, hca, hv, ho⟩ := hf
  obtain ⟨_, _, hca', rfl, rfl, rfl⟩ := id ht
  rw [hca] at hca'
  cases hca'
  rcases ho with hco | ⟨receipt, he, ha, hc, hp⟩
  · obtain ⟨hno, row, hs⟩ := stored_of_commit hX hr ht hco
    refine ⟨⟨row, .inr hs⟩, fun row hre => ?_⟩
    rcases hre with hh | ⟨-, hd⟩
    · cases lookup_unique hX hr ht hh hno
    · exact (receipt_issued hX hr hd).2.2
  · refine ⟨⟨receipt, .inl he⟩, fun row hre => ?_⟩
    rcases hre with hh | ⟨-, hd⟩
    · cases lookup_unique hX hr ht hh he
      obtain ⟨u, hch, hr'⟩ := bind_eq_ok.1 ha
      rw [failIf_eq_ok, not_or, not_not, not_not] at hch
      cases hr'
      exact ⟨frame.payload, vf.route, _, frame.deliveryPolicyVersion,
        ⟨session, frame, vf, hca, hv, rfl, rfl, rfl, rfl⟩, hch.2, hch.1, hc, hp⟩
    · cases lookup_unique hX hr ht he (receipt_issued hX hr hd).1

end

/-- In every run in which the publishes of one record take turns from lookup to end and none fails
after its confirm: of two that were confirmed, one ended after the receipt the other stored had
expired; and two that were accepted carried the same record, route, delivery class and policy
version, or one of them ended after the receipt the other rests on had expired. -/
theorem publish_at_most_once (hX : X.scopeLabel .global = some "global") (hw : w.txs = .empty)
    (hpub : OnlyPublishes calls n p)
    (hr : ReachableIf X config calls w (Serialized calls n p rid) s) {i j ei ej : Nat}
    (hij : i ≠ j) (hpi : (calls i).Publishes n p rid) (hpj : (calls j).Publishes n p rid)
    (hei : (s.threads i).ended = some ei) (hej : (s.threads j).ended = some ej) :
    (Confirmed (s.threads i).hist → Confirmed (s.threads j).hist → ∃ row a,
      row.expiresAt = a + receiptLifetimeMs ∧
      (Stored (s.threads i).hist n p rid row ∧ (s.threads i).hist.Heard .clock a ∧
          row.expiresAt ≤ ej ∨
        Stored (s.threads j).hist n p rid row ∧ (s.threads j).hist.Heard .clock a ∧
          row.expiresAt ≤ ei)) ∧
    (∀ ri rj, (s.threads i).prog = .ret (.publish ri) → (s.threads j).prog = .ret (.publish rj) →
      (∃ payload route cls policy, (calls i).Carries X payload route cls policy ∧
        (calls j).Carries X payload route cls policy) ∨
      ∃ row, RestsOn (s.threads i).hist n p rid row ∧ row.expiresAt ≤ ej ∨
        RestsOn (s.threads j).hist n p rid row ∧ row.expiresAt ≤ ei) := by
  have hs := serial_of_reaches hX hw hpub hr
  constructor
  · intro hc hcj
    have hd := hs.committed i hpi (Reaches.done_of_ended (fun _ => rfl) hr hei) hc
    have hdj := hs.committed j hpj (Reaches.done_of_ended (fun _ => rfl) hr hej) hcj
    obtain ⟨hn, rowi, hsi⟩ := stored_of_commit hX hr hpi hd
    obtain ⟨hnj, rowj, hsj⟩ := stored_of_commit hX hr hpj hdj
    obtain ⟨ri, rj, hi, hj, hor⟩ := hs.apart i j ei ej hij hpi hpj hei hej
      ⟨rowi, .inr hsi⟩ ⟨rowj, .inr hsj⟩
    -- neither found a receipt, so both rest on what they stored
    replace hi : Stored (s.threads i).hist n p rid ri :=
      hi.resolve_left fun hh => by cases lookup_unique hX hr hpi hh hn
    replace hj : Stored (s.threads j).hist n p rid rj :=
      hj.resolve_left fun hh => by cases lookup_unique hX hr hpj hh hnj
    rcases hor with hx | hx | ⟨-, ho⟩
    · obtain ⟨-, ⟨a, ha, he⟩, -⟩ := receipt_issued hX hr hi.2
      exact ⟨ri, a, he, .inl ⟨hi, ha, hx⟩⟩
    · obtain ⟨-, ⟨a, ha, he⟩, -⟩ := receipt_issued hX hr hj.2
      exact ⟨rj, a, he, .inr ⟨hj, ha, hx⟩⟩
    · exact absurd ⟨hd, hdj⟩ ho
  · intro _ _ hre hret
    obtain ⟨hres, hfo⟩ := accepted_isFor hX hr hpi hre
    obtain ⟨ht, hf⟩ := accepted_isFor hX hr hpj hret
    obtain ⟨ri, rj, hi, hj, hor⟩ := hs.apart i j ei ej hij hpi hpj hei hej hres ht
    rcases hor with hx | hx | ⟨rfl, -⟩
    · exact .inr ⟨ri, .inl ⟨hi, hx⟩⟩
    · exact .inr ⟨rj, .inr ⟨hj, hx⟩⟩
    · obtain ⟨payload, route, cls, policy, hcar, hfor⟩ := hfo ri hi
      obtain ⟨payload', route', cls', policy', hcar', hfor'⟩ := hf ri hj
      obtain ⟨rfl, rfl, rfl, rfl⟩ := hfor.unique hfor'
      exact .inl ⟨payload, route, cls, policy, hcar, hcar'⟩

end Runs

/-! ## Concrete publishes -/

def sameEvent : List Event := [policyTuned "e"]

lemma sameEvent_publishes : (publishOf sameEvent 0).Publishes "n" "g" "e" :=
  ⟨_, _, rfl, rfl, rfl, rfl⟩

lemma ne_fail_of_result {α : Type} {q : Gw α} (h : q.isDone = false ∨ q.result?.isSome = true)
    (e : String) : q ≠ .fail e := by
  rintro rfl
  rcases h with h | h <;> cases h

def sameEventStart : State :=
  initial (wattswarm sameEvent) config (fun _ => publishOf sameEvent 0)
    world

set_option maxRecDepth 100000

lemma sameEvent_first : Reaches gateway (Serialized (fun _ => publishOf sameEvent 0) "n" "g" "e")
        sameEventStart (sameEventStart.runActions gateway (steps 0 27)) ∧
      ∀ t', t' ≠ 0 → (sameEventStart.runActions gateway (steps 0 27)).threads t' =
        sameEventStart.threads t' := by
  have hp : ∀ j < 27, (((sameEventStart.runActions gateway (steps 0 j)).step gateway
        (.run 0 .ok)).threads 0).prog.isDone = false ∨
      (((sameEventStart.runActions gateway (steps 0 j)).step gateway
        (.run 0 .ok)).threads 0).prog.result?.isSome = true := by decide
  refine reaches_alone 27 sameEventStart fun j hj ho => ⟨?_, ?_⟩
  · rintro t o k ⟨⟩ - - t' ht - - ⟨r, hr⟩
    rw [ho t' ht] at hr
    exact not_heard_nil _ _ hr
  · rintro t o e ⟨⟩ - -
    exact ne_fail_of_result (hp j hj) e

lemma sameEvent_serialized :
    ReachableIf (wattswarm sameEvent) config (fun _ => publishOf sameEvent 0)
      world (Serialized (fun _ => publishOf sameEvent 0) "n" "g" "e")
      (sameEventStart.runActions gateway (steps 0 27 ++ steps 1 1)) := by
  obtain ⟨hf, ho₁⟩ := sameEvent_first
  have hd : ((sameEventStart.runActions gateway (steps 0 27)).threads 0).prog.isDone =
      true := by decide
  have hp : ∀ j < 1, ((((sameEventStart.runActions gateway (steps 0 27)).runActions gateway
        (steps 1 j)).step gateway (.run 1 .ok)).threads 1).prog.isDone = false ∨
      ((((sameEventStart.runActions gateway (steps 0 27)).runActions gateway
        (steps 1 j)).step gateway (.run 1 .ok)).threads 1).prog.result?.isSome = true := by
    decide
  rw [runActions_append]
  refine hf.trans (reaches_alone 1 _ fun j hj ho => ⟨?_, ?_⟩).1
  · rintro t o k ⟨⟩ - - t' ht - hu ⟨r, hr⟩
    rw [ho t' ht] at hr hu
    by_cases h0 : t' = 0
    · rw [h0, hd] at hu
      cases hu
    · rw [ho₁ t' h0] at hr
      exact not_heard_nil _ _ hr
  · rintro t o e ⟨⟩ - -
    exact ne_fail_of_result (hp j hj) e

def sameEventEnd : State :=
  sameEventStart.runActions gateway (steps 0 27 ++ steps 1 1)

theorem publish_at_most_once_again :
    (Confirmed (sameEventEnd.threads 0).hist → Confirmed (sameEventEnd.threads 1).hist → ∃ row a,
      row.expiresAt = a + receiptLifetimeMs ∧
      (Stored (sameEventEnd.threads 0).hist "n" "g" "e" row ∧
          (sameEventEnd.threads 0).hist.Heard .clock a ∧ row.expiresAt ≤ 0 ∨
        Stored (sameEventEnd.threads 1).hist "n" "g" "e" row ∧
          (sameEventEnd.threads 1).hist.Heard .clock a ∧ row.expiresAt ≤ 0)) ∧
    (∀ ri rj, (sameEventEnd.threads 0).prog = .ret (.publish ri) →
      (sameEventEnd.threads 1).prog = .ret (.publish rj) → (∃ payload route cls policy,
        (publishOf sameEvent 0).Carries (wattswarm sameEvent) payload route cls
          policy ∧ (publishOf sameEvent 0).Carries (wattswarm sameEvent) payload route cls
          policy) ∨
      ∃ row, RestsOn (sameEventEnd.threads 0).hist "n" "g" "e" row ∧ row.expiresAt ≤ 0 ∨
        RestsOn (sameEventEnd.threads 1).hist "n" "g" "e" row ∧ row.expiresAt ≤ 0) :=
  publish_at_most_once (label_global sameEvent .global |>.mpr rfl) rfl
    (by rintro t session frame ⟨⟩) sameEvent_serialized (by decide) sameEvent_publishes
    sameEvent_publishes (by decide) (by decide)

def sameId : List Event := [policyTuned "e", policyTuned "e"]

def overlapping : State :=
  (initial (wattswarm sameId) config (publishOf sameId)
    world).runActions gateway
    (steps 0 1 ++ steps 1 1 ++ steps 0 26 ++ steps 1 26)

/-- Both are confirmed by the broker and accepted, within one millisecond, and their payloads
differ. -/
theorem published_twice : (publishOf sameId 0).Publishes "n" "g" "e" ∧
      (publishOf sameId 1).Publishes "n" "g" "e" ∧
      Confirmed (overlapping.threads 0).hist ∧ Confirmed (overlapping.threads 1).hist ∧
      (overlapping.threads 0).ended = some 0 ∧ (overlapping.threads 1).ended = some 0 ∧
      (overlapping.threads 0).prog.result?.isSome = true ∧
      (overlapping.threads 1).prog.result?.isSome = true ∧
      (publishOf sameId 0).Carries (wattswarm sameId) []
        ⟨.global, .events, "ws.global.PolicyTuned"⟩ .interactive 1 ∧
      (publishOf sameId 1).Carries (wattswarm sameId) [0]
        ⟨.global, .events, "ws.global.PolicyTuned"⟩ .interactive 1 := by
  refine ⟨⟨_, _, rfl, rfl, rfl, rfl⟩, ⟨_, _, rfl, rfl, rfl, rfl⟩, ?_⟩
  iterate 5 rw [← and_assoc]
  exact ⟨by decide, ⟨_, _, _, rfl, rfl, rfl, rfl, rfl, rfl⟩,
    ⟨_, _, _, rfl, rfl, rfl, rfl, rfl, rfl⟩⟩

end WattGateway.Message
