import WattGateway.Gateway.Calls
import WattGateway.Lib.Serial

/-!
# Submissions one after another

A turn is one call of `persist_signed_node_event_with_options` or
`ingest_signed_snapshot_with_options` that runs alone, every statement succeeding; a run of turns
starts from the tables as created. `Runs` is the program logic of such a call. The values of
sequences and clocks are left open, so that a proof cannot depend on them.
-/

namespace WattGateway.Gateway

open Option Prog Table World

/-! ## Turns -/

/-- One of the two ways in, with the arguments of its callers. -/
inductive Submit where
  | event (event : SignedNodeEvent) (announceP2p : Bool)
  | snapshot (snapshot : SignedPublicClientSnapshot) (sourceId : Option Nat)
      (expectedSignerAgentDid : Option String) (announceP2p : Bool)

def Submit.prog (X : Deployment) : Submit → Proc Unit
  | .event e announceP2p => do
    let _ ← persistSignedNodeEventWithOptions X e none none announceP2p
    return ()
  | .snapshot s sourceId expectedSignerAgentDid announceP2p => do
    let _ ← ingestSignedSnapshotWithOptions X s sourceId expectedSignerAgentDid announceP2p
    return ()

/-- A submission, the instance it reaches, the time since the last one, and what the other hosts
answer meanwhile. -/
structure Turn where
  inst : Nat
  elapsed : Nat
  remote : Remote
  submit : Submit

/-- The world in which a turn begins. -/
def World.before (w : World) (turn : Turn) : World :=
  { w with now := w.now + turn.elapsed, remote := turn.remote }

def World.call {α : Type} (inst : Nat) (p : Proc α) (w : World) : World :=
  match (machine fun _ => inst).serial 0 p w with
  | some (_, w') => (machine fun _ => inst).finish 0 w'
  | none => w

def World.turn (X : Deployment) (w : World) (turn : Turn) : World :=
  (w.before turn).call turn.inst (turn.submit.prog X)

def World.turns (X : Deployment) (w : World) (turns : List Turn) : World :=
  turns.foldl (turn X) w

/-! ## The states of a call -/

def World.Alone (w : World) : Prop := ∀ t tx, w.txs.get? t = some tx → t = 0

/-- What a call alone reads and writes, on its instance. -/
structure Core where
  db : Db
  tx : Option Db
  remote : Remote
  artifacts : String → Option SignedPublicClientSnapshot

def World.core (inst : Nat) (w : World) : Core :=
  ⟨w.db, (w.txs.get? 0).map (Tx.view w.db), w.remote, w.artifacts inst⟩

/-- From the state the program ends, and with `Q`. -/
def Runs {α : Type} (inst : Nat) (Q : Except String α → Core → Prop) (p : Proc α) (c : Core) :
    Prop :=
  ∀ w : World, w.Alone → w.core inst = c →
    (machine fun _ => inst).Ends 0 (fun r w' => w'.Alone ∧ Q r (w'.core inst)) p w

variable {w : World}

lemma alone_dropTx (h : w.Alone) : (w.dropTx 0).Alone := by
  intro t tx ht
  have ht' : (w.txs.delete fun k _ => k = 0).get? t = some tx := ht
  rw [get?_delete, filter_eq_some_iff] at ht'
  exact h t tx ht'.1

lemma alone_upsert (h : w.Alone) (f : Option Tx → Tx) (nextCursor nextOutboxId : Nat) :
    World.Alone { w with
      txs := w.txs.upsert 0 f, nextCursor := nextCursor, nextOutboxId := nextOutboxId } := by
  intro t tx hx
  have hx' : (w.txs.upsert 0 f).get? t = some tx := hx
  rw [get?_upsert] at hx'
  by_cases ht : t = 0
  · exact ht
  · rw [if_neg ht] at hx'
    exact h t tx hx'

lemma locked_of_alone (h : w.Alone) (target : Target) : w.locked 0 target = false := by
  unfold locked
  refine List.any_eq_false.2 fun tx hm hl => ?_
  have ht := h tx.1 tx.2 (get?_eq_some.2 hm)
  simp [ht] at hl

@[simp] lemma core_dropTx (inst : Nat) (w : World) :
    (w.dropTx 0).core inst = { w.core inst with tx := none } := by
  unfold core
  rw [dropTx_self]
  rfl

/-! ## Rules -/

section

variable {α β : Type} {inst : Nat} {c : Core}
variable {p : Proc α}

lemma Runs.mono {Q Q' : Except String α → Core → Prop} (h : Runs inst Q p c)
    (hq : ∀ r c', Q r c' → Q' r c') : Runs inst Q' p c :=
  fun w ha hc => (h w ha hc).mono fun r _ hr => ⟨hr.1, hq r _ hr.2⟩

lemma runs_pure {a : α} {Q : Except String α → Core → Prop} (h : Q (.ok a) c) :
    Runs inst Q (pure a) c :=
  fun _ ha hc => Machine.ends_ret ⟨ha, hc ▸ h⟩

variable {e : String}

lemma runs_fail {Q : Except String α → Core → Prop} (h : Q (.error e) c) :
    Runs inst Q (.fail e) c :=
  fun _ ha hc => Machine.ends_fail ⟨ha, hc ▸ h⟩

lemma runs_ofExcept {x : Except String α} {Q : Except String α → Core → Prop} (h : Q x c) :
    Runs inst Q (ofExcept x) c :=
  fun _ ha hc => Machine.ends_ofExcept ⟨ha, hc ▸ h⟩

lemma runs_ofOption {x : Option α} {Q : Except String α → Core → Prop}
    (hs : ∀ a, x = some a → Q (.ok a) c) (hno : x = none → Q (.error e) c) :
    Runs inst Q (ofOption e x) c := by
  cases x with
  | some a => exact runs_pure (hs a rfl)
  | none => exact runs_fail (hno rfl)

variable {Q : Except String Unit → Core → Prop}

lemma runs_bailIf {b : Prop} [Decidable b] (hf : b → Q (.error e) c)
    (hok : ¬ b → Q (.ok ()) c) : Runs inst Q (bailIf b e) c :=
  fun _ ha hc => Machine.ends_bailIf (fun hb => ⟨ha, hc ▸ hf hb⟩) fun hb => ⟨ha, hc ▸ hok hb⟩

/-- What must hold after the first part of a sequence. -/
def Next (inst : Nat) (Q : Except String β → Core → Prop) (f : α → Proc β) :
    Except String α → Core → Prop
  | .ok a, c => Runs inst Q (f a) c
  | .error e, c => Q (.error e) c

lemma Next.ok {f : α → Proc β} {a : α} {Q : Except String β → Core → Prop}
    (h : Runs inst Q (f a) c) : Next inst Q f (.ok a) c := h

lemma Runs.bind {f : α → Proc β} {Q : Except String β → Core → Prop}
    (h : Runs inst (Next inst Q f) p c) : Runs inst Q (p >>= f) c := by
  intro w ha hc
  refine Machine.Ends.bind ((h w ha hc).mono fun r w' hr => ?_)
  cases r with
  | ok => exact hr.2 w' hr.1 rfl
  | error => exact hr

lemma runs_query {q : Query} {Q : Except String (Ans q) → Core → Prop}
    (h : ∀ w : World, w.Alone → w.core inst = c →
      ∃ a w', answer inst 0 w .ok q = some (a, w') ∧ w'.Alone ∧ Q (.ok a) (w'.core inst)) :
    Runs inst Q (query q) c := by
  intro w ha hc
  obtain ⟨_, _, hw, ha', hq⟩ := h w ha hc
  refine Machine.ends_query ?_ ⟨ha', hq⟩
  show (answer inst 0 w .ok q).map _ = _
  rw [hw]
  rfl

lemma runs_exec {q : Query} {Q : Except String q.Result → Core → Prop}
    (h : ∀ w : World, w.Alone → w.core inst = c →
      ∃ a w', answer inst 0 w .ok q = some (a, w') ∧ w'.Alone ∧ Q a (w'.core inst)) :
    Runs inst Q (exec q) c := by
  refine .bind (runs_query fun w ha hc => ?_)
  obtain ⟨a, w', hw, ha', hq⟩ := h w ha hc
  exact ⟨a, w', hw, ha', runs_ofExcept hq⟩

lemma runs_read {r : Read} {Q : Except String r.Result → Core → Prop}
    (h : Q (.ok (r.eval c.db)) c) : Runs inst Q (exec (.read r)) c := by
  refine runs_exec (q := .read r) fun w ha hc => ⟨_, w, rfl, ha, ?_⟩
  subst hc
  exact h

lemma runs_fetch {f : Fetch} {Q : Except String f.Result → Core → Prop}
    (hs : ∀ a, c.remote f = some a → Q (.ok a) c)
    (hno : c.remote f = none → Q (.error "error sending request") c) :
    Runs inst Q (exec (.fetch f)) c := by
  refine runs_exec (q := .fetch f) fun w ha hc => ?_
  subst hc
  rw [answer]
  cases hf : w.remote f with
  | some a => exact ⟨_, w, rfl, ha, hs a hf⟩
  | none => exact ⟨_, w, rfl, ha, hno hf⟩

lemma runs_begin (h : Q (.ok ()) { c with tx := some c.db }) : Runs inst Q (exec .begin) c := by
  refine runs_exec (q := .begin) fun w ha hc => ⟨_, _, rfl, alone_upsert ha _ _ _, ?_⟩
  subst hc
  unfold core at h ⊢
  rw [get?_upsert, if_pos rfl]
  exact h

lemma runs_stmt {s : Stmt} {view : Db} {Q : Except String s.Result → Core → Prop}
    (ho : c.tx = some view)
    (hok : ∀ d a write, s.exec view d = .ok (a, write) →
      Q (.ok a) { c with tx := some (write.toList.foldl Write.apply view) })
    (he : ∀ d e, s.exec view d = .error e → Q (.error e) { c with tx := none }) :
    Runs inst Q (exec (.stmt s)) c := by
  refine runs_exec (q := .stmt s) fun w ha hc => ?_
  subst hc
  obtain ⟨tx, ht, hv⟩ := map_eq_some_iff.1 ho
  have hn : answer inst 0 w .ok (.stmt s) = w.statement 0 s := rfl
  rw [hn]
  unfold statement
  rw [ht]
  simp only [locked_of_alone ha, Bool.false_eq_true, if_false, hv]
  cases hx : s.exec view ⟨w.nextCursor, w.nextOutboxId, tx.startedAt⟩ with
  | error e =>
    refine ⟨_, _, rfl, ?_, ?_⟩
    · cases s <;> exact alone_dropTx ha
    · have hco : ((w.draw s).dropTx 0).core inst = { w.core inst with tx := none } := by
        cases s <;> exact core_dropTx inst _
      rw [hco]
      exact he _ e hx
  | ok x =>
    obtain ⟨a, write⟩ := x
    refine ⟨_, _, rfl, ?_, ?_⟩
    · cases s <;> exact alone_upsert ha _ _ _
    · have hco : core inst { w.draw s with
            txs := w.txs.upsert 0 fun _ => { tx with writes := tx.writes ++ write.toList } } =
          { w.core inst with tx := some (write.toList.foldl Write.apply view) } := by
        unfold core
        rw [get?_upsert, if_pos rfl, map_some]
        have hf : Tx.view w.db { tx with writes := tx.writes ++ write.toList } =
            write.toList.foldl Write.apply view := by
          rw [← hv]
          exact List.foldl_append
        cases s <;> simp only [draw, hf]
      rw [hco]
      exact hok _ a write hx

lemma runs_commit {view : Db} (ho : c.tx = some view)
    (h : Q (.ok ()) { c with db := view, tx := none }) : Runs inst Q (exec .commit) c := by
  refine runs_exec (q := .commit) fun w ha hc => ?_
  subst hc
  obtain ⟨tx, ht, hv⟩ := map_eq_some_iff.1 ho
  rw [answer, ht]
  refine ⟨_, _, rfl, alone_dropTx ha, ?_⟩
  have hco : (w.committed 0 tx).core inst = { w.core inst with db := view, tx := none } := by
    unfold core committed
    simp only [dropTx_self, ← hv]
    rfl
  rw [hco]
  exact h

lemma runs_rollback (h : Q (.ok ()) { c with tx := none }) : Runs inst Q (exec .rollback) c := by
  refine runs_exec (q := .rollback) fun w ha hc => ⟨_, w.dropTx 0, rfl, alone_dropTx ha, ?_⟩
  subst hc
  rw [core_dropTx]
  exact h

lemma runs_write {a : AutoWrite} (h : ∀ now tx, (c.tx = none → tx = none) →
      Q (.ok ()) { c with db := a.apply c.db now, tx := tx }) :
    Runs inst Q (exec (.write a)) c := by
  refine runs_exec (q := .write a) fun w ha hc => ⟨_, { w with db := a.apply w.db w.now }, rfl, ha, ?_⟩
  subst hc
  refine h w.now _ fun hno => ?_
  exact map_eq_none_iff.2 (map_eq_none_iff.1 hno)

lemma runs_writeAnyway {a : AutoWrite} (h : ∀ now tx, (c.tx = none → tx = none) →
      Q (.ok ()) { c with db := a.apply c.db now, tx := tx }) : Runs inst Q (writeAnyway a) c := by
  refine .bind (runs_query fun w ha hc => ⟨_, { w with db := a.apply w.db w.now }, rfl, ha, ?_⟩)
  subst hc
  refine runs_pure (h w.now _ fun hno => ?_)
  exact map_eq_none_iff.2 (map_eq_none_iff.1 hno)

lemma runs_persistSnapshotArtifact {s : SignedPublicClientSnapshot} (h : Q (.ok ())
      { c with artifacts := Function.update c.artifacts s.payload.nodeId (some s) }) :
    Runs inst Q (exec (.persistSnapshotArtifact s)) c := by
  refine runs_exec (q := .persistSnapshotArtifact s) fun w ha hc => ⟨_, _, rfl, ha, ?_⟩
  subst hc
  unfold core at h ⊢
  simp only [Function.update_self]
  exact h

lemma publish_core (inst : Nat) (w : World) (e : GatewayUiEvent) :
    (w.publish inst e).core inst = w.core inst ∧ (w.publish inst e).txs = w.txs := by
  unfold publish
  split
  · exact ⟨rfl, rfl⟩
  · split
    · exact ⟨rfl, rfl⟩
    · exact ⟨rfl, rfl⟩

lemma runs_publish {e : GatewayUiEvent} (h : Q (.ok ()) c) :
    Runs inst Q (exec (.publishUiEvent e)) c := by
  refine runs_exec (q := .publishUiEvent e) fun w ha hc => ⟨_, _, rfl, ?_, ?_⟩
  · unfold World.Alone
    rw [(publish_core inst w e).2]
    exact ha
  · rw [(publish_core inst w e).1, hc]
    exact h

lemma Runs.attempt {Q : Except String (Except String α) → Core → Prop}
    (h : Runs inst (fun r => Q (.ok r)) p c) : Runs inst Q p.attempt c := by
  intro w ha hc
  refine Machine.Ends.attempt (fun c => c.elim) (fun q w e w' he => ?_) (h w ha hc)
  obtain ⟨_, -, hx⟩ := map_eq_some_iff.1 he
  cases hx

lemma runs_forEach {xs : List β} {f : β → Proc Unit} {I : List β → Core → Prop} (h₀ : I [] c)
    (hs : ∀ pre x post c', xs = pre ++ x :: post → I pre c' → Runs inst (fun r c'' => match r with
        | .ok _ => I (pre ++ [x]) c''
        | .error e => Q (.error e) c'') (f x) c') (hq : ∀ c', I xs c' → Q (.ok ()) c') :
    Runs inst Q (forEach xs f) c := by
  intro _ ha hc
  refine Machine.ends_forEach (I := fun pre w' => w'.Alone ∧ I pre (w'.core inst))
    ⟨ha, hc ▸ h₀⟩ ?_ fun w' hi => ⟨hi.1, hq _ hi.2⟩
  intro pre x post w' hx hi
  refine (hs pre x post _ hx hi.2 w' hi.1 rfl).mono fun r w'' hr => ?_
  cases r with
  | ok => exact hr
  | error => exact hr

end

/-! ## A turn -/

lemma call_core {α : Type} {inst : Nat} {p : Proc α} {Q : Except String α → Core → Prop}
    (ha : w.Alone) (h : Runs inst Q p (w.core inst)) :
    (w.call inst p).Alone ∧ ∃ r c, Q r c ∧ (w.call inst p).core inst = { c with tx := none } := by
  obtain ⟨r, w', hs, ha', hq⟩ := h w ha rfl
  unfold call
  rw [hs]
  refine ⟨?_, r, w'.core inst, hq, ?_⟩
  · intro t tx ht
    exact alone_dropTx ha' t tx ht
  · show ((w'.dropTx 0).core inst) = _
    exact core_dropTx inst w'

lemma alone_start (sources : Sources) : (start sources).Alone := by
  intro _ _ ht
  cases ht

end WattGateway.Gateway
