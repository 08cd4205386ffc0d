import Mathlib.Data.List.Nodup
import Mathlib.Order.Lattice
import WattGateway.Lib.Interleave

/-!
# Transactions that update one row

Each call works on one row in a transaction of four statements: an insert that does nothing if the
row is there, a locking read, an update, and the commit. Statements may fail, and the answer to a
commit may be lost. `Inv` holds in all runs; by `Linked` the commits on a row form a chain in which
each reads what the one before has written.
-/

namespace WattGateway.RowLock

open List Option Function

variable {K R A T : Type} {inserted : Option R} {t : Nat}

structure Tx (K R A T : Type) where
  key : K
  /-- The row of the insert, at the clock reading of the statement. -/
  insert : T → R
  /-- What the locking read leads to: the row of the update, at the clock reading of that statement,
  and the answer of the call. -/
  update : R → T → (T → R) × A

/-- What a transaction has read and written, and when. -/
structure Access (R T : Type) where
  row : R
  readAt : T
  written : R
  writtenAt : T

inductive Phase (R A T : Type) where
  /-- The call has returned without a transaction. -/
  | answered (a : A)
  | begun
  | inserted
  | locked (row : R) (readAt : T)
  | updated (x : Access R T) (a : A)
  | committed (x : Access R T) (a : A)
  | failed

structure Commit (R T : Type) extends Access R T where
  call : Nat

structure State (K R A T : Type) where
  now : T
  rows : K → Option R
  /-- The call that holds the row, with the row if it has inserted it. -/
  held : K → Option (Nat × Option R)
  phases : Nat → Phase R A T
  /-- The commits on a row, newest first. -/
  log : K → List (Commit R T)

inductive Move (T : Type) where
  | tick (t : T)
  | run (t : Nat) (o : Outcome)

namespace State

/-- The table is empty, and some calls have returned before their transaction. -/
def start (now : T) (early : Nat → Option A) : State K R A T where
  now := now
  rows := fun _ => none
  held := fun _ => none
  phases := fun t => (early t).elim .begun .answered
  log := fun _ => []

def setPhase (s : State K R A T) (t : Nat) (p : Phase R A T) : State K R A T :=
  { s with phases := update s.phases t p }

/-- The call ends without an effect and gives up what it holds. -/
def rollback (s : State K R A T) (t : Nat) : State K R A T :=
  { s with held := fun k => (s.held k).filter fun h => h.1 ≠ t }.setPhase t .failed

variable [DecidableEq K]

def hold (s : State K R A T) (k : K) (t : Nat) (inserted : Option R) : State K R A T :=
  { s with held := update s.held k (some (t, inserted)) }

def commit (s : State K R A T) (k : K) (t : Nat) (x : Access R T) : State K R A T :=
  { s with
    rows := update s.rows k (some x.written)
    held := update s.held k none
    log := update s.log k ({ x with call := t } :: s.log k) }

/-- The insert: it waits if another call has inserted the row and not committed yet. -/
def insertRow (txs : Nat → Tx K R A T) (s : State K R A T) (t : Nat) : State K R A T :=
  match s.rows (txs t).key, s.held (txs t).key with
  | some _, _ => s.setPhase t .inserted
  | none, some _ => s
  | none, none =>
    (s.hold (txs t).key t (some ((txs t).insert s.now))).setPhase t .inserted

/-- The locking read: it waits if another call holds the row. -/
def lockRow (txs : Nat → Tx K R A T) (s : State K R A T) (t : Nat) : State K R A T :=
  match s.held (txs t).key, s.rows (txs t).key with
  | some (t', inserted), _ =>
    if t' = t then
      match inserted with
      | some row => s.setPhase t (.locked row s.now)
      | none => s
    else s
  | none, some row => (s.hold (txs t).key t none).setPhase t (.locked row s.now)
  | none, none => s.rollback t

variable [LinearOrder T]

def step (txs : Nat → Tx K R A T) (s : State K R A T) : Move T → State K R A T
  | .tick t => { s with now := max s.now t }
  | .run t o =>
    match s.phases t, o with
    | .answered _, _ => s
    | .committed _ _, _ => s
    | .failed, _ => s
    | .begun, .ok => s.insertRow txs t
    | .inserted, .ok => s.lockRow txs t
    | .locked row readAt, .ok =>
      let (write, a) := (txs t).update row readAt
      s.setPhase t (.updated ⟨row, readAt, write s.now, s.now⟩ a)
    | .updated x a, .ok => (s.commit (txs t).key t x).setPhase t (.committed x a)
    | .updated x _, .lost => (s.commit (txs t).key t x).setPhase t .failed
    | _, _ => s.rollback t

def run (txs : Nat → Tx K R A T) (s : State K R A T) (moves : List (Move T)) : State K R A T :=
  moves.foldl (step txs) s

end State

def Phase.Locks : Phase R A T → Prop
  | .locked _ _ => True
  | .updated _ _ => True
  | _ => False

def Phase.Ended : Phase R A T → Prop
  | .answered _ => True
  | .committed _ _ => True
  | .failed => True
  | _ => False

lemma State.setPhase_self (s : State K R A T) (t : Nat) (p : Phase R A T) :
    (s.setPhase t p).phases t = p := update_self _ _ _

lemma State.setPhase_ne {t t' : Nat} (h : t' ≠ t) (s : State K R A T) (p : Phase R A T) :
    (s.setPhase t p).phases t' = s.phases t' := update_of_ne h _ _

lemma State.start_phases (now : T) (early : Nat → Option A) (t : Nat) :
    (State.start now early : State K R A T).phases t = .begun ∨
      ∃ a, (State.start now early : State K R A T).phases t = .answered a := by
  cases h : early t with
  | none => exact .inl (by simp [State.start, h])
  | some a => exact .inr ⟨a, by simp [State.start, h]⟩

variable {p : Phase R A T}

lemma not_ended_of {s : State K R A T} (hp : s.phases t = p) (h : ¬ p.Ended) :
    ¬ (s.phases t).Ended := by
  rw [hp]
  exact h

/-! ## What a step does -/

section

variable [DecidableEq K] [LinearOrder T] {txs : Nat → Tx K R A T} {s : State K R A T}

inductive Stepped (txs : Nat → Tx K R A T) (s : State K R A T) : State K R A T → Prop
  | idle : Stepped txs s s
  | tick (t : T) : Stepped txs s { s with now := max s.now t }
  | pass (t : Nat) (hp : s.phases t = .begun) (row : R) (hrow : s.rows (txs t).key = some row) :
      Stepped txs s (s.setPhase t .inserted)
  | insert (t : Nat) (hp : s.phases t = .begun) (hrow : s.rows (txs t).key = none)
      (hheld : s.held (txs t).key = none) : Stepped txs s
        ((s.hold (txs t).key t (some ((txs t).insert s.now))).setPhase t .inserted)
  | lockOwn (t : Nat) (hp : s.phases t = .inserted) (row : R)
      (hheld : s.held (txs t).key = some (t, some row)) :
      Stepped txs s (s.setPhase t (.locked row s.now))
  | lock (t : Nat) (hp : s.phases t = .inserted) (row : R) (hrow : s.rows (txs t).key = some row)
      (hheld : s.held (txs t).key = none) :
      Stepped txs s ((s.hold (txs t).key t none).setPhase t (.locked row s.now))
  | update (t : Nat) (row : R) (readAt : T) (hp : s.phases t = .locked row readAt) : Stepped txs s
      (s.setPhase t (.updated ⟨row, readAt, ((txs t).update row readAt).1 s.now, s.now⟩
        ((txs t).update row readAt).2))
  | commit (t : Nat) (x : Access R T) (a : A) (hp : s.phases t = .updated x a) (p : Phase R A T)
      (hend : p = .committed x a ∨ p = .failed) :
      Stepped txs s ((s.commit (txs t).key t x).setPhase t p)
  | rollback (t : Nat) (hlive : ¬ (s.phases t).Ended) : Stepped txs s (s.rollback t)

lemma stepped (txs : Nat → Tx K R A T) (s : State K R A T) (move : Move T) :
    Stepped txs s (s.step txs move) := by
  cases move with
  | tick t => exact .tick t
  | run t o =>
    unfold State.step
    simp only
    split
    · exact .idle
    · exact .idle
    · exact .idle
    · rename_i hp
      unfold State.insertRow
      split
      · rename_i row hr
        exact .pass t hp row hr
      · exact .idle
      · rename_i hr hh
        exact .insert t hp hr hh
    · rename_i hp
      unfold State.lockRow
      split
      · rename_i t' inserted hh
        split
        · rename_i ht
          subst ht
          cases inserted with
          | none => exact .idle
          | some row => exact .lockOwn _ hp row hh
        · exact .idle
      · rename_i row hh hr
        exact .lock t hp row hr hh
      · refine .rollback t fun he => ?_
        rw [hp] at he
        exact he
    · rename_i row readAt hp
      exact .update t row readAt hp
    · rename_i x a hp
      exact .commit t x a hp _ (Or.inl rfl)
    · rename_i x a hp
      exact .commit t x a hp _ (Or.inr rfl)
    · rename_i ha hc hf _ _ _ _ _
      refine .rollback t fun he => ?_
      cases hp : s.phases t with
      | answered a => exact ha a hp
      | committed x a => exact hc x a hp
      | failed => exact hf hp
      | _ =>
        rw [hp] at he
        exact he

end

/-! ## The invariant -/

section

variable [LinearOrder T] {txs : Nat → Tx K R A T} {s : State K R A T}

/-- A call reads the row after the commit `last`, or the row of its own insert if there is none. -/
def Reads (txs : Nat → Tx K R A T) (t : Nat) (last : Option (Commit R T)) (row : R) (readAt : T) :
    Prop :=
  match last with
  | none => ∃ insertedAt ≤ readAt, row = (txs t).insert insertedAt
  | some c => row = c.written ∧ c.writtenAt ≤ readAt

structure Accesses (txs : Nat → Tx K R A T) (t : Nat) (last : Option (Commit R T)) (x : Access R T) :
    Prop where
  reads : Reads txs t last x.row x.readAt
  ordered : x.readAt ≤ x.writtenAt
  written : x.written = ((txs t).update x.row x.readAt).1 x.writtenAt

/-- Each commit reads what the one before has written. -/
def Linked (txs : Nat → Tx K R A T) : List (Commit R T) → Prop
  | [] => True
  | c :: rest => Accesses txs c.call rest.head? c.toAccess ∧ Linked txs rest

def Holds (txs : Nat → Tx K R A T) (s : State K R A T) (t : Nat) (inserted : Option R) : Prop :=
  match s.phases t with
  | .inserted => s.rows (txs t).key = none ∧
      ∃ insertedAt ≤ s.now, inserted = some ((txs t).insert insertedAt)
  | .locked row readAt => readAt ≤ s.now ∧ Reads txs t (s.log (txs t).key).head? row readAt
  | .updated x a => x.writtenAt ≤ s.now ∧ Accesses txs t (s.log (txs t).key).head? x ∧
      a = ((txs t).update x.row x.readAt).2
  | _ => False

structure Inv (txs : Nat → Tx K R A T) (s : State K R A T) : Prop where
  held : ∀ k t inserted, s.held k = some (t, inserted) → (txs t).key = k ∧ Holds txs s t inserted
  locks : ∀ t, (s.phases t).Locks → ∃ inserted, s.held (txs t).key = some (t, inserted)
  rows : ∀ k, s.rows k = (s.log k).head?.map fun c => c.written
  linked : ∀ k, Linked txs (s.log k)
  times : ∀ k, ∀ c ∈ s.log k, c.writtenAt ≤ s.now
  calls : ∀ k, ∀ c ∈ s.log k, (txs c.call).key = k ∧ (s.phases c.call).Ended
  nodup : ∀ k, ((s.log k).map Commit.call).Nodup
  committed : ∀ t x a, s.phases t = .committed x a →
    { x with call := t } ∈ s.log (txs t).key ∧ a = ((txs t).update x.row x.readAt).2

lemma inv_start (txs : Nat → Tx K R A T) (now : T) (early : Nat → Option A) :
    Inv txs (.start now early) where
  held _ _ _ h := nomatch h
  locks t h := by
    rcases State.start_phases (K := K) (R := R) now early t with hp | ⟨a, hp⟩
    · rw [hp] at h
      exact h.elim
    · rw [hp] at h
      exact h.elim
  rows _ := rfl
  linked _ := trivial
  times _ _ h := nomatch h
  calls _ _ h := nomatch h
  nodup _ := nodup_nil
  committed t _ _ h := by
    rcases State.start_phases (K := K) (R := R) now early t with hp | ⟨_, hp⟩
    · cases hp.symm.trans h
    · cases hp.symm.trans h

lemma Holds.mono {s' : State K R A T} (h : Holds txs s t inserted)
    (hp : s'.phases t = s.phases t) (hn : s.now ≤ s'.now)
    (ho : s'.rows (txs t).key = s.rows (txs t).key)
    (hl : s'.log (txs t).key = s.log (txs t).key) : Holds txs s' t inserted := by
  unfold Holds at h ⊢
  rw [hp, ho, hl]
  split at h
  · obtain ⟨hr, insertedAt, hle, hi⟩ := h
    exact ⟨hr, insertedAt, hle.trans hn, hi⟩
  · exact ⟨h.1.trans hn, h.2⟩
  · exact ⟨h.1.trans hn, h.2⟩
  · exact h

variable {s' : State K R A T}

section

variable (h : Inv txs s)
include h

lemma Inv.move (hi : ¬ (s.phases t).Ended) (hn : s'.now = s.now)
    (hr : s'.rows = s.rows) (hg : s'.log = s.log)
    (hph : ∀ t' ≠ t, s'.phases t' = s.phases t') (hnot : ∀ x a, s'.phases t ≠ .committed x a)
    (hhe : ∀ k t' inserted, s'.held k = some (t', inserted) →
      t' ≠ t ∧ s.held k = some (t', inserted) ∨ t' = t ∧ (txs t).key = k ∧ Holds txs s' t inserted)
    (hot : ∀ k t' inserted, t' ≠ t → s.held k = some (t', inserted) →
      s'.held k = some (t', inserted))
    (hlo : (s'.phases t).Locks → ∃ inserted, s'.held (txs t).key = some (t, inserted)) :
    Inv txs s' where
  held k t' inserted hk := by
    rcases hhe k t' inserted hk with ⟨hne, hold⟩ | ⟨rfl, hy, ho⟩
    · obtain ⟨hy, hh⟩ := h.held k t' inserted hold
      exact ⟨hy, hh.mono (hph t' hne) (le_of_eq hn.symm) (by rw [hr]) (by rw [hg])⟩
    · exact ⟨hy, ho⟩
  locks t' hl := by
    by_cases ht : t' = t
    · subst ht
      exact hlo hl
    · rw [hph t' ht] at hl
      obtain ⟨inserted, hold⟩ := h.locks t' hl
      exact ⟨inserted, hot _ t' inserted ht hold⟩
  rows k := by rw [hr, hg, h.rows]
  linked k := by rw [hg]; exact h.linked k
  times k c hc := by rw [hg] at hc; rw [hn]; exact h.times k c hc
  calls k c hc := by
    rw [hg] at hc
    obtain ⟨hy, he⟩ := h.calls k c hc
    have hne : c.call ≠ t := fun heq => hi (heq ▸ he)
    rw [hph c.call hne]
    exact ⟨hy, he⟩
  nodup k := by rw [hg]; exact h.nodup k
  committed t' x a hp := by
    have hne : t' ≠ t := fun heq => hnot x a (heq ▸ hp)
    rw [hph t' hne] at hp
    rw [hg]
    exact h.committed t' x a hp

lemma Inv.tick (now : T) : Inv txs { s with now := max s.now now } :=
  { h with
    held := fun k t inserted hk => by
      obtain ⟨he, hh⟩ := h.held k t inserted hk
      exact ⟨he, hh.mono rfl (le_max_left _ _) rfl rfl⟩
    times := fun k c hc => (h.times k c hc).trans (le_max_left _ _) }

lemma Inv.reads {row : R} (hrow : s.rows (txs t).key = some row) :
    Reads txs t (s.log (txs t).key).head? row s.now := by
  rw [h.rows] at hrow
  obtain ⟨c, hc, hw⟩ := map_eq_some_iff.1 hrow
  rw [hc]
  exact ⟨hw.symm, h.times _ c (mem_of_mem_head? hc)⟩

lemma Inv.not_held (hp : s.phases t = .begun) {k : K} : s.held k ≠ some (t, inserted) := by
  intro hk
  have hh := (h.held k t inserted hk).2
  unfold Holds at hh
  rw [hp] at hh
  exact hh

lemma Inv.rollback (hi : ¬ (s.phases t).Ended) : Inv txs (s.rollback t) := by
  have hs : (s.rollback t).phases t = .failed := State.setPhase_self _ t _
  refine h.move hi rfl rfl rfl (fun t' ht => State.setPhase_ne ht _ _) (fun x a hx => ?_)
    (fun k t' ins hk => ?_) (fun k t' ins ht hk => ?_) (fun hl => ?_)
  · cases hs.symm.trans hx
  · obtain ⟨hold, hne⟩ := filter_eq_some_iff.1 hk
    exact .inl ⟨of_decide_eq_true hne, hold⟩
  · exact filter_eq_some_iff.2 ⟨hk, decide_eq_true ht⟩
  · rw [hs] at hl
    exact hl.elim

lemma Inv.setPhase (hi : ¬ (s.phases t).Ended)
    (hn : ∀ x a, p ≠ .committed x a) (ho : ∀ inserted, s.held (txs t).key = some (t, inserted) →
      Holds txs (s.setPhase t p) t inserted)
    (hlo : p.Locks → ∃ inserted, s.held (txs t).key = some (t, inserted)) :
    Inv txs (s.setPhase t p) := by
  refine h.move hi rfl rfl rfl (fun t' ht => State.setPhase_ne ht s p) (fun x a hx => ?_)
    (fun k t' ins hk => ?_) (fun k t' ins _ hk => hk) (fun hl => ?_)
  · rw [State.setPhase_self] at hx
    exact hn x a hx
  · by_cases ht : t' = t
    · subst ht
      obtain ⟨rfl, -⟩ := h.held k t' ins hk
      exact .inr ⟨rfl, rfl, ho ins hk⟩
    · exact .inl ⟨ht, hk⟩
  · rw [State.setPhase_self] at hl
    exact hlo hl

end

end

section

variable [DecidableEq K] [LinearOrder T] {txs : Nat → Tx K R A T} {s : State K R A T}

lemma Inv.commit (h : Inv txs s) {x : Access R T} {a : A} (hp : s.phases t = .updated x a)
    (hend : p = .committed x a ∨ p = .failed) :
    Inv txs ((s.commit (txs t).key t x).setPhase t p) := by
  have hlo : (s.phases t).Locks := by
    rw [hp]
    trivial
  obtain ⟨inserted, hi⟩ := h.locks t hlo
  have hh := (h.held _ t inserted hi).2
  unfold Holds at hh
  rw [hp] at hh
  obtain ⟨hn, hacc, ha⟩ := hh
  have he : p.Ended := by
    rcases hend with rfl | rfl <;> trivial
  have hf : ∀ k, ∀ c ∈ s.log k, c.call ≠ t := by
    intro k c hc heq
    have hd := (h.calls k c hc).2
    rw [heq, hp] at hd
    exact hd
  -- what changes is the row, its lock and its log; other rows are as before
  have ho : ∀ k, ((s.commit (txs t).key t x).setPhase t p).log k =
      if k = (txs t).key then { x with call := t } :: s.log k else s.log k := by
    intro k
    by_cases hk : k = (txs t).key
    · subst hk
      rw [if_pos rfl]
      exact update_self _ _ _
    · rw [if_neg hk]
      exact update_of_ne hk _ _
  refine ⟨fun k t' ins hk => ?_, fun t' hl => ?_, fun k => ?_, fun k => ?_, fun k c hc => ?_,
    fun k c hc => ?_, fun k => ?_, fun t' y b hy => ?_⟩
  · have hne : k ≠ (txs t).key := by
      rintro rfl
      have hno : ((s.commit (txs t).key t x).setPhase t p).held (txs t).key = none :=
        update_self _ _ _
      cases hno.symm.trans hk
    have hold : s.held k = some (t', ins) := (update_of_ne hne _ _).symm.trans hk
    obtain ⟨hkey, hh⟩ := h.held k t' ins hold
    have ht : t' ≠ t := fun heq => hne (heq ▸ hkey.symm)
    subst hkey
    refine ⟨rfl, hh.mono (State.setPhase_ne ht _ _) le_rfl (update_of_ne hne _ _) ?_⟩
    rw [ho, if_neg hne]
  · have ht : t' ≠ t := by
      rintro rfl
      rw [State.setPhase_self] at hl
      rcases hend with rfl | rfl <;> exact hl
    rw [State.setPhase_ne ht] at hl
    obtain ⟨ins, hold⟩ := h.locks t' hl
    have hne : (txs t').key ≠ (txs t).key := by
      intro heq
      rw [heq, hi] at hold
      exact ht (congrArg Prod.fst (Option.some.inj hold)).symm
    exact ⟨ins, (update_of_ne hne _ _).trans hold⟩
  · rw [ho]
    by_cases hk : k = (txs t).key
    · subst hk
      rw [if_pos rfl]
      exact update_self _ _ _
    · rw [if_neg hk]
      exact (update_of_ne hk _ _).trans (h.rows k)
  · rw [ho]
    split
    · rename_i hk
      subst hk
      exact ⟨hacc, h.linked _⟩
    · exact h.linked k
  · rw [ho] at hc
    split at hc
    · rcases mem_cons.1 hc with rfl | hc
      · exact hn
      · exact h.times k c hc
    · exact h.times k c hc
  · have hold : ∀ c ∈ s.log k, (txs c.call).key = k ∧
        (((s.commit (txs t).key t x).setPhase t p).phases c.call).Ended := by
      intro c hc
      rw [State.setPhase_ne (hf k c hc)]
      exact h.calls k c hc
    rw [ho] at hc
    split at hc
    · rename_i hk
      rcases mem_cons.1 hc with rfl | hc
      · rw [State.setPhase_self]
        exact ⟨hk.symm, he⟩
      · exact hold c hc
    · exact hold c hc
  · rw [ho]
    split
    · refine nodup_cons.2 ⟨fun hm => ?_, h.nodup k⟩
      obtain ⟨c, hc, hca⟩ := mem_map.1 hm
      exact hf k c hc hca
    · exact h.nodup k
  · by_cases ht : t' = t
    · subst ht
      rw [State.setPhase_self] at hy
      rw [ho, if_pos rfl]
      rcases hend with rfl | rfl
      · cases hy
        exact ⟨mem_cons_self, ha⟩
      · cases hy
    · rw [State.setPhase_ne ht] at hy
      obtain ⟨hm, hb⟩ := h.committed t' y b hy
      refine ⟨?_, hb⟩
      rw [ho]
      split
      · exact mem_cons_of_mem _ hm
      · exact hm

lemma Inv.hold (h : Inv txs s) (hli : ¬ (s.phases t).Ended)
    (hnot : ∀ x a, p ≠ .committed x a) (hfr : s.held (txs t).key = none)
    (hown : Holds txs ((s.hold (txs t).key t inserted).setPhase t p) t inserted) :
    Inv txs ((s.hold (txs t).key t inserted).setPhase t p) := by
  have hs : (s.hold (txs t).key t inserted).held (txs t).key = some (t, inserted) :=
    update_self _ _ _
  refine h.move hli rfl rfl rfl (fun t' ht => State.setPhase_ne ht _ p) (fun x a hx => ?_)
    (fun k t' ins hk => ?_) (fun k t' ins _ hk => ?_) (fun _ => ⟨inserted, hs⟩)
  · rw [State.setPhase_self] at hx
    exact hnot x a hx
  · by_cases he : k = (txs t).key
    · subst he
      cases hs.symm.trans hk
      exact .inr ⟨rfl, rfl, hown⟩
    · have hold : s.held k = some (t', ins) := (update_of_ne he _ _).symm.trans hk
      refine .inl ⟨fun ht => he ?_, hold⟩
      exact (ht ▸ (h.held k t' ins hold).1).symm
  · have he : k ≠ (txs t).key := by
      rintro rfl
      cases hfr.symm.trans hk
    exact (update_of_ne he _ _).trans hk

lemma Inv.stepped (h : Inv txs s) {s' : State K R A T} (hs : Stepped txs s s') : Inv txs s' := by
  cases hs with
  | idle => exact h
  | tick now => exact h.tick now
  | pass _ hp =>
    have hli := not_ended_of hp id
    exact h.setPhase hli (fun x a => nofun) (fun ins hk => absurd hk (h.not_held hp)) (fun hl => hl.elim)
  | insert _ hp hr hhe =>
    have hli := not_ended_of hp id
    refine h.hold hli (fun x a => nofun) hhe ?_
    unfold Holds
    rw [State.setPhase_self]
    exact ⟨hr, s.now, le_rfl, rfl⟩
  | lockOwn t hp row hhe =>
    have hli := not_ended_of hp id
    refine h.setPhase hli (fun x a => nofun) (fun ins hk => ?_) (fun _ => ⟨some row, hhe⟩)
    have hh := (h.held _ t _ hhe).2
    unfold Holds at hh ⊢
    rw [hp] at hh
    rw [State.setPhase_self]
    obtain ⟨hr, insertedAt, hle, hi⟩ := hh
    have hm : (s.log (txs t).key).head? = none := by
      rw [h.rows] at hr
      exact map_eq_none_iff.1 hr
    refine ⟨le_rfl, ?_⟩
    show Reads txs t (s.log (txs t).key).head? row s.now
    rw [hm]
    exact ⟨insertedAt, hle, Option.some.inj hi⟩
  | lock _ hp _ hr hhe =>
    have hli := not_ended_of hp id
    refine h.hold hli (fun x a => nofun) hhe ?_
    unfold Holds
    rw [State.setPhase_self]
    exact ⟨le_rfl, h.reads hr⟩
  | update t _ _ hp =>
    have hli := not_ended_of hp id
    refine h.setPhase hli (fun x a => nofun) (fun ins hk => ?_) (fun _ => h.locks t ?_)
    · have hh := (h.held _ t _ hk).2
      unfold Holds at hh ⊢
      rw [hp] at hh
      rw [State.setPhase_self]
      exact ⟨le_rfl, ⟨hh.2, hh.1, rfl⟩, rfl⟩
    · rw [hp]
      trivial
  | commit _ _ _ hp _ he => exact h.commit hp he
  | rollback _ hli => exact h.rollback hli

lemma inv_run (txs : Nat → Tx K R A T) (now : T) (early : Nat → Option A)
    (moves : List (Move T)) : Inv txs ((State.start now early).run txs moves) := by
  induction moves using List.reverseRecOn with
  | nil => exact inv_start txs now early
  | append_singleton _ move ih =>
    unfold State.run at ih ⊢
    rw [foldl_append]
    exact ih.stepped (stepped txs _ move)

lemma Stepped.answered {s' : State K R A T} (hs : Stepped txs s s') {a : A}
    (h : s'.phases t = .answered a) : s.phases t = .answered a := by
  have hset : ∀ {s₁ : State K R A T} {t' : Nat} {p : Phase R A T}, s₁.phases = s.phases →
      (s₁.setPhase t' p).phases t = .answered a → p = .answered a ∨ s.phases t = .answered a := by
    intro _ t' _ ha hp
    by_cases ht : t = t'
    · subst ht
      rw [State.setPhase_self] at hp
      exact .inl hp
    · rw [State.setPhase_ne ht, ha] at hp
      exact .inr hp
  cases hs with
  | idle => exact h
  | tick => exact h
  | commit _ _ _ hp _ he =>
    refine (hset rfl h).resolve_left fun hp => ?_
    rcases he with rfl | rfl <;> cases hp
  | _ => exact (hset rfl h).resolve_left nofun

lemma answered_run (now : T) (early : Nat → Option A) (moves : List (Move T)) {a : A}
    (h : ((State.start now early).run txs moves).phases t = .answered a) : early t = some a := by
  induction moves using List.reverseRecOn with
  | nil =>
    cases he : early t with
    | none => simp [State.run, State.start, he] at h
    | some => simpa [State.run, State.start, he] using h
  | append_singleton _ move ih =>
    unfold State.run at ih h
    rw [foldl_append] at h
    exact ih ((stepped txs _ move).answered h)

lemma run_alone (txs : Nat → Tx K R A T) (hp : s.phases t = .begun) (hf : s.held (txs t).key = none) :
    let row := (s.rows (txs t).key).getD ((txs t).insert s.now)
    let update := (txs t).update row s.now
    let s' := s.run txs (List.replicate 4 (.run t .ok))
    s'.rows (txs t).key = some (update.1 s.now) ∧ s'.held (txs t).key = none ∧
      s'.phases t = .committed ⟨row, s.now, update.1 s.now, s.now⟩ update.2 := by
  intro row update s'
  cases hr : s.rows (txs t).key with
  | none | some =>
    simp [s', row, update, hr, List.replicate, State.run, State.step, hp, State.insertRow, hf,
      State.setPhase, State.hold, State.lockRow, State.commit]

end

end WattGateway.RowLock
