import WattGateway.Gateway.Traces

/-!
# The life of an event row

A row of `gateway_ui_events` is inserted in an open transaction, which draws its cursor, and is in
the table once that is committed. `EventStep` says what a step of any call may do to such rows. The
unique index keeps event ids apart (`EventRows`), so a row stays as it is (`EventStep.row_stays`),
and a new row has a cursor above all that were drawn before.
-/

namespace WattGateway.Gateway

open List Table

variable {row : UiEventRow} {eventId : String} {t' : Nat}

def World.InTx (w : World) (t : Nat) (eventId : String) (row : UiEventRow) : Prop :=
  ∃ tx, w.txs.get? t = some tx ∧ .uiEvent eventId row ∈ tx.writes

/-! ## The table that a transaction sees -/

section

variable {db : Db} {writes : List Write}

lemma uiEvents_apply (write : Write) : (write.apply db).uiEvents.get? eventId =
    match write with
    | .uiEvent eventId' row => if eventId = eventId' then some row else db.uiEvents.get? eventId
    | _ => db.uiEvents.get? eventId := by
  cases write with
  | uiEvent eventId' row =>
    show (db.uiEvents.upsert eventId' fun _ => row).get? eventId = _
    rw [get?_upsert]
  | _ => rfl

lemma uiEvents_foldl_of_not (h : ∀ row, Write.uiEvent eventId row ∉ writes) :
    (writes.foldl Write.apply db).uiEvents.get? eventId = db.uiEvents.get? eventId := by
  induction writes generalizing db with
  | nil => rfl
  | cons write writes ih =>
    rw [foldl_cons, ih fun row hr => h row (mem_cons_of_mem _ hr), uiEvents_apply]
    split
    · rename_i eventId' row
      refine if_neg fun heq => h row ?_
      rw [heq]
      exact mem_cons_self
    · rfl

lemma uiEvents_foldl_of_mem (hr : Write.uiEvent eventId row ∈ writes)
    (ho : ∀ row', Write.uiEvent eventId row' ∈ writes → row' = row) :
    (writes.foldl Write.apply db).uiEvents.get? eventId = some row := by
  induction writes generalizing db with
  | nil => cases hr
  | cons write writes ih =>
    rw [foldl_cons]
    by_cases hl : Write.uiEvent eventId row ∈ writes
    · exact ih hl fun row' hr' => ho row' (mem_cons_of_mem _ hr')
    · have hf : write = .uiEvent eventId row :=
        ((mem_cons.1 hr).resolve_right hl).symm
      have hno : ∀ row', Write.uiEvent eventId row' ∉ writes := fun row' hr' =>
        hl (ho row' (mem_cons_of_mem _ hr') ▸ hr')
      rw [uiEvents_foldl_of_not hno, hf, uiEvents_apply]
      exact if_pos rfl

lemma uiEvents_foldl_eq_none (h : (writes.foldl Write.apply db).uiEvents.get? eventId = none) :
    db.uiEvents.get? eventId = none ∧ ∀ row, Write.uiEvent eventId row ∉ writes := by
  induction writes generalizing db with
  | nil => exact ⟨h, fun _ hr => by cases hr⟩
  | cons write writes ih =>
    obtain ⟨hd, hno⟩ := ih h
    rw [uiEvents_apply] at hd
    split at hd
    · split at hd
      · cases hd
      · rename_i hne
        refine ⟨hd, fun row' hr => ?_⟩
        rcases mem_cons.1 hr with heq | hr
        · cases heq
          exact hne rfl
        · exact hno row' hr
    · rename_i ho
      refine ⟨hd, fun row' hr => ?_⟩
      rcases mem_cons.1 hr with heq | hr
      · exact ho _ _ heq.symm
      · exact hno row' hr

end

/-! ## What a step does to event rows -/

/-- What a step of call `t` may do. -/
inductive EventStep (t : Nat) (w w' : World) : Prop
  /-- The table stays, and transactions may be closed. -/
  | keeps (hdb : w'.db.uiEvents = w.db.uiEvents)
      (htx : ∀ t' eventId row, w'.InTx t' eventId row → w.InTx t' eventId row)
      (hcursor : w.nextCursor ≤ w'.nextCursor)
  /-- A row is inserted, under an id that is free and with the cursor that is next. -/
  | inserts (r : UiEventRecord) (now : Nat) (hdb : w'.db.uiEvents = w.db.uiEvents)
      (htx : ∀ t' eventId row, w'.InTx t' eventId row → w.InTx t' eventId row ∨
        t' = t ∧ eventId = r.eventId ∧ row = r.row w.nextCursor now)
      (hcursor : w.nextCursor < w'.nextCursor)
      (hfree : w.db.uiEvents.get? r.eventId = none)
      (hunlocked : ∀ t' row, ¬ w.InTx t' r.eventId row)
  /-- The rows of the transaction of the call are put into the table. -/
  | commits (tx : Tx) (hopen : w.txs.get? t = some tx)
      (hdb : w'.db.uiEvents = (tx.view w.db).uiEvents)
      (htx : ∀ t' eventId row, w'.InTx t' eventId row → w.InTx t' eventId row ∧ t' ≠ t)
      (hcursor : w.nextCursor ≤ w'.nextCursor)

section

variable {w w' : World} {t inst : Nat} {o : Outcome}
lemma inTx_of_dropTx (h : (w.dropTx t).InTx t' eventId row) : w.InTx t' eventId row ∧ t' ≠ t := by
  obtain ⟨tx, ht, hr⟩ := h
  refine ⟨⟨tx, w.get?_of_dropTx t ht, hr⟩, ?_⟩
  rintro rfl
  rw [World.dropTx_self] at ht
  cases ht

lemma EventStep.dropTx (h : EventStep t w w') (t' : Nat) : EventStep t w (w'.dropTx t') := by
  cases h with
  | keeps hd ht hc =>
    exact .keeps hd (fun t'' id row h => ht t'' id row (inTx_of_dropTx h).1) hc
  | inserts r now hd ht hc hf hu =>
    exact .inserts r now hd (fun t'' id row h => ht t'' id row (inTx_of_dropTx h).1) hc hf
      hu
  | commits tx ho hd ht hc =>
    exact .commits tx ho hd (fun t'' id row h => ht t'' id row (inTx_of_dropTx h).1) hc

lemma EventStep.congr {w'' : World} (h : EventStep t w w')
    (hd : w''.db.uiEvents = w'.db.uiEvents) (ht : w''.txs = w'.txs)
    (hc : w''.nextCursor = w'.nextCursor) : EventStep t w w'' := by
  have hx : ∀ t' eventId row, w''.InTx t' eventId row → w'.InTx t' eventId row :=
    fun _ _ _ ⟨tx, ho, hr⟩ => ⟨tx, ht ▸ ho, hr⟩
  cases h with
  | keeps hd' hx' hc' =>
    exact .keeps (hd.trans hd') (fun t' id row h => hx' t' id row (hx t' id row h))
      (hc ▸ hc')
  | inserts r now hd' hx' hc' hf hu =>
    exact .inserts r now (hd.trans hd') (fun t' id row h => hx' t' id row (hx t' id row h))
      (hc ▸ hc') hf hu
  | commits tx ho hd' hx' hc' =>
    exact .commits tx ho (hd.trans hd') (fun t' id row h => hx' t' id row (hx t' id row h))
      (hc ▸ hc')

lemma eventStep_refl (t : Nat) (w : World) : EventStep t w w :=
  .keeps rfl (fun _ _ _ h => h) (Nat.le_refl _)

lemma inTx_upsert {tx : Tx} {write : Option Write} (ho : w.txs.get? t = some tx)
    (ht : w'.txs = w.txs.upsert t fun _ => { tx with writes := tx.writes ++ write.toList })
    (h : w'.InTx t' eventId row) :
    w.InTx t' eventId row ∨ t' = t ∧ write = some (.uiEvent eventId row) := by
  obtain ⟨tx', hx', hr⟩ := h
  rw [ht, get?_upsert] at hx'
  split at hx'
  · rename_i heq
    cases hx'
    rcases mem_append.1 hr with hold | hn
    · exact .inl ⟨tx, heq ▸ ho, hold⟩
    · exact .inr ⟨heq, Option.mem_toList.1 hn⟩
  · exact .inl ⟨tx', hx', hr⟩

lemma nextCursor_draw (st : Stmt) : w.nextCursor ≤ (w.draw st).nextCursor := by
  cases st with
  | insertUiEvent => exact Nat.le_succ _
  | _ => exact Nat.le_refl _

lemma not_inTx_of_unlocked (h : ¬ w.locked t (.uiEvent eventId) = true) (hne : t' ≠ t) :
    ¬ w.InTx t' eventId row := by
  rintro ⟨tx, ho, hr⟩
  refine h (any_eq_true.2 ⟨(t', tx), get?_eq_some.1 ho, ?_⟩)
  rw [Bool.and_eq_true, decide_eq_true_eq]
  exact ⟨hne, any_eq_true.2 ⟨_, hr, decide_eq_true rfl⟩⟩

lemma eventStep_statement {st : Stmt} {x : Except String st.Result}
    (ha : w.statement t st = some (x, w')) : EventStep t w w' := by
  unfold World.statement at ha
  split at ha
  · cases ha
    exact eventStep_refl t w
  rename_i tx hop
  split at ha
  · cases ha
  rename_i hu
  split at ha
  · cases ha
    have hdr : EventStep t w (w.draw st) :=
      .keeps (by cases st <;> rfl) (by cases st <;> exact fun _ _ _ h => h) (nextCursor_draw st)
    exact hdr.dropTx t
  · rename_i a write he
    cases ha
    have hd : (w.draw st).db.uiEvents = w.db.uiEvents := by cases st <;> rfl
    by_cases hw : ∃ eventId row, write = some (.uiEvent eventId row)
    · obtain ⟨eventId, row, rfl⟩ := hw
      cases st with
      | insertUiEvent r =>
        rw [Stmt.exec] at he
        split at he
        · rename_i hv
          cases he
          obtain ⟨hf, ho⟩ := uiEvents_foldl_eq_none hv
          refine .inserts r tx.startedAt rfl (fun t' eventId row h => ?_) (Nat.lt_succ_self _) hf
            fun t' row h => ?_
          · refine (inTx_upsert hop rfl h).imp_right fun hn => ?_
            cases hn.2
            exact ⟨hn.1, rfl, rfl⟩
          · by_cases hne : t' = t
            · obtain ⟨_, hop', hr⟩ := h
              rw [hne, hop] at hop'
              cases hop'
              exact ho row hr
            · exact not_inTx_of_unlocked hu hne h
        · cases he
      | _ => exact (writes_of_exec he).elim
    · refine .keeps hd (fun t' eventId row h => ?_) (nextCursor_draw st)
      exact (inTx_upsert hop rfl h).resolve_right fun hn => hw ⟨_, _, hn.2⟩

lemma eventStep_answer {q : Query} {x : Ans q} (ha : answer inst t w o q = some (x, w')) :
    EventStep t w w' := by
  by_cases hq : q.Writes
  · cases q with
    | stmt =>
      rw [answer] at ha
      split at ha
      · exact eventStep_statement ha
      · cases ha
        exact (eventStep_refl t w).dropTx t
    | commit =>
      rw [answer] at ha
      split at ha
      · cases ha
        exact eventStep_refl t w
      · rename_i tx hop
        have ho : EventStep t w (w.committed t tx) :=
          .commits tx hop rfl (fun _ _ _ h => inTx_of_dropTx (w := w) h) (Nat.le_refl _)
        cases o <;> cases ha
        · exact ho
        · exact (eventStep_refl t w).dropTx t
        · exact (eventStep_refl t w).dropTx t
        · exact ho
    | write a =>
      obtain ⟨ht, hd⟩ := write_cases ha
      refine .keeps ?_ (fun _ _ _ h => ?_) ?_
      · rcases hd with hd | ⟨hd, -⟩
        · rw [hd]
          cases a <;> rfl
        · rw [hd]
      · obtain ⟨tx, hop, hr⟩ := h
        exact ⟨tx, ht ▸ hop, hr⟩
      · cases o <;> cases ha <;> exact Nat.le_refl _
    | _ => exact hq.elim
  · obtain ⟨hd, ht, hc⟩ := other_cases hq ha
    refine .keeps (by rw [hd]) (fun t' eventId row h => ?_)
      (Nat.le_of_eq hc.symm)
    obtain ⟨tx, hop, hr⟩ := h
    rcases ht t' tx hop with hop' | ⟨-, he⟩
    · exact ⟨tx, hop', hr⟩
    · rw [he] at hr
      cases hr

lemma eventStep_step (instances : Nat → Nat) (s : GatewaySys) (a : Action Env) :
    ∃ t, EventStep t s.world (s.step (machine instances) a).world := by
  rcases gateway_step instances s a with hs | ⟨e, -, hs⟩ | ⟨t, _, q, k, x, w, -, -, ha, hs⟩
  · rw [hs]
    exact ⟨0, eventStep_refl 0 _⟩
  · rw [hs]
    cases e with
    | tick | serve => exact ⟨0, (eventStep_refl 0 s.world).congr rfl rfl rfl⟩
    | disconnect t => exact ⟨t, (eventStep_refl t s.world).dropTx t⟩
  · refine ⟨t, ?_⟩
    rw [hs]
    rcases settle_world instances t (s.advance t (k x) (s.world.now, .heard q x) w) with he | he
    · rw [he]
      exact eventStep_answer ha
    · rw [he]
      exact ((eventStep_answer ha).dropTx t).congr rfl rfl rfl

end

/-! ## Rows under their ids -/

/-- Open transactions have inserted under ids that are free in the table, each under its own, and no
cursor is used twice. -/
structure EventRows (w : World) : Prop where
  free : ∀ t eventId row, w.InTx t eventId row → w.db.uiEvents.get? eventId = none
  single : ∀ t t' eventId row row', w.InTx t eventId row → w.InTx t' eventId row' →
    t = t' ∧ row = row'
  below : ∀ eventId row, w.Holds (.row (.uiEvent eventId row)) → row.cursor < w.nextCursor
  distinct : ∀ eventId row eventId' row', w.Holds (.row (.uiEvent eventId row)) →
    w.Holds (.row (.uiEvent eventId' row')) → row.cursor = row'.cursor → eventId = eventId'

section

variable {w w' : World} {t : Nat}

lemma holds_of_inTx (h : w.InTx t eventId row) : w.Holds (.row (.uiEvent eventId row)) :=
  Or.inr ⟨t, h⟩

lemma EventStep.held (h : EventStep t w w') : ∃ new : Option (String × UiEventRow),
    (∀ row ∈ new, row.2.cursor = w.nextCursor ∧ w.nextCursor < w'.nextCursor) ∧
      ∀ eventId row, w'.Holds (.row (.uiEvent eventId row)) →
        w.Holds (.row (.uiEvent eventId row)) ∨ new = some (eventId, row) := by
  cases h with
  | keeps hd ht =>
    refine ⟨none, fun _ h => (by cases h), fun eventId row hr => .inl ?_⟩
    rcases hr with hr | ⟨t', hr⟩
    · exact .inl (show w.db.uiEvents.get? _ = _ from hd ▸ hr)
    · exact holds_of_inTx (ht t' eventId row hr)
  | inserts r now hd ht hc _ _ =>
    refine ⟨some (r.eventId, r.row w.nextCursor now), ?_, fun eventId row hr => ?_⟩
    · rintro _ ⟨⟩
      exact ⟨rfl, hc⟩
    · rcases hr with hr | ⟨t', hr⟩
      · exact .inl (Or.inl (show w.db.uiEvents.get? _ = _ from hd ▸ hr))
      · rcases ht t' eventId row hr with hold | ⟨-, rfl, rfl⟩
        · exact .inl (holds_of_inTx hold)
        · exact .inr rfl
  | commits tx ho hd ht =>
    refine ⟨none, fun _ h => (by cases h), fun eventId row hr => .inl ?_⟩
    rcases hr with hr | ⟨t', hr⟩
    · have hv : (tx.view w.db).Has (.uiEvent eventId row) :=
        show (tx.view w.db).uiEvents.get? eventId = some row from hd ▸ hr
      rcases has_view hv with hm | hold
      · exact holds_of_inTx ⟨tx, ho, hm⟩
      · exact .inl hold
    · exact holds_of_inTx (ht t' eventId row hr).1

lemma EventStep.nextCursor_le (h : EventStep t w w') : w.nextCursor ≤ w'.nextCursor := by
  cases h with
  | keeps _ _ hc => exact hc
  | inserts _ _ _ _ hc => exact Nat.le_of_lt hc
  | commits _ _ _ _ hc => exact hc

lemma EventStep.row_stays (h : EventStep t w w') (hw : EventRows w)
    (hr : w.db.uiEvents.get? eventId = some row) : w'.db.uiEvents.get? eventId = some row := by
  cases h with
  | keeps hd => rw [hd, hr]
  | inserts _ _ hd => rw [hd, hr]
  | commits tx ho hd =>
    rw [hd, Tx.view, uiEvents_foldl_of_not, hr]
    intro row' hr'
    have hf := hw.free t eventId row' ⟨tx, ho, hr'⟩
    rw [hr] at hf
    cases hf

lemma EventRows.view_eq {tx : Tx} (hw : EventRows w) (ho : w.txs.get? t = some tx)
    (hr : .uiEvent eventId row ∈ tx.writes) : (tx.view w.db).uiEvents.get? eventId = some row :=
  uiEvents_foldl_of_mem hr fun row' hr' =>
    (hw.single t t eventId row' row ⟨tx, ho, hr'⟩ ⟨tx, ho, hr⟩).2

lemma EventRows.step (hw : EventRows w) (h : EventStep t w w') : EventRows w' := by
  obtain ⟨_, hn, hh⟩ := h.held
  refine ⟨?free, ?single, ?below, ?distinct⟩
  case below =>
    intro eventId row hr
    rcases hh eventId row hr with hold | rfl
    · exact Nat.lt_of_lt_of_le (hw.below eventId row hold) h.nextCursor_le
    · obtain ⟨hc, hlt⟩ := hn _ rfl
      exact hc ▸ hlt
  case distinct =>
    intro eventId row eventId' row' hr hr' hc
    rcases hh eventId row hr with hold | rfl <;>
      rcases hh eventId' row' hr' with hold' | heq
    · exact hw.distinct eventId row eventId' row' hold hold' hc
    · have hlt := hw.below eventId row hold
      rw [hc, (hn _ heq).1] at hlt
      exact absurd hlt (Nat.lt_irrefl _)
    · have hlt := hw.below eventId' row' hold'
      rw [← hc, (hn _ rfl).1] at hlt
      exact absurd hlt (Nat.lt_irrefl _)
    · cases heq
      rfl
  case free =>
    intro t' eventId row hr
    cases h with
    | keeps hd ht => exact hd ▸ hw.free t' eventId row (ht t' eventId row hr)
    | inserts _ _ hd ht _ hf =>
      rw [hd]
      rcases ht t' eventId row hr with hold | ⟨-, rfl, -⟩
      · exact hw.free t' eventId row hold
      · exact hf
    | commits tx ho hd ht =>
      obtain ⟨hold, hne⟩ := ht t' eventId row hr
      rw [hd, Tx.view, uiEvents_foldl_of_not]
      · exact hw.free t' eventId row hold
      · intro row' hr'
        exact hne (hw.single t' t eventId row row' hold ⟨tx, ho, hr'⟩).1
  case single =>
    intro t₁ t₂ eventId row₁ row₂ hr₁ hr₂
    cases h with
    | keeps _ ht =>
      exact hw.single t₁ t₂ eventId row₁ row₂ (ht _ _ _ hr₁) (ht _ _ _ hr₂)
    | inserts _ _ _ ht _ _ hu =>
      rcases ht _ _ _ hr₁ with hold₁ | ⟨rfl, rfl, rfl⟩ <;>
        rcases ht _ _ _ hr₂ with hold₂ | ⟨rfl, heq, rfl⟩
      · exact hw.single t₁ t₂ eventId row₁ row₂ hold₁ hold₂
      · exact absurd (heq ▸ hold₁) (hu _ _)
      · exact absurd hold₂ (hu _ _)
      · exact ⟨rfl, rfl⟩
    | commits _ _ _ ht =>
      exact hw.single t₁ t₂ eventId row₁ row₂ (ht _ _ _ hr₁).1 (ht _ _ _ hr₂).1

end

lemma eventRows_start (sources : Sources) : EventRows (World.start sources) where
  free := by
    rintro t eventId row ⟨tx, ht, -⟩
    cases ht
  single := by
    rintro _ _ eventId row row' ⟨_, ht, -⟩
    cases ht
  below eventId row h := absurd h (not_holds_start sources _)
  distinct eventId row eventId' row' h := absurd h (not_holds_start sources _)

end WattGateway.Gateway
