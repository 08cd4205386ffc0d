import Mathlib.Data.List.Sort
import WattGateway.Lib.Interleave
import WattGateway.Message.Frames

/-!
# Mailbox gaps

`gaps.rs`: dead letters are counted in rows of one hour each, a page carries the rows that are
waiting, and acknowledging the page marks the rows it was delivered with. A row also lists the
record calls that it counts, which no column holds, and the world remembers which of them were
recorded, carried and reported. `unreported_letters_wait` is about the runs in which no acknowledged
row holds or gets a letter that its page did not carry.
-/

namespace WattGateway.Message.Gaps

open Prog Sys List Table

/-! ## Rows -/

inductive MailboxGapReason where
  | expired
  | deliveryLimitExceeded
  | administrativeRemoval
  deriving DecidableEq

def reasonLabel : MailboxGapReason → String
  | .expired => "expired"
  | .deliveryLimitExceeded => "delivery_limit_exceeded"
  | .administrativeRemoval => "administrative_removal"

def parseReason (reason : String) : Except String MailboxGapReason :=
  if reason = "expired" then .ok .expired
  else if reason = "delivery_limit_exceeded" then .ok .deliveryLimitExceeded
  else if reason = "administrative_removal" then .ok .administrativeRemoval
  else .error "invalid stored MailboxGap reason"

/-- What a gap identifier is the hash of. -/
structure GapKey where
  networkId : String
  principalId : String
  cls : DeliveryClass
  policyVersion : Nat
  route : EventTransportRoute
  reason : MailboxGapReason
  hourBucket : Nat

/-- Code outside the repository: the first sixteen bytes of the SHA-256 of a key, and
`DateTime::from_timestamp_millis`. -/
structure Outside where
  compressedGapId : GapKey → Nat
  fromTimestampMillis : Int → Option Int

/-- A row of `gateway_mailbox_gaps`, and the record calls it counts. -/
structure GapRow where
  deliveryClass : DeliveryClass
  deliveryPolicyVersion : Nat
  route : EventTransportRoute
  reason : String
  firstAffectedAt : Int
  lastAffectedAt : Int
  approximateCount : Nat
  deliveredAt : Option Nat
  deliveryPageId : Option String
  acknowledgedAt : Option Nat
  letters : List Nat

structure Page where
  networkId : String
  principalId : String
  cls : DeliveryClass
  pageId : String
  deriving DecidableEq

/-- The table, the clock, and what became of the dead letters. -/
structure GapWorld where
  gaps : Table (String × String × Nat) GapRow
  now : Nat
  recorded : List Nat
  carried : List (Page × Nat)
  reported : List Nat

structure MailboxGap where
  gapId : Nat
  deliveryClass : DeliveryClass
  deliveryPolicyVersion : Nat
  route : EventTransportRoute
  reason : MailboxGapReason
  firstAffectedAt : Nat
  lastAffectedAt : Nat
  approximateCount : Nat

/-- `as i64`. -/
def asI64 (n : Nat) : Int := if n ≤ i64Max then n else n - 2 ^ 64

/-- `as u64`. -/
def asU64 (x : Int) : Nat := (x % 2 ^ 64).toNat

def mailboxGap (cls : DeliveryClass) (row : Nat × GapRow) : Except String MailboxGap := do
  let reason ← parseReason row.2.reason
  return ⟨row.1, cls, row.2.deliveryPolicyVersion, row.2.route, reason,
    asU64 row.2.firstAffectedAt, asU64 row.2.lastAffectedAt, row.2.approximateCount⟩

/-! ## Statements -/

structure GapInsert where
  deliveryClass : DeliveryClass
  deliveryPolicyVersion : Nat
  route : EventTransportRoute
  reason : MailboxGapReason
  affectedAt : Int

/-- The `VALUES` of `record_gap`, or its `ON CONFLICT DO UPDATE`, for the dead letter of call
`t`. -/
def countLetter (t : Nat) (v : GapInsert) : Option GapRow → GapRow
  | none => ⟨v.deliveryClass, v.deliveryPolicyVersion, v.route, reasonLabel v.reason, v.affectedAt,
      v.affectedAt, 1, none, none, none, [t]⟩
  | some r => { r with
      lastAffectedAt := max r.lastAffectedAt v.affectedAt
      approximateCount := r.approximateCount + 1
      letters := t :: r.letters }

def insertGap (t : Nat) (k : String × String × Nat) (v : GapInsert) (w : GapWorld) : GapWorld :=
  { w with gaps := w.gaps.upsert k (countLetter t v), recorded := t :: w.recorded }

def full (k : String × String × Nat) (w : GapWorld) : Prop :=
  ∃ r ∈ w.gaps.get? k, i64Max ≤ r.approximateCount

instance (k : String × String × Nat) (w : GapWorld) : Decidable (full k w) :=
  inferInstanceAs (Decidable (∃ _ ∈ _, _))

/-- The row belongs to the mailbox and waits for an acknowledgement. -/
def inMailbox (page : Page) (k : String × String × Nat) (r : GapRow) : Prop :=
  k.1 = page.networkId ∧ k.2.1 = page.principalId ∧ r.deliveryClass = page.cls ∧
    r.acknowledgedAt = none

instance (page : Page) (k : String × String × Nat) (r : GapRow) : Decidable (inMailbox page k r) :=
  inferInstanceAs (Decidable (_ ∧ _))

def deliverable (page : Page) (redeliveryMs now : Nat) (r : GapRow) : Prop :=
  r.deliveryPageId = none ∨ r.deliveryPageId = some page.pageId ∨
    ∃ d ∈ r.deliveredAt, d + redeliveryMs ≤ now

instance (page : Page) (redeliveryMs now : Nat) (r : GapRow) :
    Decidable (deliverable page redeliveryMs now r) :=
  inferInstanceAs (Decidable (_ ∨ _))

/-- `ORDER BY first_affected_at, gap_id`. -/
def before (a b : Nat × GapRow) : Prop :=
  a.2.firstAffectedAt < b.2.firstAffectedAt ∨ a.2.firstAffectedAt = b.2.firstAffectedAt ∧ a.1 ≤ b.1

instance : DecidableRel before := fun _ _ => inferInstanceAs (Decidable (_ ∨ _))

section

variable (page : Page)

/-- The `SELECT` of `load_for_page`. -/
def selectGaps (limit redeliveryMs : Nat) (w : GapWorld) : List (Nat × GapRow) :=
  (((w.gaps.select fun k r => inMailbox page k r ∧ deliverable page redeliveryMs w.now r).map
    fun kr => (kr.1.2.2, kr.2)).insertionSort before).take limit

/-- The `UPDATE` of `load_for_page`. -/
def markDelivered (rows : List (Nat × GapRow)) (w : GapWorld) : GapWorld :=
  { w with
    gaps := w.gaps.update (fun k r => inMailbox page k r ∧ k.2.2 ∈ rows.map Prod.fst)
      fun r => { r with deliveryPageId := some page.pageId, deliveredAt := some w.now } }

def carry (rows : List (Nat × GapRow)) (w : GapWorld) : GapWorld :=
  { w with
    carried := (rows.flatMap fun r => r.2.letters.map fun l => (page, l)) ++ w.carried }

/-- The row was delivered with the page and waits for its acknowledgement. -/
def onPage (k : String × String × Nat) (r : GapRow) : Prop :=
  inMailbox page k r ∧ r.deliveryPageId = some page.pageId

end

instance (page : Page) (k : String × String × Nat) (r : GapRow) : Decidable (onPage page k r) :=
  inferInstanceAs (Decidable (_ ∧ _))

/-- The `UPDATE` of `acknowledge_page`; what the page carried so far is reported. -/
def acknowledge (page : Page) (w : GapWorld) : GapWorld :=
  { w with
    gaps := w.gaps.update (fun k r => onPage page k r) fun r => { r with acknowledgedAt := some w.now }
    reported := ((w.carried.filter fun c => c.1 = page).map Prod.snd) ++ w.reported }

def retired (retentionMs now : Nat) (r : GapRow) : Prop :=
  ∃ a ∈ r.acknowledgedAt, a + retentionMs ≤ now

instance (retentionMs now : Nat) (r : GapRow) : Decidable (retired retentionMs now r) :=
  inferInstanceAs (Decidable (∃ _ ∈ _, _))

/-- The `DELETE` of `cleanup_expired_metadata` on this table. -/
def deleteAcknowledged (retentionMs : Nat) (w : GapWorld) : GapWorld :=
  { w with gaps := w.gaps.delete fun _ r => retired retentionMs w.now r }

/-! ## The machine -/

inductive Cmd where
  | insertGap (k : String × String × Nat) (v : GapInsert)
  | markDelivered (page : Page) (rows : List (Nat × GapRow))

inductive Query where
  | selectGaps (page : Page) (limit redeliveryMs : Nat)
  | acknowledge (page : Page)
  | deleteAcknowledged (retentionMs : Nat)
  | clock

abbrev Ans : Query → Type
  | .selectGaps _ _ _ => List (Nat × GapRow)
  | .acknowledge _ => Nat
  | .deleteAcknowledged _ => Nat
  | .clock => Nat

/-- A command of call `t`. The page is handed over when the `UPDATE` is known to have succeeded. -/
def perform (t : Nat) (c : Cmd) (o : Outcome) (w : GapWorld) :
    Option (Except String Unit × GapWorld) :=
  match c, o with
  | .insertGap k v, .ok =>
    if full k w then some (.error "bigint out of range", w) else some (.ok (), insertGap t k v w)
  | .insertGap k v, .lost =>
    if full k w then some (.error "bigint out of range", w)
    else some (.error "database error", insertGap t k v w)
  | .markDelivered page rows, .ok => some (.ok (), carry page rows (markDelivered page rows w))
  | .markDelivered page rows, .lost => some (.error "database error", markDelivered page rows w)
  | _, _ => some (.error "database error", w)

def reply (w : GapWorld) : (q : Query) → Except String (Ans q) × GapWorld
  | .selectGaps page limit redeliveryMs =>
    if i64Max < limit then (.error "LIMIT must not be negative", w)
    else (.ok (selectGaps page limit redeliveryMs w), w)
  | .acknowledge page =>
    (.ok (w.gaps.select fun k r => onPage page k r).length, acknowledge page w)
  | .deleteAcknowledged retentionMs =>
    (.ok (w.gaps.select fun _ r => retired retentionMs w.now r).length,
      deleteAcknowledged retentionMs w)
  | .clock => (.ok w.now, w)

def answer (_ : Nat) (q : Query) (o : Outcome) (w : GapWorld) :
    Option (Except String (Ans q) × GapWorld) :=
  match o with
  | .ok => some (reply w q)
  | .lost => some (.error "database error", (reply w q).2)
  | _ => some (.error "database error", w)

def gapStore : Machine Cmd Query Ans GapWorld Nat where
  clock := GapWorld.now
  perform := perform
  answer := answer
  finish := fun _ w => w
  env := fun ms w => { w with now := w.now + ms }

abbrev GapProg := Prog Cmd Query Ans

/-! ## Calls -/

/-- The time of a dead letter, with the present time for one out of range. -/
def affectedTime (X : Outside) (affectedAtMs : Nat) : GapProg Int :=
  match X.fromTimestampMillis (asI64 affectedAtMs) with
  | some x => return x
  | none => do
    let now ← query Query.clock
    return (now : Nat)

def recordGap (X : Outside) (networkId principalId : String) (cls : DeliveryClass)
    (policyVersion : Nat) (route : EventTransportRoute) (reason : MailboxGapReason)
    (affectedAtMs : Nat) : GapProg Nat := do
  let gapId := X.compressedGapId
    ⟨networkId, principalId, cls, policyVersion, route, reason, affectedAtMs / 3600000⟩
  let affectedAt ← affectedTime X affectedAtMs
  run (.insertGap (networkId, principalId, gapId) ⟨cls, policyVersion, route, reason, affectedAt⟩)
  return gapId

/-- The page takes the rows over, if there are any. -/
def deliver (page : Page) : List (Nat × GapRow) → GapProg Unit
  | [] => return ()
  | row :: rows => run (.markDelivered page (row :: rows))

def loadForPage (page : Page) (limit redeliveryAfterMs : Nat) : GapProg (List MailboxGap) := do
  bailIf (i64Max < redeliveryAfterMs) "out of range integral type conversion attempted"
  let rows : List (Nat × GapRow) ← query (Query.selectGaps page limit redeliveryAfterMs)
  deliver page rows
  Prog.ofExcept (rows.mapM (mailboxGap page.cls))

def acknowledgePage (page : Page) : GapProg Nat := query (Query.acknowledge page)

def cleanupExpiredMetadata (acknowledgedGapRetentionMs : Nat) : GapProg Nat := do
  bailIf (i64Max < acknowledgedGapRetentionMs) "acknowledged gap retention is too large"
  query (Query.deleteAcknowledged acknowledgedGapRetentionMs)

inductive Call where
  | recordGap (networkId principalId : String) (cls : DeliveryClass) (policyVersion : Nat)
      (route : EventTransportRoute) (reason : MailboxGapReason) (affectedAtMs : Nat)
  | loadForPage (page : Page) (limit redeliveryAfterMs : Nat)
  | acknowledgePage (page : Page)
  | cleanupExpiredMetadata (acknowledgedGapRetentionMs : Nat)

inductive Reply where
  | recorded (gapId : Nat)
  | gaps (gaps : List MailboxGap)
  | rows (affected : Nat)

abbrev GapSys := Sys Cmd Query Ans GapWorld Reply

def callProg (X : Outside) : Call → GapProg Reply
  | .recordGap n p cls v route reason ms => return .recorded (← recordGap X n p cls v route reason ms)
  | .loadForPage page limit ms => return .gaps (← loadForPage page limit ms)
  | .acknowledgePage page => return .rows (← acknowledgePage page)
  | .cleanupExpiredMetadata ms => return .rows (← cleanupExpiredMetadata ms)

/-! ## Dead letters are accounted for -/

/-- The row counts its dead letters, has the time of its delivery, and names its reason. -/
structure GapRow.Valid (r : GapRow) (now : Nat) : Prop where
  count : r.approximateCount = r.letters.length
  delivered : r.deliveryPageId = none ∨ ∃ d ∈ r.deliveredAt, d ≤ now
  reason : ∃ reason, r.reason = reasonLabel reason

/-- A recorded dead letter is reported or counted in a row, and one of an acknowledged row is
reported. -/
structure Accounted (w : GapWorld) : Prop where
  valid : ∀ k r, w.gaps.get? k = some r → r.Valid w.now
  counted : ∀ l ∈ w.recorded, l ∈ w.reported ∨ ∃ k r, w.gaps.get? k = some r ∧ l ∈ r.letters
  acknowledged : ∀ k r, w.gaps.get? k = some r → r.acknowledgedAt ≠ none →
    ∀ l ∈ r.letters, l ∈ w.reported

variable {w : GapWorld}
variable {r : GapRow} {now : Nat}

lemma GapRow.Valid.mono {now' : Nat} (h : r.Valid now) (hle : now ≤ now') : r.Valid now' where
  count := h.count
  delivered := by
    rcases h.delivered with hn | ⟨d, hd, _⟩
    · exact .inl hn
    · exact .inr ⟨d, hd, by omega⟩
  reason := h.reason

lemma accounted_empty (now : Nat) : Accounted ⟨.empty, now, [], [], []⟩ where
  valid := by
    intro _ _ hr
    simp at hr
  counted := by
    intro _ hl
    cases hl
  acknowledged := by
    intro _ _ hr
    simp at hr

lemma Accounted.tick (h : Accounted w) (ms : Nat) : Accounted { w with now := w.now + ms } where
  valid := fun k r hr => (h.valid k r hr).mono (Nat.le_add_right _ _)
  counted := h.counted
  acknowledged := h.acknowledged

lemma Accounted.carry (h : Accounted w) (page : Page) (rows : List (Nat × GapRow)) :
    Accounted (carry page rows w) where
  valid := h.valid
  counted := h.counted
  acknowledged := h.acknowledged

variable {t : Nat}

lemma countLetter_valid {v : GapInsert} {o : Option GapRow} (h : ∀ r ∈ o, r.Valid now) :
    (countLetter t v o).Valid now := by
  cases o with
  | none => exact ⟨rfl, .inl rfl, v.reason, rfl⟩
  | some r =>
    obtain ⟨hc, hd, hr⟩ := h r rfl
    exact ⟨by simp [countLetter, hc], hd, hr⟩

lemma Accounted.insertGap (h : Accounted w) {k : String × String × Nat} {v : GapInsert}
    (ho : ∀ r ∈ w.gaps.get? k, r.acknowledgedAt = none) : Accounted (insertGap t k v w) where
  valid := by
    intro k' r hr
    simp only [Gaps.insertGap, get?_upsert] at hr
    split at hr
    · cases hr
      exact countLetter_valid fun r hr => h.valid k r hr
    · exact h.valid k' r hr
  counted := by
    intro l hl
    simp only [Gaps.insertGap, get?_upsert]
    rcases mem_cons.1 hl with rfl | hl
    · refine .inr ⟨k, _, if_pos rfl, ?_⟩
      cases w.gaps.get? k <;> simp [countLetter]
    · rcases h.counted l hl with he | ⟨k', r, hr, hlr⟩
      · exact .inl he
      · by_cases hk : k' = k
        · subst hk
          exact .inr ⟨k', _, if_pos rfl, by simp [hr, countLetter, hlr]⟩
        · exact .inr ⟨k', r, by rw [if_neg hk]; exact hr, hlr⟩
  acknowledged := by
    intro k' r hr ha
    simp only [Gaps.insertGap, get?_upsert] at hr
    split at hr
    · -- the row was not acknowledged before, and the insert leaves that column
      cases hr
      exfalso
      cases hk : w.gaps.get? k with
      | none => simp [hk, countLetter] at ha
      | some r => simp [hk, countLetter, ho r hk] at ha
    · exact h.acknowledged k' r hr ha

/-- An `UPDATE` keeps the account if it keeps the letters of a row, its validity, and reports the
letters of the rows it acknowledges. -/
lemma Accounted.update (h : Accounted w) {p : String × String × Nat → GapRow → Bool}
    {f : GapRow → GapRow} {reported : List Nat} (hrep : ∀ l ∈ w.reported, l ∈ reported)
    (hf : ∀ r, r.Valid w.now → (f r).Valid w.now) (hl : ∀ r, (f r).letters = r.letters)
    (hack : ∀ k r, w.gaps.get? k = some r → p k r = true → (f r).acknowledgedAt ≠ none →
      ∀ l ∈ r.letters, l ∈ reported) :
    Accounted { w with gaps := w.gaps.update p f, reported := reported } where
  valid := by
    intro k r hr
    simp only [get?_update, Option.map_eq_some_iff] at hr
    obtain ⟨r', hr', rfl⟩ := hr
    split
    · exact hf r' (h.valid k r' hr')
    · exact h.valid k r' hr'
  counted := by
    intro l hl'
    rcases h.counted l hl' with hr | ⟨k, r, hr, hlr⟩
    · exact .inl (hrep l hr)
    · refine .inr ⟨k, _, by simp only [get?_update, hr, Option.map_some]; rfl, ?_⟩
      split
      · rw [hl]
        exact hlr
      · exact hlr
  acknowledged := by
    intro k _ hr hne l hlr
    simp only [get?_update, Option.map_eq_some_iff] at hr
    obtain ⟨r', hr', rfl⟩ := hr
    by_cases hp : p k r' = true
    · rw [if_pos hp] at hne hlr
      rw [hl] at hlr
      exact hack k r' hr' hp hne l hlr
    · rw [if_neg hp] at hne hlr
      exact hrep l (h.acknowledged k r' hr' hne l hlr)

lemma Accounted.markDelivered (h : Accounted w) (page : Page) (rows : List (Nat × GapRow)) :
    Accounted (markDelivered page rows w) := by
  refine h.update (fun _ hl => hl) ?_ (fun _ => rfl) ?_
  · intro r hr
    exact ⟨hr.count, .inr ⟨w.now, rfl, Nat.le_refl _⟩, hr.reason⟩
  · intro k r hr _ hne
    exact h.acknowledged k r hr hne

variable {page : Page}

lemma Accounted.acknowledge (h : Accounted w)
    (hc : ∀ kr ∈ w.gaps.rows, onPage page kr.1 kr.2 → ∀ l ∈ kr.2.letters,
      (page, l) ∈ w.carried ∨ l ∈ w.reported) : Accounted (acknowledge page w) := by
  refine h.update (fun _ hl => mem_append_right _ hl) ?_ (fun _ => rfl) ?_
  · intro r hr
    exact ⟨hr.count, hr.delivered, hr.reason⟩
  · intro k r hr hp _ l hl
    rcases hc (k, r) (get?_eq_some.1 hr) (by simpa using hp) l hl with ha | he
    · apply mem_append_left
      simpa using ha
    · exact mem_append_right _ he

lemma Accounted.deleteAcknowledged (h : Accounted w) (retentionMs : Nat) :
    Accounted (deleteAcknowledged retentionMs w) where
  valid := by
    intro k r hr
    simp only [Gaps.deleteAcknowledged, get?_delete] at hr
    exact h.valid k r (Option.eq_some_of_filter_eq_some hr)
  counted := by
    intro l hl
    rcases h.counted l hl with hr | ⟨k, r, hr, hlr⟩
    · exact .inl hr
    · by_cases he : retired retentionMs w.now r
      · obtain ⟨a, ha, -⟩ := he
        refine .inl (h.acknowledged k r hr ?_ l hlr)
        rw [Option.mem_def.1 ha]
        exact Option.some_ne_none a
      · refine .inr ⟨k, r, ?_, hlr⟩
        simp [Gaps.deleteAcknowledged, get?_delete, hr, he]
  acknowledged := by
    intro k r hr
    simp only [Gaps.deleteAcknowledged, get?_delete] at hr
    exact h.acknowledged k r (Option.eq_some_of_filter_eq_some hr)

/-! ## Runs -/

/-- What the next statement of a call has to respect: a dead letter is not counted in an
acknowledged row, and each row that a page's acknowledgement marks counts only what the page
carried or what is reported already. -/
def coveredNext (w : GapWorld) : GapProg Reply → Prop
  | .cmd (.insertGap k _) _ => ∀ r ∈ w.gaps.get? k, r.acknowledgedAt = none
  | .ask (.acknowledge page) _ => ∀ kr ∈ w.gaps.rows, onPage page kr.1 kr.2 →
      ∀ l ∈ kr.2.letters, (page, l) ∈ w.carried ∨ l ∈ w.reported
  | _ => True

def Covered (s : GapSys) : Action Nat → Prop
  | .env _ => True
  | .run t _ => coveredNext s.world (s.threads t).prog

instance (w : GapWorld) : DecidablePred (coveredNext w)
  | .ret _ => inferInstanceAs (Decidable True)
  | .fail _ => inferInstanceAs (Decidable True)
  | .cmd (.insertGap _ _) _ => inferInstanceAs (Decidable (∀ _ ∈ _, _))
  | .cmd (.markDelivered _ _) _ => inferInstanceAs (Decidable True)
  | .ask (.selectGaps _ _ _) _ => inferInstanceAs (Decidable True)
  | .ask (.acknowledge _) _ => inferInstanceAs (Decidable (∀ _ ∈ _, _))
  | .ask (.deleteAcknowledged _) _ => inferInstanceAs (Decidable True)
  | .ask .clock _ => inferInstanceAs (Decidable True)

instance (s : GapSys) : DecidablePred (Covered s)
  | .env _ => inferInstanceAs (Decidable True)
  | .run _ _ => inferInstanceAs (Decidable (coveredNext _ _))

lemma perform_accounted {c : Cmd} {k : GapProg Reply} {o : Outcome} {w w' : GapWorld}
    {x : Except String Unit} (h : Accounted w) (hc : coveredNext w (.cmd c k))
    (hp : perform t c o w = some (x, w')) : Accounted w' := by
  cases c with
  | insertGap key v =>
    have hi : Accounted (insertGap t key v w) := h.insertGap hc
    cases o <;> simp only [perform] at hp <;> try split at hp
    all_goals
      cases hp
      assumption
  | markDelivered page rows =>
    have hm := h.markDelivered page rows
    cases o <;> cases hp
    · exact hm.carry page rows
    · exact h
    · exact h
    · exact hm

lemma reply_accounted {q : Query} {k : Ans q → GapProg Reply} {w : GapWorld} (h : Accounted w)
    (hc : coveredNext w (.ask q k)) : Accounted (reply w q).2 := by
  cases q with
  | selectGaps =>
    simp only [reply]
    split <;> exact h
  | acknowledge => exact h.acknowledge hc
  | deleteAcknowledged retentionMs => exact h.deleteAcknowledged retentionMs
  | clock => exact h

lemma answer_accounted {q : Query} {k : Ans q → GapProg Reply} {o : Outcome} {w w' : GapWorld}
    {x : Except String (Ans q)} (h : Accounted w) (hc : coveredNext w (.ask q k))
    (ha : answer t q o w = some (x, w')) : Accounted w' := by
  have hr := reply_accounted h hc
  cases o with
  | ok =>
    have hw : reply w q = (x, w') := Option.some.inj ha
    rw [hw] at hr
    exact hr
  | lost =>
    cases ha
    exact hr
  | refused | failed =>
    cases ha
    exact h

lemma settle_world (s : GapSys) (t : Nat) : (s.settle gapStore t).world = s.world := by
  unfold settle
  split <;> rfl

lemma accounted_step {s : GapSys} {a : Action Nat} (h : Accounted s.world) (hc : Covered s a) :
    Accounted (s.step gapStore a).world := by
  rcases step_cases gapStore s a with hs | ⟨ms, -, hs⟩ | ⟨t, _, _, _, _, _, rfl, hp, hx, hs⟩ |
    ⟨t, _, _, _, _, _, rfl, hp, hx, hs⟩ | ⟨t, _, _, _, _, _, rfl, hp, hx, hs⟩ |
    ⟨t, _, _, _, _, _, rfl, hp, hx, hs⟩
  · rw [hs]
    exact h
  · rw [hs]
    exact h.tick ms
  all_goals
    have hn : coveredNext s.world (s.threads t).prog := hc
    rw [hp] at hn
    rw [hs, settle_world]
    first | exact perform_accounted h hn hx | exact answer_accounted (t := t) h hn hx

variable {X : Outside} {calls : Nat → Call} {τ : Nat} {s : GapSys}

def begin (X : Outside) (calls : Nat → Call) (τ : Nat) : GapSys :=
  .start ⟨.empty, τ, [], [], []⟩ fun t => callProg X (calls t)

lemma accounted_of_reaches (h : Reaches gapStore Covered (begin X calls τ) s) :
    Accounted s.world :=
  h.invariant (accounted_empty τ) fun _ _ _ hc hi => accounted_step hi hc

/-! ## A row that waits is returned -/

@[simp] lemma parseReason_label (reason : MailboxGapReason) :
    parseReason (reasonLabel reason) = .ok reason := by
  cases reason <;> decide

lemma mailboxGap_of_valid (h : r.Valid now) (cls : DeliveryClass) (gapId : Nat) :
    ∃ g, mailboxGap cls (gapId, r) = .ok g ∧ g.gapId = gapId ∧
      g.approximateCount = r.letters.length := by
  obtain ⟨_, hr⟩ := h.reason
  rw [mailboxGap, hr, parseReason_label]
  exact ⟨_, rfl, rfl, h.count⟩

variable {redeliveryMs limit : Nat}

lemma mem_selectGaps {gapId : Nat} (hi : w.gaps.rows.length ≤ limit) :
    (gapId, r) ∈ selectGaps page limit redeliveryMs w ↔
      w.gaps.get? (page.networkId, page.principalId, gapId) = some r ∧
      r.deliveryClass = page.cls ∧ r.acknowledgedAt = none ∧
      deliverable page redeliveryMs w.now r := by
  have hl : ((((w.gaps.select fun k r =>
      inMailbox page k r ∧ deliverable page redeliveryMs w.now r).map
        fun kr => (kr.1.2.2, kr.2)).insertionSort before)).length ≤ limit := by
    rw [length_insertionSort, length_map]
    exact (length_filter_le _ _).trans hi
  rw [selectGaps, take_of_length_le hl, mem_insertionSort, mem_map]
  constructor
  · rintro ⟨⟨⟨_, _, _⟩, _⟩, hm, heq⟩
    cases heq
    obtain ⟨hg, hd⟩ := mem_select.1 hm
    obtain ⟨⟨rfl, rfl, hc, ha⟩, he⟩ := of_decide_eq_true hd
    exact ⟨hg, hc, ha, he⟩
  · rintro ⟨hg, hc, ha, he⟩
    have hin : inMailbox page (page.networkId, page.principalId, gapId) r := ⟨rfl, rfl, hc, ha⟩
    exact ⟨(_, r), mem_select.2 ⟨hg, decide_eq_true ⟨hin, he⟩⟩, rfl⟩

lemma mapM_error {α β : Type} {f : α → Except String β} {l : List α} {e : String}
    (h : l.mapM f = .error e) : ∃ a ∈ l, f a = .error e := by
  induction l with
  | nil => cases h
  | cons a _ ih =>
    rw [mapM_cons] at h
    rcases bind_eq_error.1 h with ha | ⟨_, -, h⟩
    · exact ⟨a, mem_cons_self, ha⟩
    · rcases bind_eq_error.1 h with hl | ⟨_, -, h⟩
      · obtain ⟨a', ha', hf⟩ := ih hl
        exact ⟨a', mem_cons_of_mem a ha', hf⟩
      · cases h

lemma mapM_ok {α β : Type} {f : α → Except String β} {l : List α}
    (h : ∀ a ∈ l, ∃ b, f a = .ok b) :
    ∃ bs, l.mapM f = .ok bs ∧ ∀ a ∈ l, ∀ b, f a = .ok b → b ∈ bs := by
  induction l with
  | nil => exact ⟨[], rfl, by simp⟩
  | cons a _ ih =>
    obtain ⟨b, hb⟩ := h a (by simp)
    obtain ⟨bs, hs, hm⟩ := ih fun a' ha' => h a' (by simp [ha'])
    refine ⟨b :: bs, by rw [mapM_cons, hb, hs]; rfl, ?_⟩
    intro a' ha' b' hb'
    rcases mem_cons.1 ha' with rfl | ha'
    · rw [hb] at hb'
      cases hb'
      simp
    · exact mem_cons_of_mem _ (hm a' ha' b' hb')

/-- One load on its own, when the redelivery time has passed. -/
def loadAlone (X : Outside) (page : Page) (limit redeliveryMs : Nat) (w : GapWorld) : GapSys :=
  (start { w with now := w.now + redeliveryMs } fun _ =>
    callProg X (.loadForPage page limit redeliveryMs)).runActions gapStore
      [.run 0 .ok, .run 0 .ok]

lemma loadAlone_eq {row : Nat × GapRow} {rows : List (Nat × GapRow)} {gaps : List MailboxGap}
    (hi : limit ≤ i64Max) (hm : redeliveryMs ≤ i64Max)
    (ho : selectGaps page limit redeliveryMs { w with now := w.now + redeliveryMs } =
      row :: rows) (hg : (row :: rows).mapM (mailboxGap page.cls) = .ok gaps) :
    ((loadAlone X page limit redeliveryMs w).threads 0).prog = .ret (.gaps gaps) := by
  let s₀ : GapSys := .start { w with now := w.now + redeliveryMs } fun _ =>
    callProg X (.loadForPage page limit redeliveryMs)
  have hp : (s₀.threads 0).prog = .ask (.selectGaps page limit redeliveryMs) fun rows =>
        (deliver page rows >>= fun _ => Prog.ofExcept (rows.mapM (mailboxGap page.cls))) >>=
          fun gaps => .ret (.gaps gaps) := by
    simp [s₀, callProg, loadForPage, bailIf, Nat.not_lt.2 hm, query]
  have hr : ((deliver page (row :: rows) >>= fun _ =>
      Prog.ofExcept ((row :: rows).mapM (mailboxGap page.cls))) >>= fun gaps => .ret (.gaps gaps)) =
        (.cmd (.markDelivered page (row :: rows)) (.ret (.gaps gaps)) : GapProg Reply) := by
    simp [deliver, run, hg, Prog.ofExcept]
  have ha : gapStore.answer 0 (.selectGaps page limit redeliveryMs) .ok s₀.world =
      some (.ok (row :: rows), s₀.world) := by
    simp [s₀, gapStore, answer, reply, Nat.not_lt.2 hi, ho]
  have hl := step_ask hp ha
  rw [hr, settle_of_not_done (by simp)] at hl
  have hne : ((s₀.step gapStore (.run 0 .ok)).threads 0).prog =
      .cmd (.markDelivered page (row :: rows)) (.ret (.gaps gaps)) := by
    rw [hl, advance_self]
  have hma := step_cmd (m := gapStore) (o := .ok) hne rfl
  show ((step gapStore (s₀.step gapStore (.run 0 .ok)) (.run 0 .ok)).threads 0).prog = _
  rw [hma]
  simp

/-- The dead letter is counted in a row that is not acknowledged, and a load of the mailbox with
room for every row returns that row's gap with its count. -/
def Waits (X : Outside) (w : GapWorld) (l : Nat) : Prop :=
  ∃ networkId principalId gapId r, w.gaps.get? (networkId, principalId, gapId) = some r ∧
    r.acknowledgedAt = none ∧ l ∈ r.letters ∧
    ∀ pageId limit redeliveryMs, w.gaps.rows.length ≤ limit → limit ≤ i64Max →
      redeliveryMs ≤ i64Max → ∃ gaps,
        ((loadAlone X ⟨networkId, principalId, r.deliveryClass, pageId⟩ limit redeliveryMs
          w).threads 0).prog = .ret (.gaps gaps) ∧
        ∃ g ∈ gaps, g.gapId = gapId ∧ g.approximateCount = r.letters.length

lemma Accounted.returned (h : Accounted w) {gapId : Nat}
    (hr : w.gaps.get? (page.networkId, page.principalId, gapId) = some r)
    (hcls : r.deliveryClass = page.cls) (hack : r.acknowledgedAt = none)
    (hro : w.gaps.rows.length ≤ limit) (hli : limit ≤ i64Max) (hms : redeliveryMs ≤ i64Max) :
    ∃ gaps, ((loadAlone X page limit redeliveryMs w).threads 0).prog = .ret (.gaps gaps) ∧
      ∃ g ∈ gaps, g.gapId = gapId ∧ g.approximateCount = r.letters.length := by
  let w' : GapWorld := { w with now := w.now + redeliveryMs }
  have he : deliverable page redeliveryMs w'.now r := by
    rcases (h.valid _ r hr).delivered with hn | ⟨d, hd, hdn⟩
    · exact .inl hn
    · exact .inr (Or.inr ⟨d, hd, Nat.add_le_add_right hdn _⟩)
  have hm : (gapId, r) ∈ selectGaps page limit redeliveryMs w' :=
    (mem_selectGaps (w := w') hro).2 ⟨hr, hcls, hack, he⟩
  have hv : ∀ row ∈ selectGaps page limit redeliveryMs w',
      ∃ g, mailboxGap page.cls row = .ok g := by
    rintro ⟨id, r'⟩ hr'
    obtain ⟨g, hg, -⟩ := mailboxGap_of_valid (h.valid _ r' ((mem_selectGaps (w := w') hro).1 hr').1)
      page.cls id
    exact ⟨g, hg⟩
  obtain ⟨gaps, hga, ha⟩ := mapM_ok hv
  obtain ⟨g, hg, hi, hc⟩ := mailboxGap_of_valid (h.valid _ r hr) page.cls gapId
  cases hs : selectGaps page limit redeliveryMs w' with
  | nil =>
    rw [hs] at hm
    cases hm
  | cons =>
    rw [hs] at hga
    exact ⟨gaps, loadAlone_eq hli hms hs hga, g, ha _ hm g hg, hi, hc⟩

/-- No dead letter is lost as long as none is counted in an acknowledged row and each page that is
acknowledged carried what its rows count. -/
theorem unreported_letters_wait (h : Reaches gapStore Covered (begin X calls τ) s) {l : Nat}
    (hrec : l ∈ s.world.recorded) (hrep : l ∉ s.world.reported) : Waits X s.world l := by
  have ha := accounted_of_reaches h
  rcases ha.counted l hrec with hl | ⟨⟨n, p, gapId⟩, r, hr, hlr⟩
  · exact absurd hl hrep
  · have hc : r.acknowledgedAt = none := by
      by_contra hne
      exact hrep (ha.acknowledged _ r hr hne l hlr)
    refine ⟨n, p, gapId, r, hr, hc, hlr, ?_⟩
    intro _ _ _ ho hi hm
    exact ha.returned hr rfl hc ho hi hm

namespace Sample

def outside : Outside := ⟨GapKey.hourBucket, some⟩

def gapPage : Page := ⟨"n", "p", .interactive, "page"⟩

/-- Two dead letters, at the given times, and a page that is loaded and acknowledged. -/
def gapCalls (first second : Nat) : Nat → Call
  | 0 => .recordGap "n" "p" .interactive 1 ⟨.global, .messages, "a"⟩ .expired first
  | 1 => .loadForPage gapPage 10 1000
  | 2 => .acknowledgePage gapPage
  | 3 => .recordGap "n" "p" .interactive 1 ⟨.global, .messages, "a"⟩ .expired second
  | _ => .cleanupExpiredMetadata 1000

/-- The first dead letter is recorded, delivered and acknowledged before the second comes. -/
def gapActs : List (Action Nat) :=
  [.run 0 .ok, .run 1 .ok, .run 1 .ok, .run 2 .ok, .run 3 .ok]

end Sample

set_option maxRecDepth 100000

/-- The second dead letter comes in the next hour. -/
theorem unreported_letters_wait_next_hour :
    let s := (begin Sample.outside (Sample.gapCalls 0 3600000) 0).runActions gapStore Sample.gapActs
    0 ∈ s.world.reported ∧ 3 ∈ s.world.recorded ∧ 3 ∉ s.world.reported ∧
      Waits Sample.outside s.world 3 := by
  have hr : Reaches gapStore Covered (begin Sample.outside (Sample.gapCalls 0 3600000) 0)
      ((begin Sample.outside (Sample.gapCalls 0 3600000) 0).runActions gapStore Sample.gapActs) :=
    reaches_of_take _ _ (by decide)
  refine ⟨by decide, by decide, by decide, ?_⟩
  exact unreported_letters_wait hr (by decide) (by decide)

/-- The second dead letter comes in the same hour: it is counted in the row that is acknowledged
already, no page has carried it, and none will. -/
theorem letter_lost_in_acknowledged_row :
    let s := (begin Sample.outside (Sample.gapCalls 0 1) 0).runActions gapStore Sample.gapActs
    Reaches gapStore anyStep (begin Sample.outside (Sample.gapCalls 0 1) 0) s ∧
      3 ∈ s.world.recorded ∧ 3 ∉ s.world.reported ∧ ¬ Waits Sample.outside s.world 3 := by
  refine ⟨reaches_runActions _ _, by decide, by decide, ?_⟩
  rintro ⟨_, _, _, _, hr, ha, hl, -⟩
  have ho : ∀ kr ∈ ((begin Sample.outside (Sample.gapCalls 0 1) 0).runActions gapStore
      Sample.gapActs).world.gaps.rows, 3 ∈ kr.2.letters → kr.2.acknowledgedAt ≠ none := by
    decide
  exact ho _ (get?_eq_some.1 hr) hl ha

end WattGateway.Message.Gaps
