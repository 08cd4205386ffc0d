import WattGateway.Message.Admission

/-!
# The quorum rule

What `validate_membership_snapshot_authority` accepts. The counting loop is the number of distinct
allowed signers whose first envelope is valid (`countValid_eq`, `mem_counted`), and it is compared
with the threshold that the event itself carries. So a Finalizer who writes a threshold of one
replaces the membership alone (`two_finalizers_iff`).
-/

namespace WattGateway.Message

open Sample List

variable {signatures : List SignatureEnvelope}

section

variable (X : Wattswarm)

/-! ## The counting loop -/

/-- Some envelope holds a valid signature of `p` over the membership. -/
def SignedBy (membership : Membership) (signatures : List SignatureEnvelope) (p : String) : Prop :=
  ∃ s ∈ signatures, s.signerNodeId = p ∧
    X.verifySignature p (.membership membership) s.signatureHex = true

/-- The first envelope of `p` holds a valid signature over the membership. -/
def FirstSigned (membership : Membership) (signatures : List SignatureEnvelope) (p : String) :
    Prop :=
  ∃ s, signatures.find? (fun s => s.signerNodeId = p) = some s ∧
    X.verifySignature p (.membership membership) s.signatureHex = true

def counted (membership : Membership) (allowed : List String) :
    List SignatureEnvelope → List String → List String
  | [], _ => []
  | s :: rest, unique =>
    if s.signerNodeId ∈ unique then counted membership allowed rest unique
    else if s.signerNodeId ∈ allowed ∧
        X.verifySignature s.signerNodeId (.membership membership) s.signatureHex then
      s.signerNodeId :: counted membership allowed rest (s.signerNodeId :: unique)
    else counted membership allowed rest (s.signerNodeId :: unique)

variable {X} {membership : Membership} {allowed : List String}
variable {p : String}

lemma FirstSigned.signedBy
    (h : FirstSigned X membership signatures p) : SignedBy X membership signatures p := by
  obtain ⟨s, hs, hv⟩ := h
  exact ⟨s, mem_of_find?_eq_some hs, by simpa using find?_some hs, hv⟩

variable {rest : List SignatureEnvelope} {s : SignatureEnvelope}

lemma firstSigned_cons_self : FirstSigned X membership (s :: rest) s.signerNodeId ↔
      X.verifySignature s.signerNodeId (.membership membership) s.signatureHex = true := by
  unfold FirstSigned
  simp

lemma firstSigned_cons_ne (h : p ≠ s.signerNodeId) :
    FirstSigned X membership (s :: rest) p ↔ FirstSigned X membership rest p := by
  unfold FirstSigned
  rw [find?_cons_of_neg (by simpa using fun he => h he.symm)]

lemma mem_counted {unique : List String} : p ∈ counted X membership allowed signatures unique ↔
      p ∉ unique ∧ p ∈ allowed ∧ FirstSigned X membership signatures p := by
  induction signatures generalizing unique with
  | nil => simp [counted, FirstSigned]
  | cons s _ ih =>
    unfold counted
    by_cases hp : p = s.signerNodeId
    · subst hp
      rw [firstSigned_cons_self]
      split_ifs with hu hv
      · exact iff_of_false (fun h => (ih.1 h).1 hu) (fun h => h.1 hu)
      · exact iff_of_true mem_cons_self ⟨hu, hv⟩
      · exact iff_of_false (fun h => (ih.1 h).1 mem_cons_self) (fun h => hv h.2)
    · rw [firstSigned_cons_ne hp]
      split_ifs with hu hv
      · exact ih
      · rw [mem_cons, or_iff_right hp, ih, mem_cons, or_iff_right hp]
      · rw [ih, mem_cons, or_iff_right hp]

lemma counted_nodup (signatures : List SignatureEnvelope) (unique : List String) :
    (counted X membership allowed signatures unique).Nodup := by
  induction signatures generalizing unique with
  | nil => exact nodup_nil
  | cons _ _ ih =>
    unfold counted
    split_ifs
    · exact ih _
    · exact nodup_cons.2 ⟨fun h => (mem_counted.1 h).1 mem_cons_self, ih _⟩
    · exact ih _

lemma countValid_eq (signatures : List SignatureEnvelope) (unique : List String) {valid : Nat}
    (hv : valid ≤ u32Max) : countValid X membership allowed signatures unique valid =
      min (valid + (counted X membership allowed signatures unique).length) u32Max := by
  induction signatures generalizing unique valid with
  | nil => simp [countValid, counted, hv]
  | cons s _ ih =>
    unfold countValid counted
    by_cases hu : s.signerNodeId ∈ unique
    · rw [if_pos hu, if_pos hu, ih _ hv]
    · rw [if_neg hu, if_neg hu]
      by_cases ha : s.signerNodeId ∈ allowed
      · rw [if_neg (not_not_intro ha)]
        by_cases hs : X.verifySignature s.signerNodeId (.membership membership) s.signatureHex = true
        · rw [if_pos hs, if_pos ⟨ha, hs⟩, ih _ (Nat.min_le_right _ _), length_cons]
          omega
        · rw [if_neg hs, if_neg (fun h => hs h.2), ih _ hv]
      · rw [if_pos ha, if_neg (fun h => ha h.1), ih _ hv]

/-! ## What the rule accepts -/

/-- At least `k` distinct principals of `allowed` signed the membership. -/
def QuorumSigned (X : Wattswarm) (membership : Membership) (signatures : List SignatureEnvelope)
    (allowed : List String) (k : Nat) : Prop :=
  ∃ signers : List String, signers.Nodup ∧ k ≤ signers.length ∧
    ∀ p ∈ signers, p ∈ allowed ∧ SignedBy X membership signatures p

variable {genesis : Option String} {rows : List (String × List Role)} {author : String}
  {threshold : Nat}
variable {g : String}

lemma allowedSigners_eq_ok : allowedSigners g rows author = .ok allowed ↔
      (author = g ∧ allowed = [g]) ∨
        (author ≠ g ∧ author ∈ finalizersOf rows ∧ allowed = finalizersOf rows) := by
  unfold allowedSigners
  split_ifs with hg hf
  · simp [hg, eq_comm]
  · simp [hg, hf, eq_comm]
  · simp [hg, hf]

/-- The rule accepts a snapshot exactly if the threshold is positive, the genesis authority is
projected, the author may sign, and enough signers are counted. -/
lemma snapshotAuthority_eq_ok :
    snapshotAuthority X genesis rows author membership threshold signatures = .ok () ↔
      threshold ≠ 0 ∧ threshold ≤ signatures.length ∧ ∃ g allowed, genesis = some g ∧
        allowedSigners g rows author = .ok allowed ∧
        threshold ≤ min (counted X membership allowed signatures []).length u32Max := by
  unfold snapshotAuthority
  constructor
  · intro h
    obtain ⟨_, h₁, h⟩ := bind_eq_ok.1 h
    obtain ⟨g, h₂, h⟩ := bind_eq_ok.1 h
    obtain ⟨allowed, h₃, h₄⟩ := bind_eq_ok.1 h
    rw [failIf_eq_ok] at h₁ h₄
    rw [orFail_eq_ok] at h₂
    rw [countValid_eq _ _ (Nat.zero_le _), Nat.zero_add] at h₄
    exact ⟨fun h0 => h₁ (Or.inl h0), by omega, g, allowed, h₂, h₃, by omega⟩
  · rintro ⟨_, _, g, allowed, hg, ha, _⟩
    refine bind_eq_ok.2 ⟨(), failIf_eq_ok.2 (by omega), ?_⟩
    refine bind_eq_ok.2 ⟨g, orFail_eq_ok.2 hg, ?_⟩
    refine bind_eq_ok.2 ⟨allowed, ha, failIf_eq_ok.2 ?_⟩
    rw [countValid_eq _ _ (Nat.zero_le _), Nat.zero_add]
    omega

lemma counted_congr {allowed' : List String} (h : ∀ p, p ∈ allowed ↔ p ∈ allowed')
    (signatures : List SignatureEnvelope) (unique : List String) :
    counted X membership allowed signatures unique =
      counted X membership allowed' signatures unique := by
  induction signatures generalizing unique with
  | nil => rfl
  | cons _ _ ih =>
    unfold counted
    simp only [h, ih]

lemma snapshotAuthority_congr {rows' : List (String × List Role)}
    (h : ∀ p, p ∈ finalizersOf rows ↔ p ∈ finalizersOf rows')
    (hok : snapshotAuthority X genesis rows author membership threshold signatures = .ok ()) :
    snapshotAuthority X genesis rows' author membership threshold signatures = .ok () := by
  obtain ⟨h0, hl, g, _, hg, ha, hc⟩ := snapshotAuthority_eq_ok.1 hok
  refine snapshotAuthority_eq_ok.2 ⟨h0, hl, g, ?_⟩
  rcases allowedSigners_eq_ok.1 ha with ⟨he, rfl⟩ | ⟨hne, hf, rfl⟩
  · exact ⟨[g], hg, allowedSigners_eq_ok.2 (Or.inl ⟨he, rfl⟩), hc⟩
  · rw [counted_congr h] at hc
    exact ⟨_, hg, allowedSigners_eq_ok.2 (Or.inr ⟨hne, (h author).1 hf, rfl⟩), hc⟩

lemma quorumSigned_of_ok
    (h : snapshotAuthority X genesis rows author membership threshold signatures = .ok ()) :
    ∃ g allowed, genesis = some g ∧ allowedSigners g rows author = .ok allowed ∧
      0 < threshold ∧ QuorumSigned X membership signatures allowed threshold := by
  obtain ⟨h0, -, g, allowed, hg, ha, _⟩ := snapshotAuthority_eq_ok.1 h
  refine ⟨g, allowed, hg, ha, Nat.pos_of_ne_zero h0, counted X membership allowed signatures [],
    counted_nodup _ _, by omega, fun p hp => ?_⟩
  obtain ⟨-, hp, hs⟩ := mem_counted.1 hp
  exact ⟨hp, hs.signedBy⟩

variable {k : Nat}

lemma QuorumSigned.le_length (h : QuorumSigned X membership signatures allowed k) :
    k ≤ signatures.length := by
  obtain ⟨signers, hno, _, ha⟩ := h
  have hu : signers ⊆ signatures.map SignatureEnvelope.signerNodeId := by
    intro p hp
    obtain ⟨-, _, hs, rfl, -⟩ := ha p hp
    exact mem_map_of_mem hs
  have hle := List.Nodup.length_le_of_subset hno hu
  rw [length_map] at hle
  omega

lemma quorumSigned_one : QuorumSigned X membership signatures allowed 1 ↔
      ∃ p ∈ allowed, SignedBy X membership signatures p := by
  constructor
  · rintro ⟨_, -, hl, ha⟩
    obtain ⟨p, hp⟩ := exists_mem_of_length_pos hl
    exact ⟨p, ha p hp⟩
  · rintro ⟨p, hp, hs⟩
    exact ⟨[p], nodup_singleton p, Nat.le_refl 1, by simp [hp, hs]⟩

lemma QuorumSigned.le_one (h : QuorumSigned X membership signatures [g] k) : k ≤ 1 := by
  obtain ⟨_, hno, hl, ha⟩ := h
  have hle := List.Nodup.length_le_of_subset hno fun p hp => (ha p hp).1
  exact Nat.le_trans hl hle

/-! ## One Finalizer -/

/-- The rule, evaluated on the genesis authority and the active global roles of the tables. -/
def Db.authorizes (X : Wattswarm) (db : Db) (n author : String) (membership : Membership)
    (threshold : Nat) (signatures : List SignatureEnvelope) : Except String Unit :=
  snapshotAuthority X (Select.run 0 db (.genesisAuthority n)) (Select.run 0 db (.globalRoles n))
    author membership threshold signatures

/-- Exactly one of the Finalizers signed, and its first envelope is valid. -/
def LoneSigner (X : Wattswarm) (membership : Membership) (signatures : List SignatureEnvelope)
    (finalizers : List String) : Prop :=
  ∃ p ∈ finalizers, FirstSigned X membership signatures p ∧
    ∀ q ∈ finalizers, SignedBy X membership signatures q → q = p

lemma authorizes_of_loneSigner {db : Db} {n : String}
    (hg : Select.run 0 db (.genesisAuthority n) = some g) (ha : author ≠ g)
    (hf : author ∈ db.finalizers n) (ho : LoneSigner X membership signatures (db.finalizers n)) :
    db.authorizes X n author membership 1 signatures = .ok () := by
  obtain ⟨p, hp, hi, -⟩ := ho
  have hc : p ∈ counted X membership (db.finalizers n) signatures [] :=
    mem_counted.2 ⟨not_mem_nil, hp, hi⟩
  obtain ⟨_, hs, -⟩ := hi.signedBy
  refine snapshotAuthority_eq_ok.2 ⟨Nat.one_ne_zero, length_pos_of_mem hs, g, _, hg,
    allowedSigners_eq_ok.2 (Or.inr ⟨ha, hf, rfl⟩), ?_⟩
  have hl := length_pos_of_mem hc
  unfold Db.finalizers at hl
  unfold u32Max
  omega

lemma quorumSigned_two_of_ne {q : String} (hne : q ≠ p)
    (hp : p ∈ allowed ∧ SignedBy X membership signatures p)
    (hq : q ∈ allowed ∧ SignedBy X membership signatures q) :
    QuorumSigned X membership signatures allowed 2 := by
  refine ⟨[q, p], by simp [hne], Nat.le_refl 2, fun r hr => ?_⟩
  rcases mem_pair.1 hr with rfl | rfl
  · exact hq
  · exact hp

/-- A snapshot whose author is not genesis is accepted only with the signatures of two Finalizers,
exactly if it is not the case that its author is a Finalizer, its threshold is one and a lone
Finalizer signed it. -/
theorem two_finalizers_iff {X : Wattswarm} {db : Db} {n g author : String}
    {membership : Membership} {threshold : Nat} {signatures : List SignatureEnvelope}
    (hg : Select.run 0 db (.genesisAuthority n) = some g) (hauthor : author ≠ g) :
    (db.authorizes X n author membership threshold signatures = .ok () →
      QuorumSigned X membership signatures (db.finalizers n) 2) ↔
    ¬ (threshold = 1 ∧ author ∈ db.finalizers n ∧
      LoneSigner X membership signatures (db.finalizers n)) := by
  constructor
  · rintro h ⟨rfl, hf, hlo⟩
    obtain ⟨signers, hno, hlen, hall⟩ := h (authorizes_of_loneSigner hg hauthor hf hlo)
    obtain ⟨p, -, -, ho⟩ := hlo
    obtain ⟨q, rest, rfl⟩ := exists_cons_of_length_pos (by omega : 0 < signers.length)
    obtain ⟨r, rest, rfl⟩ := exists_cons_of_length_pos
      (by simp only [length_cons] at hlen; omega : 0 < rest.length)
    have hq := hall q (by simp)
    have hr := hall r (by simp)
    have heq : q = r := (ho q hq.1 hq.2).trans (ho r hr.1 hr.2).symm
    simp [heq] at hno
  · intro hn hok
    obtain ⟨_, -, _, _, hg', ha, _⟩ := snapshotAuthority_eq_ok.1 hok
    rw [hg, Option.some.injEq] at hg'
    subst hg'
    rcases allowedSigners_eq_ok.1 ha with ⟨he, -⟩ | ⟨-, hf, rfl⟩
    · exact absurd he hauthor
    have hall : ∀ p ∈ counted X membership (db.finalizers n) signatures [],
        p ∈ db.finalizers n ∧ FirstSigned X membership signatures p :=
      fun p hp => (mem_counted.1 hp).2
    by_cases h1 : threshold = 1
    · -- one counted signer is not alone, or the event would be of the excluded kind
      obtain ⟨p, hp⟩ := exists_mem_of_length_pos
        (by unfold Db.finalizers; omega :
          0 < (counted X membership (db.finalizers n) signatures []).length)
      have hlo : ¬ LoneSigner X membership signatures (db.finalizers n) :=
        fun hl => hn ⟨h1, hf, hl⟩
      obtain ⟨q, hq, hs, hne⟩ : ∃ q ∈ db.finalizers n,
          SignedBy X membership signatures q ∧ q ≠ p := by
        by_contra hc
        refine hlo ⟨p, (hall p hp).1, (hall p hp).2, fun q hq hs => ?_⟩
        by_contra hne
        exact hc ⟨q, hq, hs, hne⟩
      exact quorumSigned_two_of_ne hne ⟨(hall p hp).1, (hall p hp).2.signedBy⟩ ⟨hq, hs⟩
    · refine ⟨counted X membership (db.finalizers n) signatures [], counted_nodup _ _, ?_,
        fun p hp => ⟨(hall p hp).1, (hall p hp).2.signedBy⟩⟩
      unfold Db.finalizers
      omega

/-! ## Order and noise -/

/-- At least `k` distinct principals of `allowed` have a valid first envelope. -/
def FirstQuorum (X : Wattswarm) (membership : Membership) (signatures : List SignatureEnvelope)
    (allowed : List String) (k : Nat) : Prop :=
  ∃ signers : List String, signers.Nodup ∧ k ≤ signers.length ∧
    ∀ p ∈ signers, p ∈ allowed ∧ FirstSigned X membership signatures p

lemma firstQuorum_iff : FirstQuorum X membership signatures allowed k ↔
    k ≤ (counted X membership allowed signatures []).length := by
  constructor
  · rintro ⟨_, hno, hl, ha⟩
    refine Nat.le_trans hl (hno.length_le_of_subset fun p hp => ?_)
    exact mem_counted.2 ⟨not_mem_nil, ha p hp⟩
  · intro h
    exact ⟨_, counted_nodup _ _, h, fun p hp => (mem_counted.1 hp).2⟩

lemma FirstQuorum.quorumSigned (h : FirstQuorum X membership signatures allowed k) :
    QuorumSigned X membership signatures allowed k := by
  obtain ⟨signers, hno, hl, ha⟩ := h
  exact ⟨signers, hno, hl, fun p hp => ⟨(ha p hp).1, (ha p hp).2.signedBy⟩⟩

/-- The rule accepts exactly what enough allowed signers have signed, in any order and among any
other envelopes, if and only if with enough signers there are enough whose first envelope is
valid. -/
theorem quorum_counts_signers_iff {X : Wattswarm} {rows : List (String × List Role)}
    {g author : String} {allowed : List String} {membership : Membership} {threshold : Nat}
    {signatures : List SignatureEnvelope} (ha : allowedSigners g rows author = .ok allowed)
    (hu32 : threshold ≤ u32Max) :
    (snapshotAuthority X (some g) rows author membership threshold signatures = .ok () ↔
      0 < threshold ∧ QuorumSigned X membership signatures allowed threshold) ↔
    (0 < threshold → QuorumSigned X membership signatures allowed threshold →
      FirstQuorum X membership signatures allowed threshold) := by
  have hok : snapshotAuthority X (some g) rows author membership threshold signatures = .ok () ↔
      0 < threshold ∧ FirstQuorum X membership signatures allowed threshold := by
    rw [snapshotAuthority_eq_ok, Nat.pos_iff_ne_zero]
    refine and_congr_right fun _ => ⟨?_, fun h => ?_⟩
    · rintro ⟨-, _, _, hg, ha', hc⟩
      cases hg
      cases ha.symm.trans ha'
      exact firstQuorum_iff.2 (by omega)
    · have hc := firstQuorum_iff.1 h
      exact ⟨h.quorumSigned.le_length, g, allowed, rfl, ha, by omega⟩
  rw [hok]
  constructor
  · exact fun h hp hi => (h.2 ⟨hp, hi⟩).2
  · exact fun h => ⟨fun hq => ⟨hq.1, hq.2.quorumSigned⟩, fun hs => ⟨hs.1, h hs.1 hs.2⟩⟩

/-- Genesis signs an empty membership, behind an envelope with noise under its name. -/
def noisy : List SignatureEnvelope := [⟨"g", "noise"⟩, ⟨"g", signatureOf "g"⟩]

/-- Two Finalizers sign an empty membership, among envelopes with noise. -/
def crowded : List SignatureEnvelope :=
  [⟨"x", "noise"⟩, ⟨"h", signatureOf "h"⟩, ⟨"h", "noise"⟩, ⟨"f", signatureOf "f"⟩]

theorem quorum_counts_signers_iff_crowded :
    snapshotAuthority (wattswarm []) (some "g") [("f", [.finalizer]), ("h", [.finalizer])] "f" .empty
        2 crowded = .ok () ↔ 0 < 2 ∧ QuorumSigned (wattswarm []) .empty crowded ["f", "h"] 2 :=
  (quorum_counts_signers_iff (g := "g") (by decide) (by decide)).2 fun _ _ =>
    firstQuorum_iff.2 (by decide)

/-- The rule refuses, though genesis has signed, and accepts the same envelopes the other way
round. -/
theorem noise_before_signature_refused : QuorumSigned (wattswarm []) .empty noisy ["g"] 1 ∧
    snapshotAuthority (wattswarm []) (some "g") [] "g" .empty 1 noisy =
      .error "membership quorum signatures are invalid" ∧
    snapshotAuthority (wattswarm []) (some "g") [] "g" .empty 1 noisy.reverse = .ok () := by
  refine ⟨quorumSigned_one.2 ⟨"g", by simp, _, mem_cons_of_mem _ mem_cons_self, rfl, ?_⟩,
    rfl, rfl⟩
  rfl

/-! ## A concrete network -/

/-- Genesis makes `"f"` and `"h"` Finalizers; then `"f"` writes a snapshot of its own, with a
threshold of one. -/
def takeover : List Event :=
  [snapshot "handover" "g" [("g", []), ("f", [.finalizer]), ("h", [.finalizer])] 1 ["g"],
    snapshot "takeover" "f" [("f", [.finalizer])] 1 ["f"]]

def takeoverRun (acts : List (Action Env)) : State :=
  (initial (wattswarm takeover) config (publishOf takeover)
    world).runActions gateway acts

def handedOver : State := takeoverRun (steps 0 59)

set_option maxRecDepth 100000

theorem two_finalizers_iff_takeover : (handedOver.world.db.authorizes (wattswarm takeover) "n" "f"
        (Table.ofList [("f", [.finalizer])]) 1 [⟨"f", signatureOf "f"⟩] = .ok () →
      QuorumSigned (wattswarm takeover) (Table.ofList [("f", [.finalizer])])
        [⟨"f", signatureOf "f"⟩] (handedOver.world.db.finalizers "n") 2) ↔
    ¬ (1 = 1 ∧ "f" ∈ handedOver.world.db.finalizers "n" ∧
      LoneSigner (wattswarm takeover) (Table.ofList [("f", [.finalizer])])
        [⟨"f", signatureOf "f"⟩] (handedOver.world.db.finalizers "n")) :=
  two_finalizers_iff (g := "g") (by decide) (by decide)

/-- The network has two Finalizers, and the publish of the snapshot that `"f"` alone signed
returns an acceptance and leaves `"f"` as the only one. -/
theorem one_finalizer_takes_over : handedOver.world.db.finalizers "n" = ["f", "h"] ∧
      ((handedOver.runActions gateway (steps 1 33)).threads 1).prog.result? =
        some (.publish ⟨.fresh, "takeover", .interactive, 1, "takeover"⟩) ∧
      (handedOver.runActions gateway (steps 1 33)).world.db.finalizers "n" = ["f"] ∧
      ¬ QuorumSigned (wattswarm takeover) (Table.ofList [("f", [.finalizer])])
        [⟨"f", signatureOf "f"⟩] (handedOver.world.db.finalizers "n") 2 := by
  rw [← and_assoc, ← and_assoc]
  refine ⟨by decide, fun h => ?_⟩
  have hle := h.le_length
  exact absurd hle (by decide)

end

end WattGateway.Message
