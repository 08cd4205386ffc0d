import WattGateway.Message.PageCommits
import Mathlib.Data.List.TakeDrop

/-!
# Texts made of parts

The keys of mailboxes and fences put the length of the network id and a colon before the two parts
(`composite_keys_injective`), and a commit token is two hexadecimal texts with a dot between them
(`commit_tokens_exact`). Both can be taken apart again, since the separator is not in what stands
before it.
-/

namespace WattGateway.Message

open List Pages

lemma span_ne {c : Char} {a b : List Char} (h : c ∉ a) :
    (a ++ c :: b).span (· ≠ c) = (a, c :: b) := by
  have ha : ∀ x ∈ a, decide (x ≠ c) = true := fun x hx => decide_eq_true fun hc => h (hc ▸ hx)
  rw [span_eq_takeWhile_dropWhile, takeWhile_append_of_pos ha, dropWhile_append_of_pos ha]
  simp

/-! ## Keys -/

lemma span_fenceKey (n l : String) : (fenceKey n l).toList.span (· ≠ ':') =
    (Nat.toDigits 10 n.utf8ByteSize, ':' :: (n ++ l).toList) := by
  have hc : ':' ∉ Nat.toDigits 10 n.utf8ByteSize := fun hc =>
    absurd (Nat.isDigit_of_mem_toDigits (by decide) (by decide) hc) (by decide)
  rw [← span_ne hc, ← Nat.toList_repr]
  simp [fenceKey]

lemma fenceKey_inj {n n' l l' : String} (h : fenceKey n l = fenceKey n' l') :
    n = n' ∧ l = l' := by
  have hs := span_fenceKey n l
  rw [h, span_fenceKey] at hs
  obtain ⟨hd, ht⟩ := Prod.mk.inj hs
  have hi : n'.utf8ByteSize = n.utf8ByteSize := by
    rw [← Nat.ofDigitChars_toDigits (n := n'.utf8ByteSize) (by decide) (Nat.le_refl 10), hd,
      Nat.ofDigitChars_toDigits (by decide) (by decide)]
  have hp := String.toList_injective (cons.inj ht).2
  -- the second part begins where the bytes of the network id end
  have hb := congrArg String.toByteArray hp
  rw [String.toByteArray_append, String.toByteArray_append] at hb
  obtain rfl : n' = n := String.toByteArray_inj.1 (ByteArray.append_inj_left hb hi)
  exact ⟨rfl, ((String.append_right_inj n').1 hp).symm⟩

/-- Different mailboxes have different owner rows, and different scopes have different fences, but
for a collision of the hash. -/
theorem composite_keys_injective :
    (∀ n p cls n' p' cls', ownerKey n p cls = ownerKey n' p' cls' → n = n' ∧ p = p' ∧ cls = cls') ∧
    (∀ n l n' l', fenceKey n l = fenceKey n' l' → n = n' ∧ l = l') ∧
    ∀ (hash : String → BitVec 64) n l n' l', hash (fenceKey n l) = hash (fenceKey n' l') →
      (n, l) ≠ (n', l') → fenceKey n l ≠ fenceKey n' l' := by
  refine ⟨fun n p cls n' p' cls' h => ?_, fun n l n' l' h => fenceKey_inj h, ?_⟩
  · obtain ⟨hk, hc⟩ := Prod.mk.inj h
    obtain ⟨hn, hp⟩ := fenceKey_inj hk
    exact ⟨hn, hp, hc⟩
  · intro _ n l n' l' _ hne hk
    refine hne ?_
    obtain ⟨rfl, rfl⟩ := fenceKey_inj hk
    rfl

/-! ## Tokens -/

def hexDigits : List Char := "0123456789abcdef".toList

/-- `hex::encode`. -/
def hexEncode (bytes : Bytes) : String :=
  String.ofList (bytes.flatMap fun b => [b.toNat / 16, b.toNat % 16].map (hexDigits.getD · '0'))

def hexPairs : List Char → Option Bytes
  | [] => some []
  | [_] => none
  | a :: b :: s =>
    match hexDigits.idxOf? a.toLower, hexDigits.idxOf? b.toLower, hexPairs s with
    | some x, some y, some bytes => some (UInt8.ofNat (16 * x + y) :: bytes)
    | _, _, _ => none

/-- `hex::decode`, which takes digits of either case. -/
def hexDecode (s : String) : Option Bytes := hexPairs s.toList

lemma idxOf?_digit : ∀ x < 16, hexDigits.idxOf? (hexDigits.getD x '0').toLower = some x := by
  decide

lemma hexDecode_hexEncode (bytes : Bytes) : hexDecode (hexEncode bytes) = some bytes := by
  rw [hexDecode, hexEncode, String.toList_ofList]
  induction bytes with
  | nil => rfl
  | cons b bytes ih =>
    have hb := b.toNat_lt
    have hx := idxOf?_digit (b.toNat / 16) (by omega)
    have hy := idxOf?_digit (b.toNat % 16) (by omega)
    rw [flatMap_cons, map_cons, map_cons, cons_append, cons_append, map_nil, nil_append, hexPairs,
      hx, hy, ih]
    simp only [Nat.div_add_mod, UInt8.ofNat_toNat]

lemma digit_of_idxOf? {c : Char} {x : Nat} (h : hexDigits.idxOf? c = some x) :
    x < 16 ∧ hexDigits.getD x '0' = c := by
  obtain ⟨hx, hc, -⟩ := idxOf?_eq_some_iff.1 h
  exact ⟨hx, by simpa [getD_eq_getElem?_getD, hx] using hc⟩

/-- A text that decodes is the code of its bytes, up to case. -/
lemma lower_of_hexPairs {s : List Char} {bytes : Bytes} (h : hexPairs s = some bytes) :
    s.map Char.toLower = (hexEncode bytes).toList := by
  rw [hexEncode, String.toList_ofList]
  induction s using hexPairs.induct generalizing bytes with
  | case1 =>
    cases h
    rfl
  | case2 => cases h
  | case3 a b s x y rest hs hy hx ih =>
    rw [hexPairs, hx, hy, hs] at h
    cases h
    obtain ⟨hx', ha⟩ := digit_of_idxOf? hx
    obtain ⟨hy', hb⟩ := digit_of_idxOf? hy
    have hn : (UInt8.ofNat (16 * x + y)).toNat = 16 * x + y :=
      UInt8.toNat_ofNat_of_lt (show _ < 256 by omega)
    rw [flatMap_cons, hn, show (16 * x + y) / 16 = x by omega, show (16 * x + y) % 16 = y by omega]
    simp only [map_cons, map_nil, cons_append, nil_append, ha, hb, ih hs]
  | case4 a b s hno =>
    rw [hexPairs] at h
    split at h
    · rename_i hx hy hs
      exact absurd hs (hno _ _ _ hx hy)
    · cases h

lemma dot_notMem_hexEncode (bytes : Bytes) : '.' ∉ (hexEncode bytes).toList := by
  rw [hexEncode, String.toList_ofList]
  intro h
  obtain ⟨b, -, h⟩ := mem_flatMap.1 h
  obtain ⟨x, hx, h⟩ := mem_map.1 h
  have hb := b.toNat_lt
  have hlt : x < 16 := by
    simp only [mem_cons, not_mem_nil, or_false] at hx
    omega
  exact (by decide : ∀ x < 16, hexDigits.getD x '0' ≠ '.') x hlt h

lemma splitOnce_eq_some {s a b : String} :
    splitOnce s = some (a, b) ↔ s = a ++ "." ++ b ∧ '.' ∉ a.toList := by
  unfold splitOnce
  constructor
  · intro h
    rw [span_eq_takeWhile_dropWhile] at h
    cases hv : s.toList.dropWhile (· ≠ '.') with
    | nil =>
      rw [hv] at h
      cases h
    | cons c v =>
      rw [hv] at h
      cases h
      have hc := head?_dropWhile_not (· ≠ '.') s.toList
      rw [hv] at hc
      obtain rfl : c = '.' := by simpa using hc
      have hs : s.toList.takeWhile (· ≠ '.') ++ '.' :: v = s.toList :=
        hv ▸ takeWhile_append_dropWhile
      refine ⟨String.toList_injective (hs.symm.trans (by simp)), fun hm => ?_⟩
      rw [String.toList_ofList] at hm
      simpa using all_eq_true.1 all_takeWhile _ hm
  · rintro ⟨rfl, h⟩
    rw [show (a ++ "." ++ b).toList = a.toList ++ '.' :: b.toList by simp, span_ne h]
    simp

variable {X : Crates} {secret payload : Bytes} {token : String}

lemma genuinePayload_eq_ok : genuinePayload X secret token = .ok payload ↔
    ∃ a b, splitOnce token = some (a, b) ∧ X.hexDecode a = some payload ∧
      X.hexDecode b = some (X.mac secret payload) := by
  unfold genuinePayload
  constructor
  · intro h
    obtain ⟨⟨a, b⟩, hs, h⟩ := bind_eq_ok.1 h
    obtain ⟨_, ha, h⟩ := bind_eq_ok.1 h
    obtain ⟨_, hb, h⟩ := bind_eq_ok.1 h
    obtain ⟨_, hm, h⟩ := bind_eq_ok.1 h
    cases h
    rw [failIf_eq_ok, not_not] at hm
    exact ⟨a, b, orFail_eq_ok.1 hs, orFail_eq_ok.1 ha, hm ▸ orFail_eq_ok.1 hb⟩
  · rintro ⟨a, b, hs, ha, hb⟩
    refine bind_eq_ok.2 ⟨(a, b), orFail_eq_ok.2 hs, ?_⟩
    refine bind_eq_ok.2 ⟨payload, orFail_eq_ok.2 ha, ?_⟩
    refine bind_eq_ok.2 ⟨_, orFail_eq_ok.2 hb, ?_⟩
    exact bind_eq_ok.2 ⟨(), failIf_eq_ok.2 (not_not.2 rfl), rfl⟩

/-- A token that was issued verifies to its claims until they expire, and a token that verifies is,
up to case, the code of bytes that decode to its claims with their MAC. -/
theorem commit_tokens_exact (X : Crates)
    (hhex : X.hexEncode = hexEncode ∧ X.hexDecode = hexDecode)
    (hjs : ∀ claims, X.fromSlice (X.toVec claims) = some claims) (secret : Bytes) :
    (∀ claims token now, issue X secret claims = .ok token →
      (now < claims.expiresAt → verify X secret token now = .ok claims) ∧
      (claims.expiresAt ≤ now → ∃ e, verify X secret token now = .error e)) ∧
    ∀ token now claims, verify X secret token now = .ok claims →
      now < claims.expiresAt ∧ ∃ payload, X.fromSlice payload = some claims ∧
        token.toList.map Char.toLower =
          (hexEncode payload ++ "." ++ hexEncode (X.mac secret payload)).toList := by
  constructor
  · intro claims token now h
    obtain ⟨_, h⟩ := rest_ok h
    cases h
    have hp : genuinePayload X secret (X.hexEncode (X.toVec claims) ++ "." ++
        X.hexEncode (X.mac secret (X.toVec claims))) = .ok (X.toVec claims) := by
      rw [hhex.1]
      refine genuinePayload_eq_ok.2 ⟨_, _, splitOnce_eq_some.2
        ⟨rfl, dot_notMem_hexEncode _⟩, ?_, ?_⟩
      · rw [hhex.2, hexDecode_hexEncode]
      · rw [hhex.2, hexDecode_hexEncode]
    refine ⟨fun ht => verify_eq_ok.2 ⟨_, hp, hjs claims, ht⟩, fun ht => ?_⟩
    cases hv : verify X secret _ now with
    | error e => exact ⟨e, rfl⟩
    | ok c =>
      obtain ⟨_, hp', hc, hlt⟩ := verify_eq_ok.1 hv
      cases hp.symm.trans hp'
      cases (hjs claims).symm.trans hc
      exact absurd hlt (Nat.not_lt.2 ht)
  · intro token now claims h
    obtain ⟨payload, hp, hc, hlt⟩ := verify_eq_ok.1 h
    obtain ⟨a, b, hs, ha, hb⟩ := genuinePayload_eq_ok.1 hp
    rw [hhex.2] at ha hb
    obtain ⟨rfl, -⟩ := splitOnce_eq_some.1 hs
    refine ⟨hlt, payload, hc, ?_⟩
    simp only [String.toList_append, map_append, lower_of_hexPairs ha, lower_of_hexPairs hb]
    rfl

open Forwarded in
theorem commit_tokens_exact_sample :
    let X := { crates with hexEncode, hexDecode }
    ∃ token, issue X [1] claims = .ok token ∧ verify X [1] token 9 = .ok claims := by
  intro X
  exact ⟨_, rfl, ((commit_tokens_exact X ⟨rfl, rfl⟩ crates_codec [1]).1 claims _ 9 rfl).1 (by decide)⟩

end WattGateway.Message
