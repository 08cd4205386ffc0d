import Mathlib.Data.Nat.Find
import Mathlib.Order.Lattice

/-!
# Adoption of the later value

Two replicas, each of which from time to time looks at the other and takes over its value if that is
later; in other steps nothing moves. Values of different times converge as soon as each has looked
once; values of one time never move. `converges_iff` puts the two together.
-/

namespace WattGateway.Adopt

variable {H T : Type} [LinearOrder T] (time : H → T)

/-- The replica on this side looks at the other. -/
def adopt (side : Bool) (p : Bool → H) : Bool → H :=
  if time (p side) < time (p !side) then Function.update p side (p !side) else p

/-- One step: a side looks, or neither does. -/
def look : Option Bool → (Bool → H) → Bool → H
  | none => id
  | some side => adopt time side

variable {time} {p : Nat → Bool → H} {σ : Nat → Option Bool}

variable {q : Bool → H} {side : Bool}

lemma adopt_of_le (h : time (q !side) ≤ time (q side)) : adopt time side q = q := by
  unfold adopt
  rw [if_neg (not_lt.2 h)]

lemma look_of_time_eq (h : time (q true) = time (q false)) (s : Option Bool) :
    look time s q = q := by
  cases s with
  | none => rfl
  | some side =>
    refine adopt_of_le ?_
    cases side with
    | true => exact le_of_eq h.symm
    | false => exact le_of_eq h

lemma stays (hst : ∀ n, p (n + 1) = look time (σ n) (p n)) {n : Nat}
    (h : time (p n true) = time (p n false)) (k : Nat) : p (n + k) = p n := by
  induction k with
  | zero => rfl
  | succ _ ih =>
    rw [← Nat.add_assoc, hst, ih]
    exact look_of_time_eq h _

/-- Until the earlier side looks, nothing moves; when it does, both hold the later value. -/
lemma adopts_at (hs : ∀ n, p (n + 1) = look time (σ n) (p n))
    (h : time (p 0 side) < time (p 0 !side)) {m : Nat} (hm : σ m = some side)
    (hf : ∀ k < m, σ k ≠ some side) : p (m + 1) true = p (m + 1) false := by
  have hb : ∀ k ≤ m, p k = p 0 := by
    intro k
    induction k with
    | zero => exact fun _ => rfl
    | succ k ih =>
      intro _
      rw [hs, ih (by omega)]
      cases hσ : σ k with
      | none => rfl
      | some other =>
        have ho : other = !side := by
          have hne := hf k (by omega)
          cases other <;> cases side <;> simp_all
        refine adopt_of_le ?_
        rw [ho, Bool.not_not]
        exact le_of_lt h
  rw [hs, hm, hb m (Nat.le_refl m)]
  show adopt time side (p 0) true = adopt time side (p 0) false
  unfold adopt
  rw [if_pos h]
  cases side <;> simp

/-- With both sides looking again and again, what the values show becomes and stays the same if and
only if their times differ or it was the same. -/
lemma converges_iff {K : Type} (f : H → K) (hst : ∀ n, p (n + 1) = look time (σ n) (p n))
    (hf : ∀ side n, ∃ m, n ≤ m ∧ σ m = some side) :
    (∃ n, ∀ m, n ≤ m → f (p m true) = f (p m false)) ↔
      time (p 0 true) ≠ time (p 0 false) ∨ f (p 0 true) = f (p 0 false) := by
  by_cases ht : time (p 0 true) = time (p 0 false)
  · have hs : ∀ k, p k = p 0 := fun k => Nat.zero_add k ▸ stays hst ht k
    constructor
    · rintro ⟨n, hn⟩
      have ha := hn n (Nat.le_refl n)
      rw [hs n] at ha
      exact .inr ha
    · rintro (hne | ha)
      · exact absurd ht hne
      · refine ⟨0, fun m _ => ?_⟩
        rw [hs m]
        exact ha
  · refine ⟨fun _ => .inl ht, fun _ => ?_⟩
    -- the earlier side, and its first look
    obtain ⟨side, hlt⟩ : ∃ side, time (p 0 side) < time (p 0 !side) := by
      rcases lt_or_gt_of_ne ht with hlt | hlt
      · exact ⟨true, hlt⟩
      · exact ⟨false, hlt⟩
    have hl : ∃ m, σ m = some side := by
      obtain ⟨m, -, hm⟩ := hf side 0
      exact ⟨m, hm⟩
    have ha := adopts_at hst hlt (Nat.find_spec hl) fun k hk => Nat.find_min hl hk
    refine ⟨Nat.find hl + 1, fun m hm => ?_⟩
    obtain ⟨k, rfl⟩ := Nat.exists_eq_add_of_le hm
    rw [stays hst (congrArg time ha) k, ha]

end WattGateway.Adopt
