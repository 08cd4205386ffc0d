import WattGateway.Lib.Interleave

/-!
# One call at a time

A call that runs alone, each of its steps succeeding, from its start to its end. `serial` computes
its result and the world it leaves, and `Ends` says that there is an end and what holds there; the
rules for `Ends` follow the program.
-/

namespace WattGateway

open Prog

namespace Machine

variable {Cmd Query : Type} {Ans : Query → Type} {W E α β γ : Type}

/-- The result and the world of a call that runs alone, none if it is blocked. -/
def serial (m : Machine Cmd Query Ans W E) (t : Nat) :
    Prog Cmd Query Ans α → W → Option (Except String α × W)
  | .ret a, w => some (.ok a, w)
  | .fail e, w => some (.error e, w)
  | .cmd c k, w =>
    match m.perform t c .ok w with
    | none => none
    | some (.ok _, w') => m.serial t k w'
    | some (.error e, w') => some (.error e, w')
  | .ask q k, w =>
    match m.answer t q .ok w with
    | none => none
    | some (.ok a, w') => m.serial t (k a) w'
    | some (.error e, w') => some (.error e, w')

/-- Alone, the program ends with a result and a world that satisfy `Q`. -/
def Ends (m : Machine Cmd Query Ans W E) (t : Nat) (Q : Except String α → W → Prop)
    (p : Prog Cmd Query Ans α) (w : W) : Prop :=
  ∃ r w', m.serial t p w = some (r, w') ∧ Q r w'

variable {m : Machine Cmd Query Ans W E} {t : Nat} {w : W}
variable {Q : Except String α → W → Prop} {p : Prog Cmd Query Ans α}

lemma Ends.mono {Q' : Except String α → W → Prop} (h : m.Ends t Q p w)
    (hq : ∀ r w', Q r w' → Q' r w') : m.Ends t Q' p w := by
  obtain ⟨r, w', hs, hr⟩ := h
  exact ⟨r, w', hs, hq r w' hr⟩

lemma ends_ret {a : α} (h : Q (.ok a) w) : m.Ends t Q (.ret a) w :=
  ⟨_, w, rfl, h⟩

lemma ends_fail {e : String} (h : Q (.error e) w) : m.Ends t Q (.fail e) w :=
  ⟨_, w, rfl, h⟩

/-- What must hold after the first part of a sequence: an error is the end. -/
def Then (m : Machine Cmd Query Ans W E) (t : Nat) (Q : Except String β → W → Prop)
    (f : α → Prog Cmd Query Ans β) : Except String α → W → Prop
  | .ok a, w => m.Ends t Q (f a) w
  | .error e, w => Q (.error e) w

lemma Ends.bind {f : α → Prog Cmd Query Ans β} {Q : Except String β → W → Prop}
    (h : m.Ends t (m.Then t Q f) p w) : m.Ends t Q (p >>= f) w := by
  induction p generalizing w with
  | ret =>
    obtain ⟨_, _, hs, hr⟩ := h
    cases hs
    exact hr
  | fail =>
    obtain ⟨_, _, hs, hr⟩ := h
    cases hs
    exact ends_fail hr
  | cmd c _ ih =>
    obtain ⟨r, w', hs, hr⟩ := h
    rw [cmd_bind]
    unfold serial at hs
    unfold Ends serial
    cases hp : m.perform t c .ok w with
    | none =>
      rw [hp] at hs
      cases hs
    | some x =>
      obtain ⟨_ | _, w₁⟩ := x
      · rw [hp] at hs
        cases hs
        exact ⟨_, _, rfl, hr⟩
      · rw [hp] at hs
        exact ih ⟨r, w', hs, hr⟩
  | ask q _ ih =>
    obtain ⟨r, w', hs, hr⟩ := h
    rw [ask_bind]
    unfold serial at hs
    unfold Ends serial
    cases hp : m.answer t q .ok w with
    | none =>
      rw [hp] at hs
      cases hs
    | some x =>
      obtain ⟨_ | a, _⟩ := x
      · rw [hp] at hs
        cases hs
        exact ⟨_, _, rfl, hr⟩
      · rw [hp] at hs
        exact ih a ⟨r, w', hs, hr⟩

lemma ends_query {q : Query} {a : Ans q} {w' : W} {Q : Except String (Ans q) → W → Prop}
    (h : m.answer t q .ok w = some (.ok a, w')) (hq : Q (.ok a) w') : m.Ends t Q (query q) w := by
  refine ⟨_, w', ?_, hq⟩
  unfold query serial
  rw [h]
  rfl

lemma ends_ofExcept {x : Except String α} (h : Q x w) : m.Ends t Q (ofExcept x) w := by
  cases x with
  | ok => exact ends_ret h
  | error => exact ends_fail h

lemma ends_bailIf {b : Prop} [Decidable b] {e : String} {Q : Except String Unit → W → Prop}
    (hf : b → Q (.error e) w) (hok : ¬ b → Q (.ok ()) w) : m.Ends t Q (bailIf b e) w := by
  unfold bailIf
  split
  · exact ends_fail (hf ‹b›)
  · exact ends_ret (hok ‹¬ b›)

/-- A loop that ends, with an invariant on the turns made so far; an error ends it. -/
lemma ends_forEach {xs : List β} {f : β → Prog Cmd Query Ans Unit} {I : List β → W → Prop}
    {Q : Except String Unit → W → Prop} (h₀ : I [] w)
    (hs : ∀ pre x post w', xs = pre ++ x :: post → I pre w' → m.Ends t (fun r w'' => match r with
        | .ok _ => I (pre ++ [x]) w''
        | .error e => Q (.error e) w'') (f x) w')
    (hq : ∀ w', I xs w' → Q (.ok ()) w') : m.Ends t Q (forEach xs f) w := by
  -- the turns made are a list `pre`, those to come the list of the recursion
  have go : ∀ (post pre : List β) (w' : W), xs = pre ++ post → I pre w' →
      m.Ends t Q (forEach post f) w' := by
    intro post
    induction post with
    | nil =>
      intro pre w' hx hi
      rw [List.append_nil] at hx
      exact ends_ret (hq w' (hx ▸ hi))
    | cons x post ih =>
      intro pre w' hx hi
      refine Ends.bind ((hs pre x post w' hx hi).mono ?_)
      intro r w'' hr
      cases r with
      | ok => exact ih (pre ++ [x]) w'' (by rw [hx]; simp) hr
      | error => exact hr
  exact go xs [] w rfl h₀

lemma Ends.attempt {Q : Except String (Except String α) → W → Prop}
    (hcmd : ∀ c w e w', m.perform t c .ok w ≠ some (.error e, w'))
    (hask : ∀ q w e w', m.answer t q .ok w ≠ some (.error e, w'))
    (h : m.Ends t (fun r => Q (.ok r)) p w) : m.Ends t Q p.attempt w := by
  induction p generalizing w with
  | ret | fail =>
    obtain ⟨_, _, hs, hr⟩ := h
    cases hs
    exact ends_ret hr
  | cmd c _ ih =>
    obtain ⟨r, w', hs, hr⟩ := h
    unfold serial at hs
    unfold Ends attempt serial
    cases hp : m.perform t c .ok w with
    | none =>
      rw [hp] at hs
      cases hs
    | some x =>
      obtain ⟨e | _, w₁⟩ := x
      · exact absurd hp (hcmd c w e w₁)
      · rw [hp] at hs
        exact ih ⟨r, w', hs, hr⟩
  | ask q _ ih =>
    obtain ⟨r, w', hs, hr⟩ := h
    unfold serial at hs
    unfold Ends attempt serial
    cases hp : m.answer t q .ok w with
    | none =>
      rw [hp] at hs
      cases hs
    | some x =>
      obtain ⟨e | a, w₁⟩ := x
      · exact absurd hp (hask q w e w₁)
      · rw [hp] at hs
        exact ih a ⟨r, w', hs, hr⟩

end Machine

end WattGateway
