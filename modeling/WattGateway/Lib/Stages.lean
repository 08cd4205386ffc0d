import WattGateway.Lib.Interleave

/-!
# Stages of a call

An automaton that watches the history of a call gives it a stage. `Leads` says that a program issues
only queries that its stage allows and ends in a stage with the postcondition, be it with a value or
with an error of its own. `Rests` is the case of programs that start and end in one stage.
-/

namespace WattGateway

/-- An automaton on histories, with the queries that each stage allows. -/
structure Watch (Cmd Query : Type) (Ans : Query → Type) (S : Type) where
  start : S
  next : S → Entry Cmd Query Ans → S
  allows : S → Query → Prop

variable {Cmd Query : Type} {Ans : Query → Type} {S α β γ : Type}

def Watch.stage (A : Watch Cmd Query Ans S) : Hist Cmd Query Ans → S
  | [] => A.start
  | (_, e) :: h => A.next (A.stage h) e

namespace Prog

variable {A : Watch Cmd Query Ans S}

/-- The program issues what its stage allows, whatever it is answered, and ends with the
postcondition. -/
def Leads (A : Watch Cmd Query Ans S) (Q : Except String α → S → Prop) :
    Prog Cmd Query Ans α → S → Prop
  | ret a, s => Q (.ok a) s
  | fail e, s => Q (.error e) s
  | cmd c k, s => k.Leads A Q (A.next s (.did c))
  | ask q k, s => A.allows s q ∧ ∀ a, (k a).Leads A Q (A.next s (.heard q a))

/-- What must hold after the first of two programs. -/
def After (A : Watch Cmd Query Ans S) (f : α → Prog Cmd Query Ans β)
    (Q : Except String β → S → Prop) : Except String α → S → Prop
  | .ok a, s => (f a).Leads A Q s
  | .error e, s => Q (.error e) s

variable {Q : Except String α → S → Prop} {s : S}
variable {p : Prog Cmd Query Ans α}

lemma Leads.mono {P : Except String α → S → Prop} (hp : p.Leads A P s)
    (hPQ : ∀ r s', P r s' → Q r s') : p.Leads A Q s := by
  induction p generalizing s with
  | ret => exact hPQ _ _ hp
  | fail => exact hPQ _ _ hp
  | cmd _ _ ih => exact ih hp
  | ask _ _ ih => exact ⟨hp.1, fun a => ih a (hp.2 a)⟩

variable {f : α → Prog Cmd Query Ans β}

lemma Leads.bind {Q : Except String β → S → Prop} (hp : p.Leads A (After A f Q) s) :
    (p >>= f).Leads A Q s := by
  induction p generalizing s with
  | ret => exact hp
  | fail => exact hp
  | cmd _ _ ih => exact ih hp
  | ask _ _ ih => exact ⟨hp.1, fun a => ih a (hp.2 a)⟩

/-- A loop leads on if each turn keeps an invariant on the turns to come, and its errors are those
of a turn. -/
lemma leads_forEach {xs : List β} {f : β → Prog Cmd Query Ans Unit} {I : List β → S → Prop}
    {Q : Except String Unit → S → Prop} (h₀ : I xs s)
    (hs : ∀ x post s', I (x :: post) s' → (f x).Leads A (fun
      | .ok _, s'' => I post s''
      | .error e, s'' => Q (.error e) s'') s')
    (hq : ∀ s', I [] s' → Q (.ok ()) s') : (forEach xs f).Leads A Q s := by
  induction xs generalizing s with
  | nil => exact hq s h₀
  | cons x xs ih =>
    refine .bind ((hs x xs s h₀).mono fun r s' h => ?_)
    cases r with
    | ok => exact ih h
    | error => exact h

lemma Leads.attempt {Q : Except String (Except String α) → S → Prop}
    (hp : p.Leads A (fun r => Q (.ok r)) s) : p.attempt.Leads A Q s := by
  induction p generalizing s with
  | ret => exact hp
  | fail => exact hp
  | cmd _ _ ih => exact ih hp
  | ask _ _ ih => exact ⟨hp.1, fun a => ih a (hp.2 a)⟩

/-! ## Programs that rest -/

/-- The program starts and ends in the stage. -/
def Rests (A : Watch Cmd Query Ans S) (s : S) (p : Prog Cmd Query Ans α) : Prop :=
  p.Leads A (fun _ s' => s' = s) s

lemma Rests.bind (hp : p.Rests A s) (hf : ∀ a, (f a).Rests A s) : (p >>= f).Rests A s := by
  refine Leads.bind (Leads.mono hp fun r s' hs => ?_)
  subst hs
  cases r with
  | ok a => exact hf a
  | error => rfl

lemma Rests.leads_bind {Q : Except String β → S → Prop} (hp : p.Rests A s)
    (hf : ∀ a, (f a).Leads A Q s) (he : ∀ e, Q (.error e) s) : (p >>= f).Leads A Q s := by
  refine .bind (Leads.mono hp fun r s' hs => ?_)
  subst hs
  cases r with
  | ok a => exact hf a
  | error e => exact he e

lemma rests_query {q : Query} (hq : A.allows s q) (ha : ∀ a, A.next s (.heard q a) = s) :
    (query q).Rests A s :=
  ⟨hq, ha⟩

lemma rests_ofExcept (x : Except String α) : (ofExcept x : Prog Cmd Query Ans α).Rests A s := by
  cases x <;> rfl

lemma rests_bailIf {b : Prop} [Decidable b] (e : String) :
    (bailIf b e : Prog Cmd Query Ans Unit).Rests A s := by
  unfold bailIf
  split <;> rfl

lemma rests_forEach {xs : List β} {f : β → Prog Cmd Query Ans Unit} (hf : ∀ x, (f x).Rests A s) :
    (forEach xs f).Rests A s := by
  induction xs with
  | nil => rfl
  | cons x _ ih => exact (hf x).bind fun _ => ih

lemma Rests.attempt (hp : p.Rests A s) : p.attempt.Rests A s :=
  Leads.attempt hp

end Prog

/-! ## Runs -/

namespace Sys

variable {W E : Type} {m : Machine Cmd Query Ans W E}
  {cond : Sys Cmd Query Ans W α → Action E → Prop} {s₀ s : Sys Cmd Query Ans W α}
  {A : Watch Cmd Query Ans S} {Q : Except String α → S → Prop}

/-- The machine answers: a step may be blocked, but it does not abort a call. -/
def Answers (m : Machine Cmd Query Ans W E) : Prop :=
  (∀ t c o w e w', m.perform t c o w ≠ some (.error e, w')) ∧
    ∀ t q o w e w', m.answer t q o w ≠ some (.error e, w')

/-- Each call's remaining program leads on from the stage it is in. -/
def LeadsAll (A : Watch Cmd Query Ans S) (Q : Except String α → S → Prop)
    (s : Sys Cmd Query Ans W α) : Prop :=
  ∀ t, (s.threads t).prog.Leads A Q (A.stage (s.threads t).hist)

lemma LeadsAll.step (hm : Answers m) (h : LeadsAll A Q s) (a : Action E) :
    LeadsAll A Q (s.step m a) := by
  intro t
  have ht := h t
  rcases step_cases m s a with hs | ⟨_, -, hs⟩ | ⟨t', _, _, _, _, _, -, hp, -, hs⟩ |
    ⟨t', _, _, _, x, _, -, hp, -, hs⟩ | ⟨t', _, _, _, _, _, -, -, hx, -⟩ |
    ⟨t', _, _, _, _, _, -, -, hx, -⟩
  · rw [hs]
    exact ht
  · rw [hs]
    exact ht
  · rw [hs, settle_prog, settle_hist]
    by_cases he : t = t'
    · subst he
      rw [hp] at ht
      rw [advance_self]
      exact ht
    · rw [advance_ne he]
      exact ht
  · rw [hs, settle_prog, settle_hist]
    by_cases he : t = t'
    · subst he
      rw [hp] at ht
      rw [advance_self]
      exact ht.2 x
    · rw [advance_ne he]
      exact ht
  · exact absurd hx (hm.1 _ _ _ _ _ _)
  · exact absurd hx (hm.2 _ _ _ _ _ _)

lemma Reaches.leads (hm : Answers m) (h₀ : LeadsAll A Q s₀) (h : Reaches m cond s₀ s) :
    LeadsAll A Q s := by
  induction h with
  | refl => exact h₀
  | step a _ _ ih => exact ih.step hm a

end Sys

end WattGateway
