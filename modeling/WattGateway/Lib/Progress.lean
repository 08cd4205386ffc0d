import Mathlib.Logic.Hydra
import WattGateway.Lib.Interleave

/-!
# Completion of interleaved calls

A step of a call leaves a part of its program, so finitely many calls take finitely many steps
(`wellFounded_part`). If some call is always ready to move, and stays so while others do not move,
every fair schedule brings all calls to their ends (`Reaches.completes`).
-/

namespace WattGateway

open Prog

namespace Prog

variable {Cmd Query : Type} {Ans : Query → Type} {α β : Type}

/-- What a program can become in one step. -/
inductive Part : Prog Cmd Query Ans α → Prog Cmd Query Ans α → Prop
  | cmd (c : Cmd) (k : Prog Cmd Query Ans α) : Part k (.cmd c k)
  | ask (q : Query) (k : Ans q → Prog Cmd Query Ans α) (a : Ans q) : Part (k a) (.ask q k)
  | fail {p : Prog Cmd Query Ans α} (e : String) (hp : p.isDone = false) : Part (.fail e) p

variable {p : Prog Cmd Query Ans α}

lemma acc_part_done (h : p.isDone = true) : Acc Part p := by
  refine ⟨p, fun p' hp => ?_⟩
  cases hp with
  | cmd => cases h
  | ask => cases h
  | fail _ hp => rw [hp] at h; cases h

lemma wellFounded_part :
    WellFounded (Part : Prog Cmd Query Ans α → Prog Cmd Query Ans α → Prop) := by
  refine ⟨fun p => ?_⟩
  induction p with
  | ret | fail => exact acc_part_done rfl
  | cmd _ _ ih =>
    refine ⟨_, fun p' hp => ?_⟩
    cases hp with
    | cmd => exact ih
    | fail => exact acc_part_done rfl
  | ask _ _ ih =>
    refine ⟨_, fun p' hp => ?_⟩
    cases hp with
    | ask _ _ a => exact ih a
    | fail => exact acc_part_done rfl

/-! ## Commands of a kind -/

variable (B : Cmd → Prop)

def Never : Prog Cmd Query Ans α → Prop
  | ret _ => True
  | fail _ => True
  | cmd c k => ¬ B c ∧ k.Never
  | ask _ k => ∀ a, (k a).Never

/-- The program goes on as `K` says after a command of the kind. -/
def Upon (K : Prog Cmd Query Ans α → Prop) : Prog Cmd Query Ans α → Prop
  | ret _ => True
  | fail _ => True
  | cmd c k => (B c → K k) ∧ k.Upon K
  | ask _ k => ∀ a, (k a).Upon K

abbrev Once : Prog Cmd Query Ans α → Prop := Upon B (Never B)

/-- After a command of the kind the program returns. -/
abbrev Last : Prog Cmd Query Ans α → Prop := Upon B fun k => ∃ a, k = ret a

variable {B} {K : Prog Cmd Query Ans α → Prop}

lemma Never.upon (hp : p.Never B) : p.Upon B K := by
  induction p with
  | ret => trivial
  | fail => trivial
  | cmd _ _ ih => exact ⟨fun hc => absurd hc hp.1, ih hp.2⟩
  | ask _ _ ih => exact fun a => ih a (hp a)

variable {f : α → Prog Cmd Query Ans β} {K' : Prog Cmd Query Ans β → Prop}

lemma Never.bind (hp : p.Never B) (hf : ∀ a, (f a).Never B) : (p >>= f).Never B := by
  induction p with
  | ret a => exact hf a
  | fail => trivial
  | cmd _ _ ih => exact ⟨hp.1, ih hp.2⟩
  | ask _ _ ih => exact fun a => ih a (hp a)

lemma Never.upon_bind (hp : p.Never B) (hf : ∀ a, (f a).Upon B K') : (p >>= f).Upon B K' := by
  induction p with
  | ret a => exact hf a
  | fail => trivial
  | cmd _ _ ih => exact ⟨fun hc => absurd hc hp.1, ih hp.2⟩
  | ask _ _ ih => exact fun a => ih a (hp a)

lemma never_run {c : Cmd} (hc : ¬ B c) : (run c : Prog Cmd Query Ans Unit).Never B := ⟨hc, trivial⟩

lemma never_query (q : Query) : (query q : Prog Cmd Query Ans (Ans q)).Never B := fun _ => trivial

lemma never_bailIf {b : Prop} [Decidable b] {e : String} :
    (bailIf b e : Prog Cmd Query Ans Unit).Never B := by
  unfold bailIf
  split <;> trivial

lemma never_ofExcept (x : Except String α) : (ofExcept x : Prog Cmd Query Ans α).Never B := by
  cases x <;> trivial

lemma never_ofOption {e : String} (x : Option α) :
    (ofOption e x : Prog Cmd Query Ans α).Never B := by
  cases x <;> trivial

lemma never_forEach {xs : List β} {f : β → Prog Cmd Query Ans Unit} (hf : ∀ x, (f x).Never B) :
    (forEach xs f).Never B := by
  induction xs with
  | nil => trivial
  | cons x _ ih => exact (hf x).bind fun _ => ih

lemma Last.map (hp : p.Last B) (f : α → β) : (p >>= fun a => ret (f a)).Last B := by
  induction p with
  | ret => trivial
  | fail => trivial
  | cmd _ _ ih =>
    refine ⟨fun hc => ?_, ih hp.2⟩
    obtain ⟨a, rfl⟩ := hp.1 hc
    exact ⟨f a, rfl⟩
  | ask _ _ ih => exact fun a => ih a (hp a)

lemma Last.lift {Cmd' Query' : Type} {Ans' : Query' → Type} {f : Cmd → Cmd'} {g : Query → Query'}
    {back : ∀ q, Ans' (g q) → Ans q} {B' : Cmd' → Prop} (hp : p.Last B) (hB : ∀ c, B' (f c) → B c) :
    (p.lift f g back).Last B' := by
  induction p with
  | ret => trivial
  | fail => trivial
  | cmd c _ ih =>
    refine ⟨fun hc => ?_, ih hp.2⟩
    obtain ⟨a, rfl⟩ := hp.1 (hB c hc)
    exact ⟨a, rfl⟩
  | ask q _ ih => exact fun a => ih (back q a) (hp (back q a))

end Prog

namespace Sys

variable {Cmd Query : Type} {Ans : Query → Type} {W E α : Type}
  {m : Machine Cmd Query Ans W E} {cond : Sys Cmd Query Ans W α → Action E → Prop}
  {s₀ s : Sys Cmd Query Ans W α}
variable {t : Nat}

lemma part_of_step {a : Action E} (h : (s.step m a).threads t ≠ s.threads t) :
    ((s.step m a).threads t).prog.Part (s.threads t).prog := by
  rcases step_thread m s a t with hs | ⟨_, c, k, _, _, -, hp, -, hk, -⟩ |
    ⟨_, q, k, x, _, -, hp, -, hk, -⟩ | ⟨_, e, -, hd, hf, -⟩
  · exact absurd hs h
  · rw [hp, hk]
    exact .cmd c k
  · rw [hp, hk]
    exact .ask q k x
  · rw [hf]
    exact .fail e hd

lemma Reaches.parts {P : Prog Cmd Query Ans α → Prop} (hpa : ∀ {p p'}, p'.Part p → P p → P p')
    (h₀ : P (s₀.threads t).prog) (h : Reaches m cond s₀ s) : P (s.threads t).prog := by
  induction h with
  | refl => exact h₀
  | @step s a _ _ ih =>
    by_cases hs : (s.step m a).threads t = s.threads t
    · rw [hs]
      exact ih
    · exact hpa (part_of_step hs) ih

lemma Reaches.never {B : Cmd → Prop} (h₀ : (s₀.threads t).prog.Never B) (h : Reaches m cond s₀ s) :
    (s.threads t).prog.Never B := by
  refine h.parts (fun {p p'} hp hn => ?_) h₀
  cases hp with
  | cmd => exact hn.2
  | ask _ _ x => exact hn x
  | fail => trivial

lemma Reaches.last {B : Cmd → Prop} (h₀ : (s₀.threads t).prog.Last B) (h : Reaches m cond s₀ s) :
    (s.threads t).prog.Last B := by
  refine h.parts (fun {p p'} hp hl => ?_) h₀
  cases hp with
  | cmd => exact hl.2
  | ask _ _ x => exact hl x
  | fail => trivial

/-- The next command or query of call `t` is not blocked, whatever its outcome. -/
def Unblocked (m : Machine Cmd Query Ans W E) (s : Sys Cmd Query Ans W α) (t : Nat) : Prop :=
  match (s.threads t).prog with
  | .ret _ => False
  | .fail _ => False
  | .cmd c _ => ∀ o, m.perform t c o s.world ≠ none
  | .ask q _ => ∀ o, m.answer t q o s.world ≠ none

lemma unblocked_cmd {c : Cmd} {k : Prog Cmd Query Ans α} (hp : (s.threads t).prog = .cmd c k) :
    s.Unblocked m t ↔ ∀ o, m.perform t c o s.world ≠ none := by
  unfold Unblocked
  rw [hp]

lemma unblocked_ask {q : Query} {k : Ans q → Prog Cmd Query Ans α}
    (hp : (s.threads t).prog = .ask q k) :
    s.Unblocked m t ↔ ∀ o, m.answer t q o s.world ≠ none := by
  unfold Unblocked
  rw [hp]

lemma Unblocked.cases (h : s.Unblocked m t) :
    (∃ c k, (s.threads t).prog = .cmd c k ∧ ∀ o, m.perform t c o s.world ≠ none) ∨
      ∃ q k, (s.threads t).prog = .ask q k ∧ ∀ o, m.answer t q o s.world ≠ none := by
  unfold Unblocked at h
  split at h
  · exact h.elim
  · exact h.elim
  · exact .inl ⟨_, _, ‹_›, h⟩
  · exact .inr ⟨_, _, ‹_›, h⟩

lemma Unblocked.moves (h : s.Unblocked m t) (o : Outcome) :
    (s.step m (.run t o)).threads t ≠ s.threads t := by
  rcases h.cases with ⟨_, _, hp, hb⟩ | ⟨_, _, hp, hb⟩
  · obtain ⟨x, hx⟩ := Option.ne_none_iff_exists'.1 (hb o)
    exact step_ne_of_perform hp hx
  · obtain ⟨_, hx⟩ := Option.ne_none_iff_exists'.1 (hb o)
    exact step_ne_of_answer hp hx

/-- A call that moves whenever it is its turn, while `P` holds, comes to its end. -/
lemma completes_alone (o : Outcome) {P : Sys Cmd Query Ans W α → Prop}
    (he : ∀ s, P s → P (s.step m (.run t o)))
    (hm : ∀ s, P s → (s.threads t).prog.isDone = false →
      (s.step m (.run t o)).threads t ≠ s.threads t) (hs : P s) :
    ∃ k, P (s.runActions m (List.replicate k (.run t o))) ∧
      ((s.runActions m (List.replicate k (.run t o))).threads t).prog.isDone = true := by
  generalize hp : (s.threads t).prog = p
  induction p using wellFounded_part.induction generalizing s with
  | h _ ih =>
    cases hd : (s.threads t).prog.isDone with
    | true => exact ⟨0, hs, hd⟩
    | false =>
      have ha := part_of_step (hm s hs hd)
      rw [hp] at ha
      obtain ⟨k, hk⟩ := ih _ ha (he s hs) rfl
      exact ⟨k + 1, hk⟩

lemma step_eq_of_thread {o : Outcome} (h : (s.step m (.run t o)).threads t = s.threads t) :
    s.step m (.run t o) = s := by
  cases hp : (s.threads t).prog with
  | ret => simp [step, hp]
  | fail => simp [step, hp]
  | cmd c =>
    cases hx : m.perform t c o s.world with
    | none => simp [step, hp, hx]
    | some => exact absurd h (step_ne_of_perform hp hx)
  | ask q =>
    cases hx : m.answer t q o s.world with
    | none => simp [step, hp, hx]
    | some => exact absurd h (step_ne_of_answer hp hx)

def Ready (m : Machine Cmd Query Ans W E) (cond : Sys Cmd Query Ans W α → Action E → Prop)
    (s : Sys Cmd Query Ans W α) (t : Nat) : Prop :=
  s.Unblocked m t ∧ ∀ o, cond s (.run t o)

open Classical in
/-- The run along a schedule, in which an action that the condition excludes is put off. -/
noncomputable def scheduled (m : Machine Cmd Query Ans W E)
    (cond : Sys Cmd Query Ans W α → Action E → Prop) (s : Sys Cmd Query Ans W α)
    (sched : Nat → Action E) : Nat → Sys Cmd Query Ans W α
  | 0 => s
  | n + 1 =>
    if cond (scheduled m cond s sched n) (sched n) then
      (scheduled m cond s sched n).step m (sched n)
    else scheduled m cond s sched n

/-- A schedule of the calls `T` and the environment in which every call of `T` has its turn again
and again. -/
structure Fair (T : Finset Nat) (sched : Nat → Action E) : Prop where
  only : ∀ n t o, sched n = .run t o → t ∈ T
  often : ∀ t ∈ T, ∀ n, ∃ d o, sched (n + d) = .run t o

section Fair

variable {T : Finset Nat} {sched : Nat → Action E}
variable (m cond s) in
/-- What a scheduled action does: it is put off, it changes no call, or it moves a call of the
schedule. -/
lemma scheduled_cases (hf : Fair T sched) (n : Nat) :
    s.scheduled m cond sched (n + 1) = s.scheduled m cond sched n ∨
    (∃ e, cond (s.scheduled m cond sched n) (.env e) ∧
      s.scheduled m cond sched (n + 1) = (s.scheduled m cond sched n).step m (.env e)) ∨
    ∃ t ∈ T, ∃ o, cond (s.scheduled m cond sched n) (.run t o) ∧
      s.scheduled m cond sched (n + 1) = (s.scheduled m cond sched n).step m (.run t o) ∧
      (s.scheduled m cond sched (n + 1)).threads t ≠ (s.scheduled m cond sched n).threads t := by
  by_cases hc : cond (s.scheduled m cond sched n) (sched n)
  · have hs : s.scheduled m cond sched (n + 1) = (s.scheduled m cond sched n).step m (sched n) :=
      if_pos hc
    cases ha : sched n with
    | env e =>
      rw [ha] at hc hs
      exact .inr (Or.inl ⟨e, hc, hs⟩)
    | run t o =>
      rw [ha] at hc hs
      by_cases hm : (s.scheduled m cond sched (n + 1)).threads t =
          (s.scheduled m cond sched n).threads t
      · rw [hs] at hm ⊢
        exact .inl (step_eq_of_thread hm)
      · exact .inr (Or.inr ⟨t, hf.only n t o ha, o, hc, hs, hm⟩)
  · exact .inl (if_neg hc)

lemma Reaches.scheduled (h : Reaches m cond s₀ s) (hf : Fair T sched) (n : Nat) :
    Reaches m cond s₀ (s.scheduled m cond sched n) := by
  induction n with
  | zero => exact h
  | succ n ih =>
    rcases scheduled_cases m cond s hf n with hs | ⟨_, hc, hs⟩ | ⟨_, -, _, hc, hs, -⟩
    · rw [hs]
      exact ih
    · rw [hs]
      exact ih.step _ hc
    · rw [hs]
      exact ih.step _ hc

lemma hist_scheduled (hf : Fair T sched) (ht : t ∉ T) (n : Nat) :
    ((s.scheduled m cond sched n).threads t).hist = (s.threads t).hist := by
  induction n with
  | zero => rfl
  | succ n ih =>
    rcases scheduled_cases m cond s hf n with hs | ⟨_, -, hs⟩ |
      ⟨t', ht', _, -, hs, -⟩
    · rw [hs, ih]
    · rw [hs]
      exact ih
    · have hne : t ≠ t' := fun he => ht (he ▸ ht')
      rw [hs, step_other hne, ih]

def programs (T : Finset Nat) (s : Sys Cmd Query Ans W α) : Multiset (Prog Cmd Query Ans α) :=
  T.val.map fun t => (s.threads t).prog

lemma programs_step (ht : t ∈ T) {o : Outcome}
    (hne : (s.step m (.run t o)).threads t ≠ s.threads t) :
    Relation.CutExpand Part (programs T (s.step m (.run t o))) (programs T s) := by
  have hs : ∀ t' ∈ T.val.erase t,
      ((s.step m (.run t o)).threads t').prog = (s.threads t').prog := by
    intro _ ht'
    rw [step_other (T.nodup.mem_erase_iff.1 ht').1]
  unfold programs
  rw [← Multiset.cons_erase ht, Multiset.map_cons, Multiset.map_cons,
    Multiset.map_congr rfl hs, ← Multiset.singleton_add, ← Multiset.singleton_add]
  exact Relation.cutExpand_single_add (part_of_step hne) _

lemma someone_moves_by (hf : Fair T sched)
    (he : ∀ (s : Sys Cmd Query Ans W α) (e : E) (t : Nat),
      s.Ready m cond t → (s.step m (.env e)).Ready m cond t) (ht : t ∈ T) :
    ∀ (d n : Nat) (o : Outcome), sched (n + d) = .run t o →
      (s.scheduled m cond sched n).Ready m cond t →
      ∃ n', Relation.CutExpand Part (programs T (s.scheduled m cond sched n'))
        (programs T (s.scheduled m cond sched n)) := by
  intro d
  induction d with
  | zero =>
    intro n o ha hr
    have hs : s.scheduled m cond sched (n + 1) =
        (s.scheduled m cond sched n).step m (.run t o) := by
      rw [← ha]
      refine if_pos ?_
      rw [show sched n = .run t o from ha]
      exact hr.2 o
    refine ⟨n + 1, ?_⟩
    rw [hs]
    exact programs_step ht (hr.1.moves o)
  | succ d ih =>
    intro n o ha hr
    have ha' : sched (n + 1 + d) = .run t o := by
      rw [← ha]
      congr 1
      omega
    rcases scheduled_cases m cond s hf n with hs | ⟨e, -, hs⟩ |
      ⟨_, ht', _, -, hs, hne⟩
    · rw [← hs] at hr ⊢
      exact ih (n + 1) o ha' hr
    · obtain ⟨n', hn'⟩ := ih (n + 1) o ha' (by rw [hs]; exact he _ e t hr)
      rw [hs] at hn'
      exact ⟨n', hn'⟩
    · rw [hs] at hne
      refine ⟨n + 1, ?_⟩
      rw [hs]
      exact programs_step ht' hne

/-- If among finitely many calls that are not all done one is always ready, every fair schedule
brings them all to their ends. -/
lemma Reaches.completes (hrea : ∀ s, Reaches m cond s₀ s → (∀ t, t ∉ T → (s.threads t).hist = []) →
      (∃ t ∈ T, (s.threads t).prog.isDone = false) → ∃ t ∈ T, s.Ready m cond t)
    (he : ∀ (s : Sys Cmd Query Ans W α) (e : E) (t : Nat),
      s.Ready m cond t → (s.step m (.env e)).Ready m cond t)
    (h : Reaches m cond s₀ s) (hT : ∀ t, t ∉ T → (s.threads t).hist = []) (hf : Fair T sched) :
    ∃ n, ∀ t ∈ T, ((s.scheduled m cond sched n).threads t).prog.isDone = true := by
  have key : ∀ (ps : Multiset (Prog Cmd Query Ans α)) (n : Nat),
      ps = programs T (s.scheduled m cond sched n) →
      ∃ n', ∀ t ∈ T, ((s.scheduled m cond sched n').threads t).prog.isDone = true := by
    intro ps
    induction ps using wellFounded_part.cutExpand.induction with
    | _ _ ih =>
      intro n hp
      by_cases hall : ∀ t ∈ T, ((s.scheduled m cond sched n).threads t).prog.isDone = true
      · exact ⟨n, hall⟩
      · push Not at hall
        obtain ⟨t₀, ht₀, hd⟩ := hall
        have hre : ∀ t, t ∉ T → ((s.scheduled m cond sched n).threads t).hist = [] := by
          intro t ht
          rw [hist_scheduled hf ht, hT t ht]
        obtain ⟨t, ht, hr⟩ := hrea _ (h.scheduled hf n) hre ⟨t₀, ht₀, by simpa using hd⟩
        obtain ⟨d, o, ha⟩ := hf.often t ht n
        obtain ⟨n', hn'⟩ := someone_moves_by hf he ht d n o ha hr
        rw [← hp] at hn'
        exact ih _ hn' n' rfl
  exact key _ 0 rfl

end Fair

end Sys

end WattGateway
