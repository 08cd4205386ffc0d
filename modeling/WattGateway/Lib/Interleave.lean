import Mathlib.Data.List.Induction
import WattGateway.Lib.Prog

/-!
# Interleaved runs of programs

Any number of calls, each a program, run on one shared world. Commands and queries are the atomic
steps; one may be blocked, and may fail with or without having taken effect. `Reaches` is
reachability under a condition on the steps, `step_cases` says once what a step can do, and
`Reaches.follows` carries the local proofs of `Follows` into every run.
-/

namespace WattGateway

open Hist List Function

variable {τ : Nat}

/-- How the other side treats a step: it succeeds, it is answered in the negative, it fails
without effect, or it takes effect and the answer is lost. -/
inductive Outcome where
  | ok
  | refused
  | failed
  | lost
  deriving DecidableEq

/-- The meaning of commands and queries on a world `W` with environment moves `E`. A command or
a query that answers `none` is blocked. -/
structure Machine (Cmd Query : Type) (Ans : Query → Type) (W E : Type) where
  clock : W → Nat
  perform : Nat → Cmd → Outcome → W → Option (Except String Unit × W)
  answer : Nat → (q : Query) → Outcome → W → Option (Except String (Ans q) × W)
  /-- What the end of a call does to the world. -/
  finish : Nat → W → W
  env : E → W → W

/-- A call in progress: what remains of its program, its history, and when it ended. -/
structure Thread (Cmd Query : Type) (Ans : Query → Type) (α : Type) where
  prog : Prog Cmd Query Ans α
  hist : Hist Cmd Query Ans
  ended : Option Nat

/-- The calls and the world they share. -/
structure Sys (Cmd Query : Type) (Ans : Query → Type) (W α : Type) where
  world : W
  threads : Nat → Thread Cmd Query Ans α

inductive Action (E : Type) where
  | run (t : Nat) (o : Outcome)
  | env (e : E)

namespace Sys

variable {Cmd Query : Type} {Ans : Query → Type} {W E α : Type}

def start (w : W) (progs : Nat → Prog Cmd Query Ans α) : Sys Cmd Query Ans W α where
  world := w
  threads := fun t => ⟨progs t, [], none⟩

/-- Call `t` has put a command or query behind it. -/
def advance (s : Sys Cmd Query Ans W α) (t : Nat) (p : Prog Cmd Query Ans α)
    (e : Nat × Entry Cmd Query Ans) (w : W) : Sys Cmd Query Ans W α where
  world := w
  threads := update s.threads t ⟨p, e :: (s.threads t).hist, none⟩

def abort (s : Sys Cmd Query Ans W α) (t : Nat) (e : String) (w : W) : Sys Cmd Query Ans W α where
  world := w
  threads := update s.threads t ⟨.fail e, (s.threads t).hist, none⟩

section

variable (m : Machine Cmd Query Ans W E)

def settle (t : Nat) (s : Sys Cmd Query Ans W α) : Sys Cmd Query Ans W α :=
  if (s.threads t).prog.isDone then
    { world := m.finish t s.world
      threads := update s.threads t
        { s.threads t with ended := some (m.clock s.world) } }
  else s

def step (s : Sys Cmd Query Ans W α) : Action E → Sys Cmd Query Ans W α
  | .env e => { s with world := m.env e s.world }
  | .run t o =>
    match (s.threads t).prog with
    | .ret _ => s
    | .fail _ => s
    | .cmd c k =>
      match m.perform t c o s.world with
      | none => s
      | some (.ok _, w) => (s.advance t k (m.clock s.world, .did c) w).settle m t
      | some (.error e, w) => (s.abort t e w).settle m t
    | .ask q k =>
      match m.answer t q o s.world with
      | none => s
      | some (.ok a, w) => (s.advance t (k a) (m.clock s.world, .heard q a) w).settle m t
      | some (.error e, w) => (s.abort t e w).settle m t

def runActions (s : Sys Cmd Query Ans W α) (acts : List (Action E)) : Sys Cmd Query Ans W α :=
  acts.foldl (step m) s

end

variable {m : Machine Cmd Query Ans W E} {s : Sys Cmd Query Ans W α}

lemma runActions_append (acts acts' : List (Action E)) :
    s.runActions m (acts ++ acts') = (s.runActions m acts).runActions m acts' :=
  foldl_append

variable (m s) in
/-- What a step can do: nothing, an environment move, or one command or query of one call, which
succeeds or fails. -/
lemma step_cases (a : Action E) : s.step m a = s ∨
    (∃ e, a = .env e ∧ s.step m a = { s with world := m.env e s.world }) ∨
    (∃ t o c k u w, a = .run t o ∧ (s.threads t).prog = .cmd c k ∧
      m.perform t c o s.world = some (.ok u, w) ∧
      s.step m a = (s.advance t k (m.clock s.world, .did c) w).settle m t) ∨
    (∃ t o q k x w, a = .run t o ∧ (s.threads t).prog = .ask q k ∧
      m.answer t q o s.world = some (.ok x, w) ∧
      s.step m a = (s.advance t (k x) (m.clock s.world, .heard q x) w).settle m t) ∨
    (∃ t o c k e w, a = .run t o ∧ (s.threads t).prog = .cmd c k ∧
      m.perform t c o s.world = some (.error e, w) ∧ s.step m a = (s.abort t e w).settle m t) ∨
    (∃ t o q k e w, a = .run t o ∧ (s.threads t).prog = .ask q k ∧
      m.answer t q o s.world = some (.error e, w) ∧ s.step m a = (s.abort t e w).settle m t) := by
  cases a with
  | env e => exact .inr (.inl ⟨e, rfl, rfl⟩)
  | run t o =>
    cases hp : (s.threads t).prog with
    | ret | fail => left; simp [step, hp]
    | cmd c k =>
      rcases hx : m.perform t c o s.world with _ | ⟨_ | u, w⟩
      · left; simp [step, hp, hx]
      · refine .inr (.inr (.inr (.inr (.inl ?_))))
        exact ⟨t, o, c, k, _, w, rfl, hp, hx, by simp [step, hp, hx]⟩
      · refine .inr (.inr (.inl ?_))
        exact ⟨t, o, c, k, u, w, rfl, hp, hx, by simp [step, hp, hx]⟩
    | ask q k =>
      rcases hx : m.answer t q o s.world with _ | ⟨_ | x, w⟩
      · left; simp [step, hp, hx]
      · refine .inr (.inr (.inr (.inr (.inr ?_))))
        exact ⟨t, o, q, k, _, w, rfl, hp, hx, by simp [step, hp, hx]⟩
      · refine .inr (.inr (.inr (.inl ?_)))
        exact ⟨t, o, q, k, x, w, rfl, hp, hx, by simp [step, hp, hx]⟩

def afterCmd (m : Machine Cmd Query Ans W E) (s : Sys Cmd Query Ans W α) (t : Nat) (c : Cmd)
    (k : Prog Cmd Query Ans α) (r : Except String Unit) (w : W) : Sys Cmd Query Ans W α :=
  match r with
  | .ok _ => s.advance t k (m.clock s.world, .did c) w
  | .error e => s.abort t e w

def afterAsk (m : Machine Cmd Query Ans W E) (s : Sys Cmd Query Ans W α) (t : Nat) (q : Query)
    (k : Ans q → Prog Cmd Query Ans α) (r : Except String (Ans q)) (w : W) : Sys Cmd Query Ans W α :=
  match r with
  | .ok x => s.advance t (k x) (m.clock s.world, .heard q x) w
  | .error e => s.abort t e w

variable (m s) in
lemma step_results (a : Action E) : s.step m a = s ∨
    (∃ e, a = .env e ∧ s.step m a = { s with world := m.env e s.world }) ∨
    (∃ t o c k r w, a = .run t o ∧ (s.threads t).prog = .cmd c k ∧
      m.perform t c o s.world = some (r, w) ∧ s.step m a = (s.afterCmd m t c k r w).settle m t) ∨
    (∃ t o q k r w, a = .run t o ∧ (s.threads t).prog = .ask q k ∧
      m.answer t q o s.world = some (r, w) ∧ s.step m a = (s.afterAsk m t q k r w).settle m t) := by
  rcases step_cases m s a with hs | ⟨e, ha, hs⟩ | ⟨t, o, c, k, u, w, ha, hp, hx, hs⟩ |
    ⟨t, o, q, k, x, w, ha, hp, hx, hs⟩ | ⟨t, o, c, k, e, w, ha, hp, hx, hs⟩ |
    ⟨t, o, q, k, e, w, ha, hp, hx, hs⟩
  · exact .inl hs
  · exact .inr (.inl ⟨e, ha, hs⟩)
  · exact .inr (.inr (.inl ⟨t, o, c, k, .ok u, w, ha, hp, hx, hs⟩))
  · exact .inr (.inr (.inr ⟨t, o, q, k, .ok x, w, ha, hp, hx, hs⟩))
  · exact .inr (.inr (.inl ⟨t, o, c, k, .error e, w, ha, hp, hx, hs⟩))
  · exact .inr (.inr (.inr ⟨t, o, q, k, .error e, w, ha, hp, hx, hs⟩))

variable {t : Nat} {k : Prog Cmd Query Ans α} {o : Outcome} {c : Cmd} {w : W}

lemma step_cmd {u : Unit}
    (hp : (s.threads t).prog = .cmd c k) (hx : m.perform t c o s.world = some (.ok u, w)) :
    s.step m (.run t o) = (s.advance t k (m.clock s.world, .did c) w).settle m t := by
  simp [step, hp, hx]

variable {q : Query} {x : Ans q}

lemma step_ask {k : Ans q → Prog Cmd Query Ans α} (hp : (s.threads t).prog = .ask q k)
    (hx : m.answer t q o s.world = some (.ok x, w)) :
    s.step m (.run t o) = (s.advance t (k x) (m.clock s.world, .heard q x) w).settle m t := by
  simp [step, hp, hx]

/-! ## Threads after a step -/

@[simp] lemma start_threads (w : W) (progs : Nat → Prog Cmd Query Ans α) (t : Nat) :
    (start w progs).threads t = ⟨progs t, [], none⟩ := rfl

@[simp] lemma start_world (w : W) (progs : Nat → Prog Cmd Query Ans α) :
    (start w progs).world = w := rfl

variable {p : Prog Cmd Query Ans α} {e : Nat × Entry Cmd Query Ans} {err : String}

@[simp] lemma advance_world : (s.advance t p e w).world = w := rfl

@[simp] lemma abort_world : (s.abort t err w).world = w := rfl

@[simp] lemma advance_self : (s.advance t p e w).threads t = ⟨p, e :: (s.threads t).hist, none⟩ :=
  update_self _ _ _

variable {t' : Nat}

lemma advance_ne (h : t' ≠ t) : (s.advance t p e w).threads t' = s.threads t' :=
  update_of_ne h _ _

@[simp] lemma abort_self : (s.abort t err w).threads t = ⟨.fail err, (s.threads t).hist, none⟩ :=
  update_self _ _ _

lemma abort_ne (h : t' ≠ t) : (s.abort t err w).threads t' = s.threads t' :=
  update_of_ne h _ _

@[simp] lemma world_afterCmd {r : Except String Unit} : (s.afterCmd m t c k r w).world = w := by
  cases r <;> rfl

variable {r : Except String (Ans q)}

@[simp] lemma world_afterAsk {k : Ans q → Prog Cmd Query Ans α} :
    (s.afterAsk m t q k r w).world = w := by
  cases r <;> rfl

lemma afterCmd_ne {r : Except String Unit} (h : t' ≠ t) :
    (s.afterCmd m t c k r w).threads t' = s.threads t' := by
  cases r with
  | ok => exact advance_ne h
  | error => exact abort_ne h

lemma afterAsk_ne {k : Ans q → Prog Cmd Query Ans α} (h : t' ≠ t) :
    (s.afterAsk m t q k r w).threads t' = s.threads t' := by
  cases r with
  | ok => exact advance_ne h
  | error => exact abort_ne h

lemma settle_ne (h : t' ≠ t) : (s.settle m t).threads t' = s.threads t' := by
  unfold settle
  split
  · exact update_of_ne h _ _
  · rfl

variable (m s) in
@[simp] lemma settle_prog (t t' : Nat) : ((s.settle m t).threads t').prog = (s.threads t').prog := by
  by_cases h : t' = t
  · subst h
    unfold settle
    split
    · simp
    · rfl
  · rw [settle_ne h]

variable (m s) in
@[simp] lemma settle_hist (t t' : Nat) : ((s.settle m t).threads t').hist = (s.threads t').hist := by
  by_cases h : t' = t
  · subst h
    unfold settle
    split
    · simp
    · rfl
  · rw [settle_ne h]

lemma settle_of_done (h : (s.threads t).prog.isDone = true) : s.settle m t =
      { world := m.finish t s.world
        threads := update s.threads t
          { s.threads t with ended := some (m.clock s.world) } } := by
  unfold settle
  rw [if_pos h]

lemma settle_of_not_done (h : (s.threads t).prog.isDone = false) : s.settle m t = s := by
  unfold settle
  rw [if_neg (by rw [h]; exact Bool.false_ne_true)]

variable (m s) in
/-- What a step can do to one call: nothing, its next command or query succeeds, or it fails. -/
lemma step_thread (a : Action E) (t : Nat) : (s.step m a).threads t = s.threads t ∨
    (∃ o c k u w, a = .run t o ∧ (s.threads t).prog = .cmd c k ∧
      m.perform t c o s.world = some (.ok u, w) ∧ ((s.step m a).threads t).prog = k ∧
      ((s.step m a).threads t).hist = (m.clock s.world, .did c) :: (s.threads t).hist) ∨
    (∃ o q k x w, a = .run t o ∧ (s.threads t).prog = .ask q k ∧
      m.answer t q o s.world = some (.ok x, w) ∧ ((s.step m a).threads t).prog = k x ∧
      ((s.step m a).threads t).hist = (m.clock s.world, .heard q x) :: (s.threads t).hist) ∨
    (∃ o e, a = .run t o ∧ (s.threads t).prog.isDone = false ∧
      ((s.step m a).threads t).prog = .fail e ∧
      ((s.step m a).threads t).hist = (s.threads t).hist) := by
  rcases step_cases m s a with hs | ⟨e, -, hs⟩ | ⟨t', o, c, k, u, w, ha, hp, hx, hs⟩ |
    ⟨t', o, q, k, x, w, ha, hp, hx, hs⟩ | ⟨t', o, c, k, e, w, ha, hp, hx, hs⟩ |
    ⟨t', o, q, k, e, w, ha, hp, hx, hs⟩
  · exact .inl (by rw [hs])
  · exact .inl (by rw [hs])
  · by_cases ht : t = t'
    · subst ht
      exact .inr (.inl ⟨o, c, k, u, w, ha, hp, hx, by rw [hs]; simp, by rw [hs]; simp⟩)
    · exact .inl (by rw [hs, settle_ne ht, advance_ne ht])
  · by_cases ht : t = t'
    · subst ht
      exact .inr (.inr (.inl ⟨o, q, k, x, w, ha, hp, hx, by rw [hs]; simp, by rw [hs]; simp⟩))
    · exact .inl (by rw [hs, settle_ne ht, advance_ne ht])
  all_goals
    by_cases ht : t = t'
    · subst ht
      exact .inr (.inr (.inr ⟨o, e, ha, by rw [hp]; rfl, by rw [hs]; simp, by rw [hs]; simp⟩))
    · exact .inl (by rw [hs, settle_ne ht, abort_ne ht])

lemma step_of_done (h : (s.threads t).prog.isDone = true) (a : Action E) :
    (s.step m a).threads t = s.threads t := by
  rcases step_thread m s a t with hs | ⟨_, _, _, _, _, -, hp, -⟩ | ⟨_, _, _, _, _, -, hp, -⟩ |
    ⟨_, _, -, hp, -⟩
  · exact hs
  · rw [hp] at h; cases h
  · rw [hp] at h; cases h
  · rw [hp] at h; cases h

lemma step_ne_of_perform {x : Except String Unit × W} (hp : (s.threads t).prog = .cmd c k)
    (hx : m.perform t c o s.world = some x) : (s.step m (.run t o)).threads t ≠ s.threads t := by
  intro he
  obtain ⟨r, _⟩ := x
  cases r with
  | ok =>
    have hh := congrArg (fun th => th.hist.length) he
    rw [step_cmd hp hx] at hh
    simp at hh
  | error =>
    have hh := congrArg (fun th => th.prog.isDone) he
    simp [step, hp, hx] at hh

lemma step_ne_of_answer {k : Ans q → Prog Cmd Query Ans α} {x : Except String (Ans q) × W}
    (hp : (s.threads t).prog = .ask q k) (hx : m.answer t q o s.world = some x) :
    (s.step m (.run t o)).threads t ≠ s.threads t := by
  intro he
  obtain ⟨r, _⟩ := x
  cases r with
  | ok =>
    have hh := congrArg (fun th => th.hist.length) he
    rw [step_ask hp hx] at hh
    simp at hh
  | error =>
    have hh := congrArg (fun th => th.prog.isDone) he
    simp [step, hp, hx] at hh

variable (m s) in
lemma step_moved (a : Action E) (t : Nat) :
    (s.step m a).threads t = s.threads t ∨ ∃ o, a = .run t o := by
  rcases step_thread m s a t with hs | ⟨o, _, _, _, _, ha, -⟩ | ⟨o, _, _, _, _, ha, -⟩ |
    ⟨o, _, ha, -⟩
  · exact .inl hs
  · exact .inr ⟨o, ha⟩
  · exact .inr ⟨o, ha⟩
  · exact .inr ⟨o, ha⟩

lemma step_other (h : t ≠ t') (o : Outcome) : (s.step m (.run t' o)).threads t = s.threads t := by
  rcases step_moved m s (.run t' o) t with hs | ⟨_, ha⟩
  · exact hs
  · cases ha
    exact absurd rfl h

variable {a : Action E}

lemma running_of_step (h : ((s.step m a).threads t).prog.isDone = false) :
    (s.threads t).prog.isDone = false := by
  by_contra hd
  rw [Bool.not_eq_false] at hd
  rw [step_of_done hd, hd] at h
  cases h

variable (m s) in
lemma step_settled (a : Action E) (t : Nat) : (s.step m a).threads t = s.threads t ∨
    ((s.step m a).threads t).prog.isDone = false ∧ ((s.step m a).threads t).ended = none ∨
    ((s.step m a).threads t).prog.isDone = true ∧ ∃ w, (s.step m a).world = m.finish t w ∧
      ((s.step m a).threads t).ended = some (m.clock w) := by
  have he : ∀ s' : Sys Cmd Query Ans W α, (s'.threads t).ended = none →
      ((s'.settle m t).threads t).prog.isDone = false ∧ ((s'.settle m t).threads t).ended = none ∨
      ((s'.settle m t).threads t).prog.isDone = true ∧ ∃ w, (s'.settle m t).world = m.finish t w ∧
        ((s'.settle m t).threads t).ended = some (m.clock w) := by
    intro s' hs'
    cases hd : (s'.threads t).prog.isDone with
    | false =>
      rw [settle_of_not_done hd]
      exact .inl ⟨hd, hs'⟩
    | true =>
      rw [settle_of_done hd]
      exact .inr ⟨by simpa using hd, s'.world, rfl, by simp⟩
  rcases step_cases m s a with hs | ⟨_, -, hs⟩ | ⟨t', _, _, _, _, _, _, _, _, hs⟩ |
    ⟨t', _, _, _, _, _, _, _, _, hs⟩ | ⟨t', _, _, _, _, _, _, _, _, hs⟩ |
    ⟨t', _, _, _, _, _, _, _, _, hs⟩
  · exact .inl (by rw [hs])
  · exact .inl (by rw [hs])
  all_goals
    by_cases ht : t = t'
    · subst ht
      rw [hs]
      exact .inr (he _ (by simp))
    · refine .inl ?_
      rw [hs, settle_ne ht]
      first | exact advance_ne ht | exact abort_ne ht

variable (m s) in
lemma hist_suffix_step (a : Action E) (t : Nat) :
    (s.threads t).hist <:+ ((s.step m a).threads t).hist := by
  rcases step_thread m s a t with hs | ⟨_, _, _, _, _, -, -, -, -, hh⟩ |
    ⟨_, _, _, _, _, -, -, -, -, hh⟩ | ⟨_, _, -, -, -, hh⟩
  · exact ⟨[], by rw [hs, nil_append]⟩
  · rw [hh]
    apply suffix_cons
  · rw [hh]
    apply suffix_cons
  · exact ⟨[], by rw [hh, nil_append]⟩

lemma heard_of_step (h : ((s.step m a).threads t).hist.Heard q x) : (s.threads t).hist.Heard q x ∨
      ∃ o k w, a = .run t o ∧ (s.threads t).prog = .ask q k ∧
        m.answer t q o s.world = some (.ok x, w) ∧
        s.step m a = (s.advance t (k x) (m.clock s.world, .heard q x) w).settle m t := by
  rcases step_thread m s a t with hs | ⟨o, _, k, _, w, -, -, -, -, hh⟩ |
    ⟨o, _, k, _, w, ha, hp, hx, -, hh⟩ | ⟨o, _, -, -, -, hh⟩
  · rw [hs] at h
    exact .inl h
  · rw [hh, heard_did] at h
    exact .inl h
  · rw [hh] at h
    rcases h.of_cons with h' | h'
    · cases h'
      exact .inr ⟨o, k, w, ha, hp, hx, ha ▸ step_ask hp hx⟩
    · exact .inl h'
  · rw [hh] at h
    exact .inl h

lemma did_of_step
    (h : (τ, .did c) ∈ ((s.step m a).threads t).hist) : (τ, .did c) ∈ (s.threads t).hist ∨
      ∃ o k u w, a = .run t o ∧ (s.threads t).prog = .cmd c k ∧ τ = m.clock s.world ∧
        m.perform t c o s.world = some (.ok u, w) ∧
        s.step m a = (s.advance t k (m.clock s.world, .did c) w).settle m t := by
  rcases step_thread m s a t with hs | ⟨o, _, k, u, w, ha, hp, hx, -, hh⟩ |
    ⟨o, _, k, _, w, -, -, -, -, hh⟩ | ⟨o, _, -, -, -, hh⟩
  · rw [hs] at h
    exact .inl h
  · rw [hh] at h
    rcases mem_cons.1 h with h' | h'
    · cases h'
      exact .inr ⟨o, k, u, w, ha, hp, rfl, hx, ha ▸ step_cmd hp hx⟩
    · exact .inl h'
  · rw [hh] at h
    rcases mem_cons.1 h with h' | h'
    · cases h'
    · exact .inl h'
  · rw [hh] at h
    exact .inl h

lemma did_advance {c' : Cmd} : (((s.advance t k (τ, .did c) w).settle m t).threads t').hist.Did c' ↔
      t' = t ∧ c' = c ∨ (s.threads t').hist.Did c' := by
  rw [settle_hist]
  by_cases ht : t' = t
  · subst ht
    rw [advance_self, did_did]
    simp
  · rw [advance_ne ht]
    simp [ht]

lemma did_answer
    {c' : Cmd} : (((s.advance t k (τ, .heard q x) w).settle m t).threads t').hist.Did c' ↔
      (s.threads t').hist.Did c' := by
  rw [settle_hist]
  by_cases ht : t' = t
  · subst ht
    rw [advance_self, did_heard]
  · rw [advance_ne ht]

lemma hist_abort {e : String} :
    (((s.abort t e w).settle m t).threads t').hist = (s.threads t').hist := by
  rw [settle_hist]
  by_cases ht : t' = t
  · subst ht
    rw [abort_self]
  · rw [abort_ne ht]

/-! ## Reachability -/

/-- Reachable from `s₀` by steps that meet a condition on the state before the step. -/
inductive Reaches (m : Machine Cmd Query Ans W E)
    (cond : Sys Cmd Query Ans W α → Action E → Prop) (s₀ : Sys Cmd Query Ans W α) :
    Sys Cmd Query Ans W α → Prop
  | refl : Reaches m cond s₀ s₀
  | step {s : Sys Cmd Query Ans W α} (a : Action E) :
      Reaches m cond s₀ s → cond s a → Reaches m cond s₀ (s.step m a)

def anyStep : Sys Cmd Query Ans W α → Action E → Prop := fun _ _ => True

variable {cond : Sys Cmd Query Ans W α → Action E → Prop} {s₀ : Sys Cmd Query Ans W α}

lemma Reaches.weaken {cond' : Sys Cmd Query Ans W α → Action E → Prop}
    (h : Reaches m cond s₀ s) (hc : ∀ s a, cond s a → cond' s a) : Reaches m cond' s₀ s := by
  induction h with
  | refl => exact .refl
  | step a _ ha ih => exact .step a ih (hc _ _ ha)

lemma Reaches.any (h : Reaches m cond s₀ s) : Reaches m anyStep s₀ s :=
  h.weaken fun _ _ _ => trivial

lemma Reaches.trans {s₁ : Sys Cmd Query Ans W α} (h₁ : Reaches m cond s₀ s₁)
    (h₂ : Reaches m cond s₁ s) : Reaches m cond s₀ s := by
  induction h₂ with
  | refl => exact h₁
  | step a _ ha ih => exact .step a ih ha

lemma reaches_runActions_of (acts : List (Action E)) (s₀ : Sys Cmd Query Ans W α)
    (h : ∀ a ∈ acts, ∀ s, cond s a) : Reaches m cond s₀ (s₀.runActions m acts) := by
  induction acts using List.reverseRecOn with
  | nil => exact .refl
  | append_singleton _ a ih =>
    have hc := ih fun a' ha' => h a' (mem_append_left _ ha')
    unfold runActions at hc ⊢
    rw [foldl_append]
    exact .step a hc (h a (by simp) _)

/-- A list of actions each of which meets the condition where it is taken. -/
lemma reaches_of_take (acts : List (Action E)) (s₀ : Sys Cmd Query Ans W α)
    (h : ∀ i (hi : i < acts.length), cond (s₀.runActions m (acts.take i)) acts[i]) :
    Reaches m cond s₀ (s₀.runActions m acts) := by
  have key : ∀ i ≤ acts.length, Reaches m cond s₀ (s₀.runActions m (acts.take i)) := by
    intro i
    induction i with
    | zero => exact fun _ => .refl
    | succ i ih =>
      intro _
      have hs := (ih (by omega)).step acts[i] (h i (by omega))
      rw [take_succ_eq_append_getElem (by omega), runActions_append]
      exact hs
  have ha := key acts.length (Nat.le_refl _)
  rw [take_length] at ha
  exact ha

/-- One call alone takes steps, and each meets the condition, with the other calls where they
were. -/
lemma reaches_alone (k : Nat) (s₀ : Sys Cmd Query Ans W α) (h : ∀ j < k, (∀ t', t' ≠ t →
        (s₀.runActions m (List.replicate j (.run t o))).threads t' = s₀.threads t') →
      cond (s₀.runActions m (List.replicate j (.run t o))) (.run t o)) :
    Reaches m cond s₀ (s₀.runActions m (List.replicate k (.run t o))) ∧ ∀ t', t' ≠ t →
        (s₀.runActions m (List.replicate k (.run t o))).threads t' = s₀.threads t' := by
  induction k with
  | zero => exact ⟨.refl, fun _ _ => rfl⟩
  | succ k ih =>
    obtain ⟨hr, ho⟩ := ih fun j hj => h j (Nat.lt_succ_of_lt hj)
    have hs := h k (Nat.lt_succ_self k) ho
    unfold runActions at hr ho hs ⊢
    rw [replicate_succ', foldl_append]
    exact ⟨.step _ hr hs, fun t' ht => (step_other ht o).trans (ho t' ht)⟩

lemma reaches_runActions (acts : List (Action E)) (s₀ : Sys Cmd Query Ans W α) :
    Reaches m anyStep s₀ (s₀.runActions m acts) :=
  reaches_runActions_of acts s₀ fun _ _ _ => trivial

/-- Each call's remaining program follows its rule after its history. -/
def FollowsAll (R : Nat → Rule Cmd Query Ans) (Q : Nat → α → Hist Cmd Query Ans → Prop)
    (s : Sys Cmd Query Ans W α) : Prop :=
  ∀ t, (s.threads t).prog.Follows (R t) (Q t) (s.threads t).hist

variable {R : Nat → Rule Cmd Query Ans} {Q : Nat → α → Hist Cmd Query Ans → Prop}

section

variable (h : FollowsAll R Q s)
include h

lemma FollowsAll.cmd (hp : (s.threads t).prog = .cmd c k) : (R t).onCmd (s.threads t).hist c := by
  have ht := h t
  rw [hp] at ht
  exact ht.1

lemma FollowsAll.ask {k : Ans q → Prog Cmd Query Ans α}
    (hp : (s.threads t).prog = .ask q k) : (R t).onAsk (s.threads t).hist q := by
  have ht := h t
  rw [hp] at ht
  exact ht.1

lemma FollowsAll.ret {x : α} (hp : (s.threads t).prog = .ret x) : Q t x (s.threads t).hist := by
  have ht := h t
  rw [hp] at ht
  exact ht

lemma FollowsAll.step (a : Action E) : FollowsAll R Q (s.step m a) := by
  intro t
  have ht := h t
  rcases step_thread m s a t with hs | ⟨_, _, _, _, _, -, hp, -, hk, hh⟩ |
    ⟨_, _, _, _, _, -, hp, -, hk, hh⟩ | ⟨_, _, -, -, hk, -⟩
  · rw [hs]
    exact ht
  · rw [hp] at ht
    rw [hk, hh]
    exact ht.2 _
  · rw [hp] at ht
    rw [hk, hh]
    exact ht.2 _ _
  · rw [hk]
    trivial

end

lemma Reaches.follows (h₀ : FollowsAll R Q s₀) (h : Reaches m cond s₀ s) : FollowsAll R Q s := by
  induction h with
  | refl => exact h₀
  | step a _ _ ih => exact ih.step a

lemma failsWhen_step {F : String → Hist Cmd Query Ans → Prop}
    (h : (s.threads t).prog.FailsWhen F (s.threads t).hist)
    (hc : ∀ o c k e w, a = .run t o → (s.threads t).prog = .cmd c k →
      m.perform t c o s.world = some (.error e, w) → F e (s.threads t).hist)
    (hk : ∀ o q k e w, a = .run t o → (s.threads t).prog = .ask q k →
      m.answer t q o s.world = some (.error e, w) → F e (s.threads t).hist) :
    ((s.step m a).threads t).prog.FailsWhen F ((s.step m a).threads t).hist := by
  rcases step_cases m s a with hs | ⟨e, -, hs⟩ | ⟨t', o, c, k, _, w, -, hp, -, hs⟩ |
    ⟨t', o, q, k, _, w, -, hp, -, hs⟩ | ⟨t', o, c, k, e, w, ha, hp, hx, hs⟩ |
    ⟨t', o, q, k, e, w, ha, hp, hx, hs⟩ <;> rw [hs]
  · exact h
  · exact h
  all_goals
    rw [settle_prog, settle_hist]
    by_cases ht : t = t'
    · subst ht
      first
        | (rw [hp] at h; rw [advance_self]; exact h _)
        | (rw [hp] at h; rw [advance_self]; exact h _ _)
        | (rw [abort_self]; exact hc o c k e w ha hp hx)
        | (rw [abort_self]; exact hk o q k e w ha hp hx)
    · first
        | (rw [advance_ne ht]; exact h)
        | (rw [abort_ne ht]; exact h)

variable {F : Nat → String → Hist Cmd Query Ans → Prop}

section

variable (h₀ : ∀ t, (s₀.threads t).prog.FailsWhen (F t) (s₀.threads t).hist)
include h₀

/-- A call that has failed did so with an error and a history its program allows, if the errors of
the machine are allowed after any history. -/
lemma Reaches.failsWhen
    (hc : ∀ t c o w e w', m.perform t c o w = some (.error e, w') → ∀ h, F t e h)
    (ha : ∀ t q o w e w', m.answer t q o w = some (.error e, w') → ∀ h, F t e h)
    (h : Reaches m cond s₀ s) (t : Nat) :
    (s.threads t).prog.FailsWhen (F t) (s.threads t).hist := by
  induction h with
  | refl => exact h₀ t
  | step _ _ _ ih =>
    exact failsWhen_step ih (fun _ _ _ _ _ _ _ hx => hc _ _ _ _ _ _ hx _)
      fun _ _ _ _ _ _ _ hx => ha _ _ _ _ _ _ hx _

lemma Reaches.failsWhen_running (h : Reaches m cond s₀ s)
    (hr : (s.threads t).prog.isDone = false) :
    (s.threads t).prog.FailsWhen (F t) (s.threads t).hist := by
  induction h with
  | refl => exact h₀ t
  | @step s a _ _ ih =>
    have ih := ih (running_of_step hr)
    rcases step_thread m s a t with hs | ⟨_, _, _, _, _, -, hp, -, hk, hh⟩ |
      ⟨_, _, _, x, _, -, hp, -, hk, hh⟩ | ⟨_, _, -, -, hk, -⟩
    · rw [hs]
      exact ih
    · rw [hp] at ih
      rw [hk, hh]
      exact ih _
    · rw [hp] at ih
      rw [hk, hh]
      exact ih _ x
    · rw [hk] at hr
      cases hr

end

lemma Reaches.hist_suffix (h : Reaches m cond s₀ s) (t : Nat) :
    (s₀.threads t).hist <:+ (s.threads t).hist := by
  induction h with
  | refl => exact suffix_refl _
  | step a _ _ ih => exact ih.trans (hist_suffix_step m _ a t)

/-- An invariant of the reachable states: it holds at the start and each step keeps it. -/
lemma Reaches.invariant {P : Sys Cmd Query Ans W α → Prop} (h₀ : P s₀)
    (hst : ∀ s a, Reaches m cond s₀ s → cond s a → P s → P (s.step m a))
    (h : Reaches m cond s₀ s) : P s := by
  induction h with
  | refl => exact h₀
  | step a hr hc ih => exact hst _ a hr hc ih

section

variable (h₀ : FollowsAll R Q s₀) (hem : ∀ t, (s₀.threads t).hist = [])
include h₀ hem

/-- A query that its rule allows a call once has at most one answer in the call's history. -/
lemma Reaches.heard_unique
    (hu : ∀ h, (R t).onAsk h q → ∀ r, ¬ h.Heard q r) (h : Reaches m cond s₀ s) {y : Ans q}
    (hx : (s.threads t).hist.Heard q x) (hy : (s.threads t).hist.Heard q y) : x = y := by
  induction h with
  | refl =>
    rw [hem t] at hx
    exact absurd hx (not_heard_nil q x)
  | @step s a hr _ ih =>
    rcases heard_of_step hx with hx | ⟨_, _, _, ha, hp, hax, -⟩ <;>
      rcases heard_of_step hy with hy | ⟨_, _, _, ha', hp', hay, -⟩
    · exact ih hx hy
    · exact absurd hx (hu _ ((hr.follows h₀).ask hp') x)
    · exact absurd hy (hu _ ((hr.follows h₀).ask hp) y)
    · cases ha.symm.trans ha'
      cases hax.symm.trans hay
      rfl

lemma Reaches.did_allowed (h : Reaches m cond s₀ s) (hd : (s.threads t).hist.Did c) :
    ∃ h', h' <:+ (s.threads t).hist ∧ (R t).onCmd h' c := by
  induction h with
  | refl =>
    rw [hem t] at hd
    exact absurd hd (not_did_nil c)
  | @step s a hr _ ih =>
    obtain ⟨τ, hm⟩ := hd
    rcases did_of_step hm with hold | ⟨_, _, _, _, -, hp, -⟩
    · obtain ⟨h', hs, hok⟩ := ih ⟨τ, hold⟩
      exact ⟨h', hs.trans (hist_suffix_step m s a t), hok⟩
    · exact ⟨(s.threads t).hist, hist_suffix_step m s a t, (hr.follows h₀).cmd hp⟩

end

lemma Reaches.done_of_ended (ho : ∀ t, (s₀.threads t).ended = none) (h : Reaches m cond s₀ s)
    {e : Nat} (he : (s.threads t).ended = some e) : (s.threads t).prog.isDone = true := by
  induction h with
  | refl =>
    rw [ho t] at he
    cases he
  | @step s a _ _ ih =>
    rcases step_settled m s a t with hs | ⟨-, hn⟩ | ⟨hd, -⟩
    · rw [hs] at he ⊢
      exact ih he
    · rw [hn] at he
      cases he
    · exact hd

section

variable (hem : ∀ t, (s₀.threads t).hist = []) (h : Reaches m cond s₀ s)
  (hx : (s.threads t).hist.Heard q x)
include hem h hx

lemma Reaches.answered : ∃ s' o k w, Reaches m cond s₀ s' ∧ cond s' (.run t o) ∧
      Reaches m cond (s'.step m (.run t o)) s ∧ (s'.threads t).prog = .ask q k ∧
      m.answer t q o s'.world = some (.ok x, w) := by
  induction h with
  | refl =>
    rw [hem t] at hx
    exact absurd hx (not_heard_nil q x)
  | @step s a hr hc ih =>
    rcases heard_of_step hx with hx | ⟨o, k, w, rfl, hp, ha, -⟩
    · obtain ⟨s', o, k, w, h₁, hc', h₂, he⟩ := ih hx
      exact ⟨s', o, k, w, h₁, hc', h₂.step a hc, he⟩
    · exact ⟨s, o, k, w, hr, hc, .refl, hp, ha⟩

/-- An answer in a history was given in an earlier state of the run. -/
lemma Reaches.asked :
    ∃ s' o k w, Reaches m cond s₀ s' ∧ cond s' (.run t o) ∧ Reaches m cond s' s ∧
      (s'.threads t).prog = .ask q k ∧ m.answer t q o s'.world = some (.ok x, w) := by
  obtain ⟨s', o, k, w, h₁, hc, h₂, hr⟩ := h.answered hem hx
  exact ⟨s', o, k, w, h₁, hc, (Reaches.refl.step _ hc).trans h₂, hr⟩

end

lemma Reaches.heard_allowed (h₀ : FollowsAll R Q s₀) (hem : ∀ t, (s₀.threads t).hist = [])
    (h : Reaches m cond s₀ s) (hx : (s.threads t).hist.Heard q x) :
    ∃ h', h' <:+ (s.threads t).hist ∧ (R t).onAsk h' q := by
  obtain ⟨s', _, _, _, h₁, -, h₂, hp, -⟩ := h.asked hem hx
  exact ⟨(s'.threads t).hist, h₂.hist_suffix t, (h₁.follows h₀).ask hp⟩

end Sys

end WattGateway
