import Mathlib.Data.List.Basic

/-!
# Programs over commands and queries

A request handler is a program: it issues commands, which answer nothing, and queries, whose answers
it goes on with, until it returns or fails. A failing command or query ends it with its error, as
the `?` operator does. `Follows` is a logic of histories: a program issues a command or a query only
when the rule allows it after its own history, so nothing other programs do can disturb a proof.
-/

namespace WattGateway

open List

/-- A program with commands in `Cmd`, queries in `Query` and answers in `Ans`. -/
inductive Prog (Cmd Query : Type) (Ans : Query → Type) (α : Type) where
  | ret (a : α)
  | fail (e : String)
  | cmd (c : Cmd) (k : Prog Cmd Query Ans α)
  | ask (q : Query) (k : Ans q → Prog Cmd Query Ans α)

namespace Prog

variable {Cmd Query : Type} {Ans : Query → Type} {α β γ : Type}

def bind : Prog Cmd Query Ans α → (α → Prog Cmd Query Ans β) → Prog Cmd Query Ans β
  | ret a, f => f a
  | fail e, _ => fail e
  | cmd c k, f => cmd c (k.bind f)
  | ask q k, f => ask q fun a => (k a).bind f

instance : Monad (Prog Cmd Query Ans) where
  pure := ret
  bind := bind

@[simp] lemma pure_eq (a : α) : (pure a : Prog Cmd Query Ans α) = ret a := rfl

@[simp] lemma ret_bind (a : α) (f : α → Prog Cmd Query Ans β) : ret a >>= f = f a := rfl

@[simp] lemma fail_bind (e : String) (f : α → Prog Cmd Query Ans β) :
    (fail e : Prog Cmd Query Ans α) >>= f = fail e := rfl

@[simp] lemma cmd_bind (c : Cmd) (k : Prog Cmd Query Ans α) (f : α → Prog Cmd Query Ans β) :
    cmd c k >>= f = cmd c (k >>= f) := rfl

@[simp] lemma ask_bind (q : Query) (k : Ans q → Prog Cmd Query Ans α)
    (f : α → Prog Cmd Query Ans β) : ask q k >>= f = ask q fun a => k a >>= f := rfl

def run (c : Cmd) : Prog Cmd Query Ans Unit := cmd c (ret ())

def query (q : Query) : Prog Cmd Query Ans (Ans q) := ask q ret

/-- `bail!` under a condition. -/
def bailIf (b : Prop) [Decidable b] (e : String) : Prog Cmd Query Ans Unit :=
  if b then fail e else ret ()

/-- `?` on a computed result. -/
def ofExcept : Except String α → Prog Cmd Query Ans α
  | .ok a => ret a
  | .error e => fail e

/-- `.context(e)?` on an optional value. -/
def ofOption (e : String) : Option α → Prog Cmd Query Ans α
  | some a => ret a
  | none => fail e

/-- `for x in xs { f(x).await? }`. -/
def forEach : List β → (β → Prog Cmd Query Ans Unit) → Prog Cmd Query Ans Unit
  | [], _ => ret ()
  | x :: xs, f => f x >>= fun _ => forEach xs f

/-- `for x in xs { if let Some(y) = f(x).await? { ys.push(y) } }`. -/
def collect : List β → (β → Prog Cmd Query Ans (Option γ)) → Prog Cmd Query Ans (List γ)
  | [], _ => ret []
  | x :: xs, f => f x >>= fun y => collect xs f >>= fun ys => ret (y.toList ++ ys)

/-- The result of a program, an error of its own as a value. -/
def attempt : Prog Cmd Query Ans α → Prog Cmd Query Ans (Except String α)
  | ret a => ret (.ok a)
  | fail e => ret (.error e)
  | cmd c k => cmd c k.attempt
  | ask q k => ask q fun a => (k a).attempt

/-- A program over part of the commands and queries. -/
def lift {Cmd' Query' : Type} {Ans' : Query' → Type} (f : Cmd → Cmd') (g : Query → Query')
    (back : ∀ q, Ans' (g q) → Ans q) : Prog Cmd Query Ans α → Prog Cmd' Query' Ans' α
  | ret a => ret a
  | fail e => fail e
  | cmd c k => cmd (f c) (k.lift f g back)
  | ask q k => ask (g q) fun a => (k (back q a)).lift f g back

section Lift

variable {Cmd' Query' : Type} {Ans' : Query' → Type} (f : Cmd → Cmd') (g : Query → Query')
  (back : ∀ q, Ans' (g q) → Ans q)

lemma lift_bind (p : Prog Cmd Query Ans α) (k : α → Prog Cmd Query Ans β) :
    (p >>= k).lift f g back = p.lift f g back >>= fun a => (k a).lift f g back := by
  induction p with
  | ret => rfl
  | fail => rfl
  | cmd c _ ih => exact congrArg (cmd (f c)) ih
  | ask q p ih => exact congrArg (ask (g q)) (funext fun a => ih (back q a))

lemma lift_bailIf (b : Prop) [Decidable b] (e : String) :
    (bailIf b e : Prog Cmd Query Ans Unit).lift f g back = bailIf b e := by
  unfold bailIf
  split <;> rfl

lemma lift_ofOption (e : String) (x : Option α) :
    (ofOption e x : Prog Cmd Query Ans α).lift f g back = ofOption e x := by
  cases x <;> rfl

end Lift

def isDone : Prog Cmd Query Ans α → Bool
  | ret _ => true
  | fail _ => true
  | cmd _ _ => false
  | ask _ _ => false

def result? : Prog Cmd Query Ans α → Option α
  | ret a => some a
  | _ => none

lemma result?_eq_some {p : Prog Cmd Query Ans α} {a : α} : p.result? = some a ↔ p = ret a := by
  cases p <;> simp [result?]

def error? : Prog Cmd Query Ans α → Option String
  | fail e => some e
  | _ => none

lemma error?_eq_some {p : Prog Cmd Query Ans α} {e : String} :
    p.error? = some e ↔ p = fail e := by
  cases p <;> simp [error?]

@[simp] lemma isDone_ret (a : α) : (ret a : Prog Cmd Query Ans α).isDone = true := rfl

@[simp] lemma isDone_fail (e : String) : (fail e : Prog Cmd Query Ans α).isDone = true := rfl

@[simp] lemma isDone_cmd (c : Cmd) (k : Prog Cmd Query Ans α) : (cmd c k).isDone = false := rfl

@[simp] lemma isDone_ask (q : Query) (k : Ans q → Prog Cmd Query Ans α) :
    (ask q k).isDone = false := rfl

end Prog

/-! ## Histories -/

section Hist

variable {Cmd Query : Type} {Ans : Query → Type}

/-- What a program issued: a command, or a query with the answer it got. -/
inductive Entry (Cmd Query : Type) (Ans : Query → Type) where
  | did (c : Cmd)
  | heard (q : Query) (a : Ans q)

/-- Entries with their clock readings, newest first. -/
abbrev Hist (Cmd Query : Type) (Ans : Query → Type) := List (Nat × Entry Cmd Query Ans)

namespace Hist

/-- The query was answered so at some point. -/
def Heard (h : Hist Cmd Query Ans) (q : Query) (a : Ans q) : Prop := ∃ τ, (τ, .heard q a) ∈ h

/-- The command was issued at some point. -/
def Did (h : Hist Cmd Query Ans) (c : Cmd) : Prop := ∃ τ, (τ, .did c) ∈ h

variable {h : Hist Cmd Query Ans} {c : Cmd}

variable {h' : Hist Cmd Query Ans}

lemma Did.mono (hc : Did h c) (hs : h <:+ h') : Did h' c :=
  hc.imp fun _ hm => hs.subset hm

variable {q : Query} {a : Ans q}

lemma Heard.mono (hq : Heard h q a) (hs : h <:+ h') : Heard h' q a :=
  hq.imp fun _ hm => hs.subset hm

@[simp] lemma not_did_nil (c : Cmd) : ¬ Did ([] : Hist Cmd Query Ans) c := by
  rintro ⟨_, h⟩
  cases h

variable {τ : Nat}

@[simp] lemma did_heard : Did ((τ, .heard q a) :: h) c ↔ Did h c := by
  refine ⟨?_, fun hc => hc.mono (suffix_cons _ _)⟩
  rintro ⟨σ, hm⟩
  cases hm with
  | tail _ hm => exact ⟨σ, hm⟩

@[simp] lemma did_did {c' : Cmd} : Did ((τ, .did c') :: h) c ↔ c = c' ∨ Did h c := by
  constructor
  · rintro ⟨σ, hm⟩
    cases hm with
    | head => exact .inl rfl
    | tail _ hm => exact .inr ⟨σ, hm⟩
  · rintro (rfl | hc)
    · exact ⟨τ, mem_cons_self⟩
    · exact hc.mono (suffix_cons _ _)

lemma did_self (τ : Nat) (c : Cmd) (h : Hist Cmd Query Ans) : Did ((τ, .did c) :: h) c :=
  ⟨τ, mem_cons_self⟩

@[simp] lemma not_heard_nil (q : Query) (a : Ans q) : ¬ Heard ([] : Hist Cmd Query Ans) q a := by
  rintro ⟨_, h⟩
  cases h

lemma Heard.cons (hq : Heard h q a) (e : Nat × Entry Cmd Query Ans) : Heard (e :: h) q a :=
  hq.imp fun _ hm => mem_cons_of_mem _ hm

@[simp] lemma heard_did : Heard ((τ, .did c) :: h) q a ↔ Heard h q a := by
  refine ⟨?_, fun hq => hq.cons _⟩
  rintro ⟨σ, hm⟩
  cases hm with
  | tail _ hm => exact ⟨σ, hm⟩

lemma heard_self (τ : Nat) (q : Query) (a : Ans q) (h : Hist Cmd Query Ans) :
    Heard ((τ, .heard q a) :: h) q a :=
  ⟨τ, mem_cons_self⟩

lemma Heard.of_cons {q' : Query} {a' : Ans q'} (hq : Heard ((τ, .heard q' a') :: h) q a) :
    (⟨q, a⟩ : Σ q, Ans q) = ⟨q', a'⟩ ∨ Heard h q a := by
  obtain ⟨σ, hm⟩ := hq
  cases hm with
  | head => exact .inl rfl
  | tail _ hm => exact .inr ⟨σ, hm⟩

end Hist

end Hist

/-! ## Following a rule -/

/-- What a program may issue after a history. -/
structure Rule (Cmd Query : Type) (Ans : Query → Type) where
  onCmd : Hist Cmd Query Ans → Cmd → Prop
  onAsk : Hist Cmd Query Ans → Query → Prop

namespace Prog

variable {Cmd Query : Type} {Ans : Query → Type} {α β : Type} {R : Rule Cmd Query Ans}

/-- The program issues only what the rule allows, whatever it is answered, and returns with the
postcondition. -/
def Follows (R : Rule Cmd Query Ans) (Q : α → Hist Cmd Query Ans → Prop) :
    Prog Cmd Query Ans α → Hist Cmd Query Ans → Prop
  | ret a, h => Q a h
  | fail _, _ => True
  | cmd c k, h => R.onCmd h c ∧ ∀ τ, k.Follows R Q ((τ, .did c) :: h)
  | ask q k, h => R.onAsk h q ∧ ∀ τ a, (k a).Follows R Q ((τ, .heard q a) :: h)

variable {Q : α → Hist Cmd Query Ans → Prop} {Q' : β → Hist Cmd Query Ans → Prop}
  {h : Hist Cmd Query Ans}

@[simp] lemma follows_ret {a : α} : (ret a : Prog Cmd Query Ans α).Follows R Q h ↔ Q a h :=
  Iff.rfl

variable {e : String}

@[simp] lemma follows_fail : (fail e : Prog Cmd Query Ans α).Follows R Q h :=
  trivial

variable {p : Prog Cmd Query Ans α} {f : α → Prog Cmd Query Ans β}

lemma Follows.bind (hp : p.Follows R (fun a h' => (f a).Follows R Q' h') h) :
    (p >>= f).Follows R Q' h := by
  induction p generalizing h with
  | ret => exact hp
  | fail => trivial
  | cmd _ _ ih => exact ⟨hp.1, fun τ => ih (hp.2 τ)⟩
  | ask _ _ ih => exact ⟨hp.1, fun τ a => ih a (hp.2 τ a)⟩

lemma Follows.mono {P : α → Hist Cmd Query Ans → Prop} (hp : p.Follows R P h)
    (hPQ : ∀ a h', P a h' → Q a h') : p.Follows R Q h := by
  induction p generalizing h with
  | ret => exact hPQ _ _ hp
  | fail => trivial
  | cmd _ _ ih => exact ⟨hp.1, fun τ => ih (hp.2 τ)⟩
  | ask _ _ ih => exact ⟨hp.1, fun τ a => ih a (hp.2 τ a)⟩

def anything : Rule Cmd Query Ans := ⟨fun _ _ => True, fun _ _ => True⟩

lemma follows_anything (p : Prog Cmd Query Ans α) (h : Hist Cmd Query Ans) :
    p.Follows anything (fun _ h' => h <:+ h') h := by
  induction p generalizing h with
  | ret => exact suffix_refl h
  | fail => trivial
  | cmd _ _ ih =>
    exact ⟨trivial, fun τ => (ih _).mono fun _ _ hs => (suffix_cons _ _).trans hs⟩
  | ask _ _ ih =>
    exact ⟨trivial, fun τ a => (ih a _).mono fun _ _ hs => (suffix_cons _ _).trans hs⟩

lemma follows_run {c : Cmd} {Q : Unit → Hist Cmd Query Ans → Prop} (hc : R.onCmd h c)
    (hq : ∀ τ, Q () ((τ, .did c) :: h)) : (run c).Follows R Q h :=
  ⟨hc, hq⟩

lemma follows_query {q : Query} {Q : Ans q → Hist Cmd Query Ans → Prop} (hq : R.onAsk h q)
    (ha : ∀ τ a, Q a ((τ, .heard q a) :: h)) : (query q).Follows R Q h :=
  ⟨hq, ha⟩

lemma follows_bailIf {b : Prop} [Decidable b] {Q : Unit → Hist Cmd Query Ans → Prop}
    (hq : ¬ b → Q () h) : (bailIf b e).Follows R Q h := by
  unfold bailIf
  by_cases hb : b
  · rw [if_pos hb]; trivial
  · rw [if_neg hb]; exact hq hb

lemma follows_ofExcept {x : Except String α} (hq : ∀ a, x = .ok a → Q a h) :
    (ofExcept x).Follows R Q h := by
  cases x with
  | ok a => exact hq a rfl
  | error => trivial

lemma follows_ofOption {x : Option α} (hq : ∀ a, x = some a → Q a h) :
    (ofOption e x).Follows R Q h := by
  cases x with
  | some a => exact hq a rfl
  | none => trivial

variable {xs : List β}

/-- A loop follows the rule if each turn keeps an invariant on the turns made so far. -/
lemma follows_forEach {f : β → Prog Cmd Query Ans Unit} {I : List β → Hist Cmd Query Ans → Prop}
    {Q : Unit → Hist Cmd Query Ans → Prop} (h₀ : I [] h)
    (hs : ∀ pre x post h', xs = pre ++ x :: post → I pre h' →
      (f x).Follows R (fun _ => I (pre ++ [x])) h') (hq : ∀ h', I xs h' → Q () h') :
    (forEach xs f).Follows R Q h := by
  -- the turns made are a list `pre`, those to come the list of the recursion
  have go : ∀ (post pre : List β) (h' : Hist Cmd Query Ans), xs = pre ++ post → I pre h' →
      (forEach post f).Follows R Q h' := by
    intro post
    induction post with
    | nil =>
      intro pre h' he hi
      rw [append_nil] at he
      exact hq h' (he ▸ hi)
    | cons x post ih =>
      intro pre h' he hi
      refine .bind ((hs pre x post h' he hi).mono fun _ h'' hi' => ?_)
      exact ih (pre ++ [x]) h'' (by rw [he]; simp) hi'
  exact go xs [] h rfl h₀

/-- A loop whose turns each extend the history by `E` and leave a mark that lasts. -/
lemma follows_marks {f : β → Prog Cmd Query Ans Unit}
    {E : Hist Cmd Query Ans → Hist Cmd Query Ans → Prop} {D : β → Hist Cmd Query Ans → Prop}
    (h₀ : E h h) (ht : ∀ {h' h''}, E h h' → E h' h'' → E h h'')
    (hl : ∀ {x h' h''}, D x h' → E h' h'' → D x h'')
    (hs : ∀ x ∈ xs, ∀ h', E h h' → (f x).Follows R (fun _ h'' => E h' h'' ∧ D x h'') h') :
    (forEach xs f).Follows R (fun _ h' => E h h' ∧ ∀ x ∈ xs, D x h') h := by
  refine follows_forEach (I := fun done h' => E h h' ∧ ∀ x ∈ done, D x h') ⟨h₀, by simp⟩ ?_
    fun _ hi => hi
  rintro _ x _ h' hxs ⟨he, hd⟩
  refine (hs x (by rw [hxs]; simp) h' he).mono ?_
  rintro _ _ ⟨he', hx⟩
  refine ⟨ht he he', fun y hy => ?_⟩
  rcases mem_append.1 hy with hy | hy
  · exact hl (hd y hy) he'
  · rw [mem_singleton.1 hy]
    exact hx

lemma follows_turns {f : β → Prog Cmd Query Ans Unit}
    {E : Hist Cmd Query Ans → Hist Cmd Query Ans → Prop} (h₀ : E h h)
    (ht : ∀ {h' h''}, E h h' → E h' h'' → E h h'')
    (hs : ∀ x ∈ xs, ∀ h', E h h' → (f x).Follows R (fun _ => E h') h') :
    (forEach xs f).Follows R (fun _ => E h) h :=
  (follows_marks (D := fun _ _ => True) h₀ ht (fun _ _ => trivial) fun x hx h' he =>
    (hs x hx h' he).mono fun _ _ he' => ⟨he', trivial⟩).mono fun _ _ hi => hi.1

lemma follows_collect {γ : Type} {f : β → Prog Cmd Query Ans (Option γ)}
    {I : Hist Cmd Query Ans → Prop} {P : γ → Hist Cmd Query Ans → Prop}
    {Q : List γ → Hist Cmd Query Ans → Prop} (h₀ : I h) (ht : ∀ x ∈ xs, ∀ h', I h' →
      (f x).Follows R (fun y h'' => I h'' ∧ h' <:+ h'' ∧ ∀ z, y = some z → P z h'') h')
    (hm : ∀ z h' h'', P z h' → h' <:+ h'' → P z h'')
    (hq : ∀ ys h', I h' → h <:+ h' → (∀ y ∈ ys, P y h') → Q ys h') :
    (collect xs f).Follows R Q h := by
  induction xs generalizing h Q with
  | nil => exact hq [] h h₀ (suffix_refl h) (by simp)
  | cons x _ ih =>
    refine .bind ((ht x mem_cons_self h h₀).mono ?_)
    rintro _ h' ⟨hi, hs, hy⟩
    refine .bind (ih hi (fun z hz => ht z (mem_cons_of_mem x hz)) ?_)
    intro _ h'' hi' hs' hys
    refine hq _ h'' hi' (hs.trans hs') ?_
    intro z hz
    rcases mem_append.1 hz with hz | hz
    · exact hm z h' h'' (hy z (Option.mem_toList.1 hz)) hs'
    · exact hys z hz

lemma Follows.attempt {Q : Except String α → Hist Cmd Query Ans → Prop}
    (hp : p.Follows R (fun a => Q (.ok a)) h) (he : ∀ e h', h <:+ h' → Q (.error e) h') :
    p.attempt.Follows R Q h := by
  induction p generalizing h with
  | ret => exact hp
  | fail e => exact he e h (suffix_refl h)
  | cmd _ _ ih =>
    exact ⟨hp.1, fun τ => ih (hp.2 τ) fun e h' hs => he e h' ((suffix_cons _ _).trans hs)⟩
  | ask _ _ ih =>
    exact ⟨hp.1, fun τ a => ih a (hp.2 τ a) fun e h' hs => he e h' ((suffix_cons _ _).trans hs)⟩

variable {Query' Cmd' : Type} {Ans' : Query' → Type} {g : Query' → Query}
  {back : ∀ q, Ans (g q) → Ans' q}

lemma follows_lift {f : Cmd' → Cmd} {p : Prog Cmd' Query' Ans' α}
    (hc : ∀ c h', R.onCmd h' (f c)) (ha : ∀ q h', R.onAsk h' (g q))
    (hq : ∀ a h', h <:+ h' → Q a h') : (p.lift f g back).Follows R Q h := by
  induction p generalizing h with
  | ret a => exact hq a h (suffix_refl h)
  | fail => trivial
  | cmd c _ ih =>
    exact ⟨hc c h, fun τ => ih fun a h' hs => hq a h' ((suffix_cons _ _).trans hs)⟩
  | ask q _ ih =>
    exact ⟨ha q h, fun τ x => ih (back q x) fun a h' hs => hq a h' ((suffix_cons _ _).trans hs)⟩

lemma follows_lift_run {f : Cmd' → Cmd} {c : Cmd'} {Q : Unit → Hist Cmd Query Ans → Prop}
    (hc : R.onCmd h (f c)) (hq : ∀ τ, Q () ((τ, .did (f c)) :: h)) :
    ((run c : Prog Cmd' Query' Ans' Unit).lift f g back).Follows R Q h :=
  ⟨hc, hq⟩

lemma follows_lift_query {f : Cmd' → Cmd} {back : ∀ q, Ans (g q) → Ans' q} {q : Query'}
    {Q : Ans' q → Hist Cmd Query Ans → Prop} (hq : R.onAsk h (g q))
    (ha : ∀ τ a, Q (back q a) ((τ, .heard (g q) a) :: h)) :
    ((query q : Prog Cmd' Query' Ans' (Ans' q)).lift f g back).Follows R Q h :=
  ⟨hq, ha⟩

/-! ## The errors of a program -/

/-- Whatever it is answered, an error the program itself ends with satisfies `E`. -/
def Errs (E : String → Prop) : Prog Cmd Query Ans α → Prop
  | ret _ => True
  | fail e => E e
  | cmd _ k => k.Errs E
  | ask _ k => ∀ a, (k a).Errs E

/-- Whatever it is answered, when the program ends itself with an error, error and history
satisfy `F`. -/
def FailsWhen (F : String → Hist Cmd Query Ans → Prop) :
    Prog Cmd Query Ans α → Hist Cmd Query Ans → Prop
  | ret _, _ => True
  | fail e, h => F e h
  | cmd c k, h => ∀ τ, k.FailsWhen F ((τ, .did c) :: h)
  | ask q k, h => ∀ τ a, (k a).FailsWhen F ((τ, .heard q a) :: h)

variable {E : String → Prop} {F : String → Hist Cmd Query Ans → Prop}

lemma Errs.bind (hp : p.Errs E) (hf : ∀ a, (f a).Errs E) : (p >>= f).Errs E := by
  induction p with
  | ret a => exact hf a
  | fail => exact hp
  | cmd _ _ ih => exact ih hp
  | ask _ _ ih => exact fun a => ih a (hp a)

lemma errs_run (c : Cmd) : (run c : Prog Cmd Query Ans Unit).Errs E := trivial

lemma errs_query (q : Query) : (query q : Prog Cmd Query Ans (Ans q)).Errs E := fun _ => trivial

lemma errs_bailIf {b : Prop} [Decidable b] (he : E e) :
    (bailIf b e : Prog Cmd Query Ans Unit).Errs E := by
  unfold bailIf
  by_cases hb : b
  · rw [if_pos hb]
    exact he
  · rw [if_neg hb]
    trivial

lemma errs_ofOption {x : Option α} (he : E e) : (ofOption e x : Prog Cmd Query Ans α).Errs E := by
  cases x with
  | some => trivial
  | none => exact he

lemma errs_ofExcept {x : Except String α} (he : ∀ e, x = .error e → E e) :
    (ofExcept x : Prog Cmd Query Ans α).Errs E := by
  cases x with
  | ok => trivial
  | error e => exact he e rfl

lemma errs_forEach {f : β → Prog Cmd Query Ans Unit} (hf : ∀ x ∈ xs, (f x).Errs E) :
    (forEach xs f).Errs E := by
  induction xs with
  | nil => trivial
  | cons x _ ih =>
    exact (hf x mem_cons_self).bind fun _ => ih fun y hy => hf y (mem_cons_of_mem x hy)

lemma errs_lift {f : Cmd' → Cmd} {p : Prog Cmd' Query' Ans' α} (hp : p.Errs E) :
    (p.lift f g back).Errs E := by
  induction p with
  | ret => trivial
  | fail => exact hp
  | cmd _ _ ih => exact ih hp
  | ask q _ ih => exact fun a => ih (back q a) (hp _)

lemma Errs.failsWhen (hp : p.Errs E) (hF : ∀ e h', E e → F e h') : p.FailsWhen F h := by
  induction p generalizing h with
  | ret => trivial
  | fail e => exact hF e h hp
  | cmd _ _ ih => exact fun τ => ih hp
  | ask _ _ ih => exact fun τ a => ih a (hp a)

lemma FailsWhen.bind (hp : p.FailsWhen F h)
    (hf : p.Follows R (fun a h' => (f a).FailsWhen F h') h) : (p >>= f).FailsWhen F h := by
  induction p generalizing h with
  | ret => exact hf
  | fail => exact hp
  | cmd _ _ ih => exact fun τ => ih (hp τ) (hf.2 τ)
  | ask _ _ ih => exact fun τ a => ih a (hp τ a) (hf.2 τ a)

end Prog

end WattGateway
