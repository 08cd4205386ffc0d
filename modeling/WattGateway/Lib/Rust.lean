import Mathlib.Algebra.Group.Int.Defs
import Mathlib.Algebra.Group.Nat.Defs

/-!
# Rust idioms

Results with a text as their error, with one lemma for each idiom that says when it succeeds, and
the white space of `str::trim`.
-/

namespace WattGateway

/-- `bail!` under a condition. -/
def failIf (b : Prop) [Decidable b] (e : String) : Except String Unit :=
  if b then .error e else .ok ()

/-- `.context(e)?`. -/
def orFail (e : String) {α : Type} : Option α → Except String α
  | some a => .ok a
  | none => .error e

variable {α : Type}

lemma bind_eq_ok {β : Type} {x : Except String α} {f : α → Except String β} {b : β} :
    x >>= f = .ok b ↔ ∃ a, x = .ok a ∧ f a = .ok b := by
  cases x with
  | error =>
    constructor
    · intro h; cases h
    · rintro ⟨a, h, -⟩; cases h
  | ok a =>
    constructor
    · exact fun h => ⟨a, rfl, h⟩
    · rintro ⟨_, h, hf⟩; cases h; exact hf

lemma rest_ok {β : Type} {x : Except String α} {f : α → Except String β} {b : β}
    (h : x >>= f = .ok b) : ∃ a, f a = .ok b :=
  (bind_eq_ok.1 h).imp fun _ => And.right

variable {e : String}

lemma failIf_eq_ok {b : Prop} [Decidable b] {u : Unit} : failIf b e = .ok u ↔ ¬ b := by
  unfold failIf
  by_cases hb : b <;> simp [hb]

lemma orFail_eq_ok {x : Option α} {a : α} : orFail e x = .ok a ↔ x = some a := by
  cases x <;> simp [orFail]

/-- `.context(e)?` on a result. -/
def withContext {α : Type} (e : String) : Except String α → Except String α
  | .ok a => .ok a
  | .error _ => .error e

lemma withContext_eq_ok {x : Except String α} {a : α} : withContext e x = .ok a ↔ x = .ok a := by
  cases x <;> simp [withContext]

/-- The characters `str::trim` removes. -/
def isWhiteSpace (c : Char) : Bool :=
  (9 ≤ c.toNat && c.toNat ≤ 13) || (0x2000 ≤ c.toNat && c.toNat ≤ 0x200a) ||
    c.toNat ∈ [0x20, 0x85, 0xa0, 0x1680, 0x2028, 0x2029, 0x202f, 0x205f, 0x3000]

def trim (s : String) : String :=
  String.ofList ((s.toList.dropWhile isWhiteSpace).reverse.dropWhile isWhiteSpace).reverse

/-- Texts are compared by their characters. -/
instance lawfulBEqText : LawfulBEq (List Char) := inferInstance

/-- `trim().is_empty()`. -/
def isBlank (s : String) : Bool := s.toList.all isWhiteSpace

end WattGateway
