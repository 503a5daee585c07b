import Skribbl.Lib.Execution

/-!
# Calls that are not suspended

* `Coro.Returns` — if the call returns when it is not suspended, its result and the state at its end
  are as said.
* `Coro.Always` — so its result is from every state.

Principal results: `returns_iff` — what this says about `exec`; `returns_bind` — how calls compose.
-/

set_option autoImplicit false

namespace Coro

variable {σ F E α β : Type}

/-- Called in a state and not suspended, the coroutine ends as `Q` says, if it returns. -/
def Returns : Coro σ F E α → (α → σ → Prop) → σ → Prop
  | .pure a, Q, s => Q a s
  | .raise _, _, _ => True
  | .get k, Q, s => (k s).Returns Q s
  | .modify f k, Q, s => k.Returns Q (f s)
  | .await _ k, Q, s => k.Returns Q s
  | .mark _ k, Q, s => k.Returns Q s

variable {Q : α → σ → Prop} {s : σ}

theorem returns_iff {c : Coro σ F E α} :
    c.Returns Q s ↔ ∀ a s', c.exec s = (.ok a, s') → Q a s' := by
  induction c generalizing s with
  | pure a =>
    refine ⟨fun h b s' heq => ?_, fun h => h a s rfl⟩
    cases heq
    exact h
  | raise e => exact ⟨fun _ _ _ heq => (nomatch heq), fun _ => trivial⟩
  | get k ih => exact ih _
  | modify f k ih => exact ih
  | await fs k ih => exact ih
  | mark e k ih => exact ih

theorem Returns.mono {c : Coro σ F E α} {Q' : α → σ → Prop} (h : c.Returns Q s)
    (hQ : ∀ a s', Q a s' → Q' a s') : c.Returns Q' s :=
  returns_iff.mpr fun a s' heq => hQ a s' (returns_iff.mp h a s' heq)

theorem returns_bind {c : Coro σ F E α} {f : α → Coro σ F E β} {Q : β → σ → Prop} :
    (c >>= f).Returns Q s ↔ c.Returns (fun a s' => (f a).Returns Q s') s := by
  change (c.bind f).Returns Q s ↔ _
  induction c generalizing s with
  | pure a => rfl
  | raise e => rfl
  | get k ih => exact ih _
  | modify g k ih => exact ih
  | await fs k ih => exact ih
  | mark e k ih => exact ih

theorem returns_ite {p : Prop} [Decidable p] {c d : Coro σ F E α} :
    (if p then c else d).Returns Q s ↔ (p → c.Returns Q s) ∧ (¬p → d.Returns Q s) := by
  split <;> simp_all

theorem returns_elim {o : Option β} {c : Coro σ F E α} {f : β → Coro σ F E α} :
    (o.elim c f).Returns Q s ↔
      (o = none → c.Returns Q s) ∧ ∀ b, o = some b → (f b).Returns Q s := by
  cases o <;> simp

theorem returns_when {p : Prop} [Decidable p] {c : Coro σ F E Unit} {Q : Unit → σ → Prop} :
    (when p c).Returns Q s ↔ (p → c.Returns Q s) ∧ (¬p → Q () s) := by
  unfold when
  rw [returns_ite]
  rfl

/-- A loop keeps what each of its rounds keeps. -/
theorem returns_each {l : List β} {f : β → Coro σ F E Unit} (J : List β → σ → Prop) (h : J l s)
    (hf : ∀ b l s', J (b :: l) s' → (f b).Returns (fun _ => J l) s') :
    (each l f).Returns (fun _ => J []) s := by
  induction l generalizing s with
  | nil => exact h
  | cons b l ih => exact returns_bind.mpr ((hf b l s h).mono fun _ s' h' => ih h')

/-- The result is from every state as said. -/
class Always (P : α → Prop) (c : Coro σ F E α) : Prop where
  out : ∀ s, c.Returns (fun a _ => P a) s

variable {P : α → Prop}

instance (c : Coro σ F E β) (f : β → Coro σ F E α) [hf : ∀ b, Always P (f b)] :
    Always P (c >>= f) where
  out s := by
    rw [returns_bind, returns_iff]
    exact fun b s' _ => (hf b).out s'

instance (p : Prop) [Decidable p] (c d : Coro σ F E α) [Always P c] [Always P d] :
    Always P (if p then c else d) := by
  split <;> infer_instance

instance (o : Option β) (c : Coro σ F E α) (f : β → Coro σ F E α) [Always P c]
    [∀ b, Always P (f b)] : Always P (o.elim c f) := by
  cases o <;> simp only [Option.elim] <;> infer_instance

end Coro
