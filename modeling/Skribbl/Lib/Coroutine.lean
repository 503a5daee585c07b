import Mathlib.Data.Multiset.AddSub

/-!
# Cooperative coroutines

A coroutine reads and changes a shared state without being interrupted, except at its `await`s,
where it may be suspended while other coroutines run.

* `Coro σ F E α` — over state `σ`, with frames `F` that say in which calls it is suspended, marks
  `E` that only an observer sees, and result `α`.  `Coro.bind` makes it a monad.
* `Coro.frame` — a call under a frame; `Coro.when` — a conditional without an `else`;
  `Coro.each` — a loop over a list; `Coro.attempt` — a call whose exceptions are caught.
* `Coro.Within` — the footprint of a coroutine: what each of its changes, frames and marks is.
  It is a class, so that the footprint of a function is found from those of its calls.
* `Coro.wp` — what must hold for a coroutine to keep an invariant at each suspension, when all
  others keep it, and to end with a postcondition; a `Coro.Setting` says what the others do.

* `Coro.Stable` — a coroutine that keeps the invariant; again a class.

Principal results: `wp_bind`, `wp_frame`, `wp_mono` — the rules for calls;
`wp_within` — a coroutine keeps every assertion that its footprint keeps.
-/

set_option autoImplicit false

/-- A coroutine. -/
inductive Coro (σ F E α : Type) : Type where
  /-- The coroutine returns. -/
  | pure (a : α)
  /-- An exception that nothing catches. -/
  | raise (e : String)
  /-- Read the state. -/
  | get (k : σ → Coro σ F E α)
  /-- Change the state. -/
  | modify (f : σ → σ) (k : Coro σ F E α)
  /-- A point where the coroutine may be suspended, inside the calls `fs`, innermost first. -/
  | await (fs : List F) (k : Coro σ F E α)
  /-- Nothing, but an observer sees it. -/
  | mark (e : E) (k : Coro σ F E α)

namespace Coro

variable {σ F E α β : Type}

/-- Sequencing. -/
def bind : Coro σ F E α → (α → Coro σ F E β) → Coro σ F E β
  | .pure a, f => f a
  | .raise e, _ => .raise e
  | .get k, f => .get fun s => (k s).bind f
  | .modify g k, f => .modify g (k.bind f)
  | .await fs k, f => .await fs (k.bind f)
  | .mark e k, f => .mark e (k.bind f)

instance : Monad (Coro σ F E) where
  pure := .pure
  bind := .bind

/-- `c` if `p` holds. -/
def when (p : Prop) [Decidable p] (c : Coro σ F E Unit) : Coro σ F E Unit :=
  if p then c else .pure ()

/-- `f` on each element in turn. -/
def each : List β → (β → Coro σ F E Unit) → Coro σ F E Unit
  | [], _ => .pure ()
  | b :: l, f => (f b).bind fun _ => each l f

/-- Run a call under a frame. -/
def frame (x : F) : Coro σ F E α → Coro σ F E α
  | .pure a => .pure a
  | .raise e => .raise e
  | .get k => .get fun s => (k s).frame x
  | .modify f k => .modify f (k.frame x)
  | .await fs k => .await (fs ++ [x]) (k.frame x)
  | .mark e k => .mark e (k.frame x)

/-- Run a call, whose result is `a` if it raises. -/
def attempt (a : α) : Coro σ F E α → Coro σ F E α
  | .pure b => .pure b
  | .raise _ => .pure a
  | .get k => .get fun s => (k s).attempt a
  | .modify f k => .modify f (k.attempt a)
  | .await fs k => .await fs (k.attempt a)
  | .mark e k => .mark e (k.attempt a)

/-! ## Footprints -/

/-- What a coroutine may do: the changes of the state, the frames it may be suspended under, its
marks, and whether it may raise. -/
structure Footprint (σ F E : Type) where
  change : σ → σ → Prop
  frame : F → Prop
  mark : E → Prop
  fails : Prop

/-- The coroutine does only what the footprint allows. -/
class inductive Within (P : Footprint σ F E) : {α : Type} → Coro σ F E α → Prop
  | pure {α : Type} (a : α) : Within P (.pure a)
  | raise {α : Type} (e : String) : P.fails → Within P (.raise e : Coro σ F E α)
  | get {α : Type} (k : σ → Coro σ F E α) : (∀ s, Within P (k s)) → Within P (.get k)
  | modify {α : Type} (f : σ → σ) (k : Coro σ F E α) :
      (∀ s, P.change s (f s)) → Within P k → Within P (.modify f k)
  | await {α : Type} (fs : List F) (k : Coro σ F E α) :
      (∀ x ∈ fs, P.frame x) → Within P k → Within P (.await fs k)
  | mark {α : Type} (e : E) (k : Coro σ F E α) : P.mark e → Within P k → Within P (.mark e k)

section Footprints

variable {P : Footprint σ F E}

instance (a : α) : Within P (Pure.pure a : Coro σ F E α) := .pure a

instance (c : Coro σ F E α) (f : α → Coro σ F E β) [h : Within P c] [hf : ∀ a, Within P (f a)] :
    Within P (c >>= f) := by
  change Within P (c.bind f)
  induction h with
  | pure a => exact hf a
  | raise e he => exact .raise e he
  | get k _ ih => exact .get _ fun s => ih s
  | modify g k hg _ ih => exact .modify _ _ hg ih
  | await fs k hfs _ ih => exact .await _ _ hfs ih
  | mark e k he _ ih => exact .mark _ _ he ih

instance (p : Prop) [Decidable p] (c d : Coro σ F E α) [Within P c] [Within P d] :
    Within P (if p then c else d) := by
  split <;> infer_instance

instance (p : Prop) [Decidable p] (c : Coro σ F E Unit) [Within P c] : Within P (when p c) := by
  unfold when
  split
  · infer_instance
  · exact .pure ()

instance (o : Option β) (c : Coro σ F E α) (f : β → Coro σ F E α) [Within P c]
    [∀ b, Within P (f b)] : Within P (o.elim c f) := by
  cases o <;> simp only [Option.elim] <;> infer_instance

instance (l : List β) (f : β → Coro σ F E Unit) [∀ b, Within P (f b)] :
    Within P (each l f) := by
  induction l with
  | nil => exact .pure ()
  | cons b l ih => exact inferInstanceAs (Within P (f b >>= fun _ => each l f))

instance (a : α) (c : Coro σ F E α) [h : Within P c] : Within P (c.attempt a) := by
  induction h with
  | pure b => exact .pure b
  | raise e _ => exact .pure a
  | get k _ ih => exact .get _ fun s => ih s
  | modify f k hf _ ih => exact .modify _ _ hf ih
  | await fs k hfs _ ih => exact .await _ _ hfs ih
  | mark e k he _ ih => exact .mark _ _ he ih

/-- A call under a frame that the footprint allows. -/
theorem Within.frame {x : F} {c : Coro σ F E α} (hx : P.frame x) (h : Within P c) :
    Within P (c.frame x) := by
  induction h with
  | pure a => exact .pure a
  | raise e he => exact .raise e he
  | get k _ ih => exact .get _ ih
  | modify g k hg _ ih => exact .modify _ _ hg ih
  | await fs k hfs _ ih =>
    refine .await _ _ (fun y hy => ?_) ih
    rcases List.mem_append.mp hy with hy | hy
    · exact hfs y hy
    · rw [List.mem_singleton.mp hy]; exact hx
  | mark e k he _ ih => exact .mark _ _ he ih

/-- A larger footprint. -/
theorem Within.mono {P' : Footprint σ F E} {c : Coro σ F E α} (h : Within P c)
    (hchange : ∀ s s', P.change s s' → P'.change s s') (hframe : ∀ x, P.frame x → P'.frame x)
    (hmark : ∀ e, P.mark e → P'.mark e) (hfails : P.fails → P'.fails) : Within P' c := by
  induction h with
  | pure a => exact .pure a
  | raise e he => exact .raise e (hfails he)
  | get k _ ih => exact .get _ ih
  | modify g k hg _ ih => exact .modify _ _ (fun s => hchange _ _ (hg s)) ih
  | await fs k hfs _ ih => exact .await _ _ (fun x hx => hframe x (hfs x hx)) ih
  | mark e k he _ ih => exact .mark _ _ (hmark e he) ih

end Footprints

/-! ## Weakest preconditions -/

/-- What an observer sees between two steps: the state, the frames of all suspended coroutines
together, and the marks so far. -/
structure View (σ F E : Type) where
  state : σ
  waiting : Multiset F
  trace : List E

/-- The same with the frames of one more suspended coroutine. -/
def View.add (m : Multiset F) (v : View σ F E) : View σ F E := { v with waiting := m + v.waiting }

/-- The same after one more mark. -/
def View.push (e : E) (v : View σ F E) : View σ F E := { v with trace := v.trace ++ [e] }

/-- The same in another state. -/
def View.set (s : σ) (v : View σ F E) : View σ F E := { v with state := s }

@[simp] theorem View.add_state (m : Multiset F) (v : View σ F E) : (v.add m).state = v.state := rfl

@[simp] theorem View.add_trace (m : Multiset F) (v : View σ F E) : (v.add m).trace = v.trace := rfl

@[simp] theorem View.add_waiting (m : Multiset F) (v : View σ F E) :
    (v.add m).waiting = m + v.waiting := rfl

@[simp] theorem View.push_state (e : E) (v : View σ F E) : (v.push e).state = v.state := rfl

@[simp] theorem View.push_waiting (e : E) (v : View σ F E) : (v.push e).waiting = v.waiting := rfl

@[simp] theorem View.push_trace (e : E) (v : View σ F E) : (v.push e).trace = v.trace ++ [e] := rfl

@[simp] theorem View.set_state (s : σ) (v : View σ F E) : (v.set s).state = s := rfl

@[simp] theorem View.set_waiting (s : σ) (v : View σ F E) : (v.set s).waiting = v.waiting := rfl

@[simp] theorem View.set_trace (s : σ) (v : View σ F E) : (v.set s).trace = v.trace := rfl

@[simp] theorem View.add_zero (v : View σ F E) : v.add 0 = v := by simp [View.add]

/-- What a condition on a run can speak about: a mark, or the suspension or the cancellation of a
coroutine inside the calls `fs`. -/
inductive Event (F E : Type) where
  | mark (e : E)
  | suspend (fs : Multiset F)
  | cancel (fs : Multiset F)

/-- The event is a mark. -/
def Event.isMark : Event F E → Prop
  | .mark _ => True
  | _ => False

/-- What the other coroutines are relied on for: an invariant, what is known of every view besides,
a condition on all events, and a relation that every change of the state is in. -/
structure Setting (σ F E : Type) where
  inv : View σ F E → Prop
  known : View σ F E → Prop
  cond : Event F E → View σ F E → Prop
  rely : σ → σ → Prop

/-- The setting of a coroutine that has no await and raises nothing. -/
def Setting.atomic : Setting σ F E :=
  ⟨fun _ => False, fun _ => True, fun _ _ => True, fun _ _ => True⟩

/-- The setting of a coroutine that is not suspended and raises nothing. -/
def Setting.unsuspended : Setting σ F E :=
  ⟨fun _ => False, fun _ => True, fun e _ => e.isMark, fun _ _ => True⟩

/-- From `v`, `c` ends in `Q`, and the invariant holds wherever it is suspended or has raised, in a
given setting.  `R` is the frames that `c` is called under. -/
def wp (X : Setting σ F E) (R : Multiset F) :
    Coro σ F E α → (α → View σ F E → Prop) → View σ F E → Prop
  | .pure a, Q, v => Q a v
  | .raise _, _, v => X.inv v
  | .get k, Q, v => (k v.state).wp X R Q v
  | .modify f k, Q, v => k.wp X R Q (v.set (f v.state))
  | .await fs k, Q, v => k.wp X R Q v ∧ (X.cond (.suspend (fs + R)) v →
      X.inv (v.add (fs + R)) ∧
        ∀ v', X.rely v.state v'.state → X.known (v'.add (fs + R)) → X.inv (v'.add (fs + R)) →
          k.wp X R Q v')
  | .mark e k, Q, v => X.cond (.mark e) v → k.wp X R Q (v.push e)

section Rules

variable {X : Setting σ F E} {R : Multiset F}

@[simp] theorem wp_pure (a : α) (Q : α → View σ F E → Prop) (v : View σ F E) :
    wp X R (Pure.pure a) Q v = Q a v := rfl

theorem wp_bind (c : Coro σ F E α) (f : α → Coro σ F E β) (Q : β → View σ F E → Prop)
    (v : View σ F E) :
    (c >>= f).wp X R Q v ↔ c.wp X R (fun a v' => (f a).wp X R Q v') v := by
  change (c.bind f).wp X R Q v ↔ _
  induction c generalizing v with
  | pure a => rfl
  | raise e => rfl
  | get k ih => exact ih _ _
  | modify g k ih => exact ih _
  | await fs k ih => simp only [bind, wp, ih]
  | mark e k ih => simp only [bind, wp, ih]

theorem wp_frame (x : F) (c : Coro σ F E α) (Q : α → View σ F E → Prop) (v : View σ F E) :
    (c.frame x).wp X R Q v ↔ c.wp X (x ::ₘ R) Q v := by
  induction c generalizing v with
  | pure a => rfl
  | raise e => rfl
  | get k ih => exact ih _ _
  | modify g k ih => exact ih _
  | await fs k ih =>
    have hfs : (↑(fs ++ [x]) + R : Multiset F) = ↑fs + x ::ₘ R := by
      rw [← Multiset.singleton_add, ← Multiset.add_assoc]; rfl
    simp only [frame, wp, ih, hfs]
  | mark e k ih => simp only [frame, wp, ih]

theorem wp_mono {c : Coro σ F E α} {Q Q' : α → View σ F E → Prop} {v : View σ F E}
    (h : c.wp X R Q v) (hQ : ∀ a v', Q a v' → Q' a v') : c.wp X R Q' v := by
  induction c generalizing v with
  | pure a => exact hQ a v h
  | raise e => exact h
  | get k ih => exact ih _ h
  | modify g k ih => exact ih h
  | await fs k ih =>
    exact ⟨ih h.1, fun hc => ⟨(h.2 hc).1, fun v' hr hk hv' => ih ((h.2 hc).2 v' hr hk hv')⟩⟩
  | mark e k ih => exact fun hc => ih (h hc)

/-- A call whose exceptions are caught. -/
theorem wp_attempt {a : α} {c : Coro σ F E α} {Q : α → View σ F E → Prop} {v : View σ F E}
    (h : c.wp X R Q v) (hQ : ∀ v', X.inv v' → Q a v') : (c.attempt a).wp X R Q v := by
  induction c generalizing v with
  | pure b => exact h
  | raise e => exact hQ v h
  | get k ih => exact ih _ h
  | modify g k ih => exact ih h
  | await fs k ih =>
    exact ⟨ih h.1, fun hc => ⟨(h.2 hc).1, fun v' hr hk hv' => ih ((h.2 hc).2 v' hr hk hv')⟩⟩
  | mark e k ih => exact fun hc => ih (h hc)

@[simp] theorem wp_ite (p : Prop) [Decidable p] (c d : Coro σ F E α)
    (Q : α → View σ F E → Prop) (v : View σ F E) :
    (if p then c else d).wp X R Q v ↔ (p → c.wp X R Q v) ∧ (¬p → d.wp X R Q v) := by
  split <;> simp_all

@[simp] theorem wp_when (p : Prop) [Decidable p] (c : Coro σ F E Unit)
    (Q : Unit → View σ F E → Prop) (v : View σ F E) :
    (when p c).wp X R Q v ↔ (p → c.wp X R Q v) ∧ (¬p → Q () v) := by
  unfold when
  split <;> simp_all [wp]

@[simp] theorem wp_elim (o : Option β) (c : Coro σ F E α) (f : β → Coro σ F E α)
    (Q : α → View σ F E → Prop) (v : View σ F E) :
    (o.elim c f).wp X R Q v ↔
      (o = none → c.wp X R Q v) ∧ ∀ b, o = some b → (f b).wp X R Q v := by
  cases o <;> simp

/-- The rule for a loop over a list, with an assertion for what is still to do. -/
theorem wp_each {l : List β} {f : β → Coro σ F E Unit} (J : List β → View σ F E → Prop)
    (hstep : ∀ b l' v, J (b :: l') v → (f b).wp X R (fun _ v' => J l' v') v)
    {v : View σ F E} (h : J l v) : (each l f).wp X R (fun _ v' => J [] v') v := by
  induction l generalizing v with
  | nil => exact h
  | cons b l ih =>
    change (f b >>= fun _ => each l f).wp X R _ v
    rw [wp_bind]
    exact wp_mono (hstep b l v h) fun _ v' h' => ih h'

/-- A coroutine keeps an assertion that its footprint keeps: `J` survives its changes and marks,
makes the invariant hold at its suspensions and holds again when it is resumed. -/
theorem wp_within {P : Footprint σ F E} {J : View σ F E → Prop} {c : Coro σ F E α}
    (hc : Within P c)
    (hchange : ∀ v s, P.change v.state s → J v → J (v.set s))
    (hmark : ∀ v e, P.mark e → X.cond (.mark e) v → J v → J (v.push e))
    (hsuspend : ∀ v (fs : List F), (∀ x ∈ fs, P.frame x) → X.cond (.suspend (fs + R)) v → J v →
      X.inv (v.add (fs + R)) ∧
        ∀ v', X.rely v.state v'.state → X.known (v'.add (fs + R)) → X.inv (v'.add (fs + R)) → J v')
    (hfail : P.fails → ∀ v, J v → X.inv v) {v : View σ F E} (hv : J v) :
    c.wp X R (fun _ v' => J v') v := by
  induction hc generalizing v with
  | pure a => exact hv
  | raise e he => exact hfail he v hv
  | get k _ ih => exact ih _ hv
  | modify f k hf _ ih => exact ih (hchange v _ (hf _) hv)
  | await fs k hfs _ ih =>
    refine ⟨ih hv, fun hs => ?_⟩
    obtain ⟨hI, hback⟩ := hsuspend v fs hfs hs hv
    exact ⟨hI, fun v' hr hk hv' => ih (hback v' hr hk hv')⟩
  | mark e k he _ ih => exact fun hm => ih (hmark v e he hm hv)

/-- At its end, what the footprint of a coroutine keeps may be assumed. -/
theorem wp_assuming {P : Footprint σ F E} {J : View σ F E → Prop} {c : Coro σ F E α}
    (hc : Within P c)
    (hchange : ∀ v s, P.change v.state s → J v → J (v.set s))
    (hmark : ∀ v e, P.mark e → X.cond (.mark e) v → J v → J (v.push e))
    (hsuspend : ∀ v v' (fs : List F), X.cond (.suspend (fs + R)) v → J v →
      X.rely v.state v'.state → X.known (v'.add (fs + R)) → X.inv (v'.add (fs + R)) → J v')
    {Q : α → View σ F E → Prop} {v : View σ F E} (hv : J v)
    (h : c.wp X R (fun a v' => J v' → Q a v') v) : c.wp X R Q v := by
  induction hc generalizing v with
  | pure a => exact h hv
  | raise e he => exact h
  | get k _ ih => exact ih _ hv h
  | modify f k hf _ ih => exact ih (hchange v _ (hf _) hv) h
  | await fs k hfs _ ih =>
    exact ⟨ih hv h.1, fun hs => ⟨(h.2 hs).1, fun v' hr hk hv' =>
      ih (hsuspend v v' fs hs hv hr hk hv') ((h.2 hs).2 v' hr hk hv')⟩⟩
  | mark e k he _ ih => exact fun hm => ih (hmark v e he hm hv) (h hm)

/-- A fact about the state that survives all changes is still there when the call has ended. -/
theorem wp_carry {P : Footprint σ F E} {c : Coro σ F E α} (hc : Within P c) {G : σ → Prop}
    (hP : ∀ s s', P.change s s' → G s → G s') (hrely : ∀ s s', X.rely s s' → G s → G s')
    {Q : α → View σ F E → Prop} {v : View σ F E} (hG : G v.state) (h : c.wp X R Q v) :
    c.wp X R (fun a v' => Q a v' ∧ G v'.state) v :=
  wp_assuming (J := fun v' => G v'.state) hc (fun _ _ => hP _ _) (fun _ _ _ _ hG => hG)
    (fun _ _ _ _ hG hr _ _ => hrely _ _ hr hG) hG (wp_mono h fun _ _ h hG => ⟨h, hG⟩)

end Rules

/-! ## Coroutines that keep an invariant -/

/-- The coroutine keeps the invariant; the frames that it is called under count as waiting. -/
class Stable (X : Setting σ F E) (c : Coro σ F E α) : Prop where
  out : ∀ R v, X.inv (v.add R) → c.wp X R (fun _ v' => X.inv (v'.add R)) v

/-- The invariant does not look at a frame. -/
class Ignores (X : Setting σ F E) (x : F) : Prop where
  out : ∀ v, X.inv (v.add {x}) ↔ X.inv v

/-- The invariant does not look at frames. -/
class FrameFree (X : Setting σ F E) : Prop where
  out : ∀ v m, X.inv (v.add m) ↔ X.inv v

instance (X : Setting σ F E) [h : FrameFree X] (x : F) : Ignores X x := ⟨fun v => h.out v _⟩

/-- The invariant is kept by everything in a footprint. -/
structure Setting.Keeps (X : Setting σ F E) (P : Footprint σ F E) : Prop where
  change : ∀ v s, P.change v.state s → X.inv v → X.inv (v.set s)
  mark : ∀ v e R, P.mark e → X.cond (.mark e) v → X.inv (v.add R) → X.inv ((v.push e).add R)
  frame : ∀ x, P.frame x → Ignores X x
  fails : P.fails → ∀ v R, X.inv (v.add R) → X.inv v

section Stability

variable {X : Setting σ F E}

theorem View.add_add (m m' : Multiset F) (v : View σ F E) :
    (v.add m').add m = v.add (m + m') := by
  simp [View.add, Multiset.add_assoc]

theorem Stable.zero {c : Coro σ F E α} (hc : Stable X c) {v : View σ F E} (h : X.inv v) :
    c.wp X 0 (fun _ => X.inv) v := by
  have := hc.out 0 v (by rwa [View.add_zero])
  simpa only [View.add_zero] using this

instance (a : α) : Stable X (Pure.pure a : Coro σ F E α) := ⟨fun _ _ h => h⟩

/-- What follows a call that has kept the invariant. -/
theorem wp_then {c : Coro σ F E α} {f : α → Coro σ F E β} [hf : ∀ a, Stable X (f a)]
    {R : Multiset F} {v : View σ F E} (h : c.wp X R (fun _ v' => X.inv (v'.add R)) v) :
    (c >>= f).wp X R (fun _ v' => X.inv (v'.add R)) v :=
  (wp_bind ..).mpr (wp_mono h fun a v' h' => (hf a).out R v' h')

instance (c : Coro σ F E α) (f : α → Coro σ F E β) [hc : Stable X c] [∀ a, Stable X (f a)] :
    Stable X (c >>= f) :=
  ⟨fun R v h => wp_then (hc.out R v h)⟩

instance (p : Prop) [Decidable p] (c d : Coro σ F E α) [Stable X c] [Stable X d] :
    Stable X (if p then c else d) := by
  split <;> infer_instance

instance (p : Prop) [Decidable p] (c : Coro σ F E Unit) [Stable X c] : Stable X (when p c) := by
  unfold when
  split
  · infer_instance
  · exact ⟨fun _ _ h => h⟩

instance (o : Option β) (c : Coro σ F E α) (f : β → Coro σ F E α) [Stable X c]
    [∀ b, Stable X (f b)] : Stable X (o.elim c f) := by
  cases o <;> simp only [Option.elim] <;> infer_instance

instance (l : List β) (f : β → Coro σ F E Unit) [hf : ∀ b, Stable X (f b)] :
    Stable X (each l f) :=
  ⟨fun R _ h => wp_each (fun _ v' => X.inv (v'.add R)) (fun b _ v' h' => (hf b).out R v' h') h⟩

instance (x : F) (c : Coro σ F E α) [hc : Stable X c] [hx : Ignores X x] :
    Stable X (c.frame x) where
  out R v h := by
    have hx' : ∀ v : View σ F E, X.inv (v.add (x ::ₘ R)) ↔ X.inv (v.add R) := fun v => by
      rw [← hx.out (v.add R), View.add_add, Multiset.singleton_add]
    have hwp := hc.out (x ::ₘ R) v ((hx' v).mpr h)
    simp only [hx'] at hwp
    exact (wp_frame ..).mpr hwp

instance (a : α) (c : Coro σ F E α) [hc : Stable X c] [hX : FrameFree X] :
    Stable X (c.attempt a) :=
  ⟨fun R v h => wp_attempt (hc.out R v h) fun v' h' => (hX.out v' R).mpr h'⟩

/-! ## Coroutines under some frames -/

/-- The coroutine keeps the invariant when it is called under frames that satisfy `P`. -/
class StableIn (P : Multiset F → Prop) (X : Setting σ F E) (c : Coro σ F E α) : Prop where
  out : ∀ R, P R → ∀ v, X.inv (v.add R) → c.wp X R (fun _ v' => X.inv (v'.add R)) v

/-- With a frame more, the frames still satisfy `P`. -/
class Admits (P : Multiset F → Prop) (x : F) : Prop where
  out : ∀ R, P R → P (x ::ₘ R)

section Under

variable {P : Multiset F → Prop}

instance (priority := low) (c : Coro σ F E α) [hc : Stable X c] : StableIn P X c :=
  ⟨fun R _ v h => hc.out R v h⟩

/-- What follows a call that has kept the invariant. -/
theorem wp_then_in {c : Coro σ F E α} {f : α → Coro σ F E β} [hf : ∀ a, StableIn P X (f a)]
    {R : Multiset F} (hR : P R) {v : View σ F E} (h : c.wp X R (fun _ v' => X.inv (v'.add R)) v) :
    (c >>= f).wp X R (fun _ v' => X.inv (v'.add R)) v :=
  (wp_bind ..).mpr (wp_mono h fun a v' h' => (hf a).out R hR v' h')

instance (c : Coro σ F E α) (f : α → Coro σ F E β) [hc : StableIn P X c]
    [∀ a, StableIn P X (f a)] : StableIn P X (c >>= f) :=
  ⟨fun R hR v h => wp_then_in hR (hc.out R hR v h)⟩

instance (p : Prop) [Decidable p] (c d : Coro σ F E α) [StableIn P X c] [StableIn P X d] :
    StableIn P X (if p then c else d) := by
  split <;> infer_instance

instance (p : Prop) [Decidable p] (c : Coro σ F E Unit) [StableIn P X c] :
    StableIn P X (when p c) := by
  unfold when
  split
  · infer_instance
  · exact ⟨fun _ _ _ h => h⟩

instance (o : Option β) (c : Coro σ F E α) (f : β → Coro σ F E α) [StableIn P X c]
    [∀ b, StableIn P X (f b)] : StableIn P X (o.elim c f) := by
  cases o <;> simp only [Option.elim] <;> infer_instance

instance (l : List β) (f : β → Coro σ F E Unit) [hf : ∀ b, StableIn P X (f b)] :
    StableIn P X (each l f) :=
  ⟨fun R hR _ h =>
    wp_each (fun _ v' => X.inv (v'.add R)) (fun b _ v' h' => (hf b).out R hR v' h') h⟩

instance (x : F) (c : Coro σ F E α) [hc : StableIn P X c] [hx : Ignores X x] [hP : Admits P x] :
    StableIn P X (c.frame x) where
  out R hR v h := by
    have hx' : ∀ v : View σ F E, X.inv (v.add (x ::ₘ R)) ↔ X.inv (v.add R) := fun v => by
      rw [← hx.out (v.add R), View.add_add, Multiset.singleton_add]
    have hwp := hc.out (x ::ₘ R) (hP.out R hR) v ((hx' v).mpr h)
    simp only [hx'] at hwp
    exact (wp_frame ..).mpr hwp

/-- The invariant is kept by everything in a footprint, under frames that satisfy `P`. -/
structure Setting.KeepsIn (P : Multiset F → Prop) (X : Setting σ F E) (T : Footprint σ F E) :
    Prop where
  change : ∀ v s, T.change v.state s → X.inv v → X.inv (v.set s)
  mark : ∀ v e R, P R → T.mark e → X.cond (.mark e) v → X.inv (v.add R) →
    X.inv ((v.push e).add R)
  frame : ∀ x, T.frame x → Ignores X x
  fails : T.fails → ∀ v R, P R → X.inv (v.add R) → X.inv v

/-- A coroutine keeps an invariant that its footprint keeps. -/
theorem StableIn.of_within {T : Footprint σ F E} {c : Coro σ F E α} (hc : Within T c)
    (hT : X.KeepsIn P T) : StableIn P X c where
  out R hR v h := by
    have hadd : ∀ (fs : List F), (∀ x ∈ fs, T.frame x) → ∀ v : View σ F E,
        X.inv (v.add (fs + R)) ↔ X.inv (v.add R) := by
      intro fs
      induction fs with
      | nil => intro _ v; simp
      | cons x fs ih =>
        intro hfs v
        have hx := (hT.frame x (hfs x List.mem_cons_self)).out (v.add (fs + R))
        rw [View.add_add] at hx
        rw [← ih (fun y hy => hfs y (List.mem_cons_of_mem _ hy)) v, ← hx, ← Multiset.cons_coe,
          Multiset.cons_add, Multiset.singleton_add]
    exact wp_within hc (fun v s hs hv => hT.change (v.add R) s hs hv)
      (fun v e he hcond hv => hT.mark v e R hR he hcond hv)
      (fun v fs hfs _ hv => ⟨(hadd fs hfs v).mpr hv, fun v' _ _ hv' => (hadd fs hfs v').mp hv'⟩)
      (fun hf v hv => hT.fails hf v R hR hv) h

/-- The coroutine keeps the invariant when it is called under no frame. -/
abbrev StableAlone (X : Setting σ F E) (c : Coro σ F E α) : Prop := StableIn (fun R => R = 0) X c

theorem StableIn.zero {c : Coro σ F E α} (hc : StableIn P X c) (hP : P 0) {v : View σ F E}
    (h : X.inv v) : c.wp X 0 (fun _ => X.inv) v := by
  have := hc.out 0 hP v (by rwa [View.add_zero])
  simpa only [View.add_zero] using this

theorem StableAlone.of {c : Coro σ F E α}
    (h : ∀ v, X.inv v → c.wp X 0 (fun _ => X.inv) v) : StableAlone X c where
  out R hR v hv := by
    subst hR
    simp only [View.add_zero] at hv ⊢
    exact h v hv

end Under

/-- A coroutine keeps an invariant that its footprint keeps. -/
theorem Stable.of_within {P : Footprint σ F E} {c : Coro σ F E α} (hc : Within P c)
    (hP : X.Keeps P) : Stable X c where
  out R v h :=
    (StableIn.of_within (P := fun _ => True) hc ⟨hP.change, fun v e R _ => hP.mark v e R, hP.frame,
      fun hf v R _ => hP.fails hf v R⟩).out R trivial v h

/-! ## One invariant on top of another -/

/-- The setting with a second invariant. -/
def Setting.and (X : Setting σ F E) (I : View σ F E → Prop) : Setting σ F E :=
  { X with inv := fun v => X.inv v ∧ I v }

/-- The setting in which the second invariant has to be shown and the first one is known. -/
def Setting.given (X : Setting σ F E) (I : View σ F E → Prop) : Setting σ F E :=
  { X with inv := I, known := fun v => X.known v ∧ X.inv v }

variable {I : View σ F E → Prop}

/-- Two invariants can be shown one after the other. -/
theorem wp_and {R : Multiset F} {c : Coro σ F E α} {Q Q' : α → View σ F E → Prop} {v : View σ F E}
    (h : c.wp X R Q v) (h' : c.wp (X.given I) R Q' v) :
    c.wp (X.and I) R (fun a v' => Q a v' ∧ Q' a v') v := by
  induction c generalizing v with
  | pure a => exact ⟨h, h'⟩
  | raise e => exact ⟨h, h'⟩
  | get k ih => exact ih _ h h'
  | modify f k ih => exact ih h h'
  | await fs k ih =>
    refine ⟨ih h.1 h'.1, fun hc => ⟨⟨(h.2 hc).1, (h'.2 hc).1⟩, fun v' hr hk hv' => ?_⟩⟩
    exact ih ((h.2 hc).2 v' hr hk hv'.1) ((h'.2 hc).2 v' hr ⟨hk, hv'.1⟩ hv'.2)
  | mark e k ih => exact fun hm => ih (h hm) (h' hm)

/-- What has to be shown of the second invariant. -/
theorem Stable.and {c : Coro σ F E α} [hc : Stable X c]
    (h : ∀ R v, X.inv (v.add R) → I (v.add R) → c.wp (X.given I) R (fun _ v' => I (v'.add R)) v) :
    Stable (X.and I) c where
  out R v hv := wp_and (hc.out R v hv.1) (h R v hv.1 hv.2)

end Stability

end Coro
