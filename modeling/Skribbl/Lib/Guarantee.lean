import Skribbl.Lib.EventLoop
import Skribbl.Lib.Execution

/-!
# What a run guarantees between two suspensions

* `Guarantee` — an invariant, what every single change does, and what all changes between two
  suspensions do together, which is what the suspended coroutines rely on.
* `Coro.Guards` — a coroutine keeps the guarantee from a state on.
* `Coro.Guarded` — so it does wherever the guarantee holds.
* `Loop.Guards` — the coroutines of an event loop do so.

Principal results: `guarded_bind`, `Guarded.of_within` — how coroutines compose;
`Loop.Guards.run` — in every run the invariant holds whenever no coroutine is running, and every
step leaves the state alone or makes an allowed change; `Loop.Guards.run_rely` — what happens
between two such states; `Guards.makes` — what a call changes itself.
-/

set_option autoImplicit false

namespace Coro

variable {σ F E α β : Type}

/-- The marks that are not excluded, the invariant, the changes that are allowed, and what the
changes between two suspensions do together. -/
structure Guarantee (σ E : Type) where
  ok : E → σ → Prop
  inv : σ → Prop
  change : σ → σ → Prop
  rely : σ → σ → Prop
  refl : ∀ s, rely s s
  trans : ∀ {s₁ s₂ s₃}, rely s₁ s₂ → rely s₂ s₃ → rely s₁ s₃

variable {Γ : Guarantee σ E}

/-- The guarantee holds in the state `s`; `s₀` is the state after the last suspension. -/
structure Guarantee.Holds (Γ : Guarantee σ E) (s₀ s : σ) : Prop where
  inv : Γ.inv s
  rely : Γ.rely s₀ s

/-- From the state `s` on, the coroutine keeps the guarantee, and ends as `Q` says; `s₀` is the
state after the last suspension. -/
def Guards (Γ : Guarantee σ E) : Coro σ F E α → (α → σ → σ → Prop) → σ → σ → Prop
  | .pure a, Q, s₀, s => Q a s₀ s
  | .raise _, _, s₀, s => Γ.Holds s₀ s
  | .get k, Q, s₀, s => (k s).Guards Γ Q s₀ s
  | .modify f k, Q, s₀, s => Γ.change s (f s) ∧ k.Guards Γ Q s₀ (f s)
  | .await _ k, Q, s₀, s => Γ.Holds s₀ s ∧ ∀ s', Γ.inv s' → Γ.rely s s' → k.Guards Γ Q s' s'
  | .mark e k, Q, s₀, s => Γ.ok e s → k.Guards Γ Q s₀ s

/-- The coroutine keeps the guarantee wherever it holds. -/
class Guarded (Γ : Guarantee σ E) (c : Coro σ F E α) : Prop where
  out : ∀ {s₀ s}, Γ.Holds s₀ s → c.Guards Γ (fun _ => Γ.Holds) s₀ s

theorem Guards.mono {c : Coro σ F E α} {Q Q' : α → σ → σ → Prop} {s₀ s : σ}
    (h : c.Guards Γ Q s₀ s) (hQ : ∀ a s₁ s', Q a s₁ s' → Q' a s₁ s') : c.Guards Γ Q' s₀ s := by
  induction c generalizing s₀ s with
  | pure a => exact hQ a s₀ s h
  | raise e => exact h
  | get k ih => exact ih _ h
  | modify f k ih => exact ⟨h.1, ih h.2⟩
  | await fs k ih => exact ⟨h.1, fun s' hs' hr => ih (h.2 s' hs' hr)⟩
  | mark e k ih => exact fun he => ih (h he)

theorem guards_bind {c : Coro σ F E α} {f : α → Coro σ F E β} {Q : β → σ → σ → Prop} {s₀ s : σ} :
    (c >>= f).Guards Γ Q s₀ s ↔ c.Guards Γ (fun a s₁ s' => (f a).Guards Γ Q s₁ s') s₀ s := by
  change (c.bind f).Guards Γ Q s₀ s ↔ _
  induction c generalizing s₀ s with
  | pure a => rfl
  | raise e => rfl
  | get k ih => exact ih _
  | modify g k ih => exact and_congr_right fun _ => ih
  | await fs k ih =>
    exact and_congr_right fun _ => forall_congr' fun s' => imp_congr_right fun _ =>
      imp_congr_right fun _ => ih
  | mark e k ih => exact imp_congr_right fun _ => ih

theorem guards_ite {p : Prop} [Decidable p] {c d : Coro σ F E α} {Q : α → σ → σ → Prop}
    {s₀ s : σ} : (if p then c else d).Guards Γ Q s₀ s ↔
      (p → c.Guards Γ Q s₀ s) ∧ (¬p → d.Guards Γ Q s₀ s) := by
  split <;> simp_all

theorem guards_elim {o : Option β} {c : Coro σ F E α} {f : β → Coro σ F E α}
    {Q : α → σ → σ → Prop} {s₀ s : σ} : (o.elim c f).Guards Γ Q s₀ s ↔
      (o = none → c.Guards Γ Q s₀ s) ∧ ∀ b, o = some b → (f b).Guards Γ Q s₀ s := by
  cases o <;> simp

/-- A call without awaits keeps a guarantee that allows every change, and ends as it does. -/
theorem guards_of_exec (hchange : ∀ s s', Γ.change s s') {c : Coro σ F E α} {tr : List E}
    {Q : α → σ → σ → Prop} {s₀ s : σ} (hwp : c.wp .atomic 0 (fun _ _ => True) ⟨s, 0, tr⟩)
    (hQ : ∀ a s', c.exec s = (.ok a, s') → Q a s₀ s') : c.Guards Γ Q s₀ s := by
  induction c generalizing s tr with
  | pure a => exact hQ a s rfl
  | raise e => exact hwp.elim
  | get k ih => exact ih s hwp hQ
  | modify f k ih => exact ⟨hchange s (f s), ih hwp hQ⟩
  | await fs k ih => exact (hwp.2 trivial).1.elim
  | mark e k ih => exact fun _ => ih (hwp trivial) hQ

/-- A loop keeps what each of its rounds keeps. -/
theorem guards_each {l : List β} {f : β → Coro σ F E Unit} (J : List β → σ → σ → Prop) {s₀ s : σ}
    (h : J l s₀ s) (hf : ∀ b l s₁ s', J (b :: l) s₁ s' → (f b).Guards Γ (fun _ => J l) s₁ s') :
    (each l f).Guards Γ (fun _ => J []) s₀ s := by
  induction l generalizing s₀ s with
  | nil => exact h
  | cons b l ih => exact guards_bind.mpr ((hf b l s₀ s h).mono fun _ s₁ s' h' => ih h')

/-- The guarantee together with a fact about the states. -/
def Guarantee.and (Γ : Guarantee σ E) (G : σ → Prop) : Guarantee σ E :=
  { Γ with inv := fun s => Γ.inv s ∧ G s }

/-- A fact that the others leave true may be used. -/
theorem Guards.of_and {G : σ → Prop} (hG : ∀ s s', Γ.rely s s' → G s → G s') {c : Coro σ F E α}
    {Q : α → σ → σ → Prop} {s₀ s : σ} (h : c.Guards (Γ.and G) Q s₀ s) : c.Guards Γ Q s₀ s := by
  have hholds : ∀ {s₀ s}, (Γ.and G).Holds s₀ s → Γ.Holds s₀ s := fun h => ⟨h.inv.1, h.rely⟩
  induction c generalizing s₀ s with
  | pure a => exact h
  | raise e => exact hholds h
  | get k ih => exact ih _ h
  | modify f k ih => exact ⟨h.1, ih h.2⟩
  | await fs k ih =>
    exact ⟨hholds h.1, fun s' hs' hr => ih (h.2 s' ⟨hs', hG s s' hr h.1.inv.2⟩ hr)⟩
  | mark e k ih => exact fun he => ih (h he)

/-! ## Composition -/

instance (a : α) : Guarded Γ (Pure.pure a : Coro σ F E α) := ⟨fun h => h⟩

instance guarded_bind (c : Coro σ F E α) (f : α → Coro σ F E β) [hc : Guarded Γ c]
    [hf : ∀ a, Guarded Γ (f a)] : Guarded Γ (c >>= f) :=
  ⟨fun h => guards_bind.mpr ((hc.out h).mono fun a _ _ h' => (hf a).out h')⟩

/-- What follows a call that keeps the guarantee. -/
theorem guards_then {c : Coro σ F E α} {f : α → Coro σ F E β} [hf : ∀ a, Guarded Γ (f a)]
    {s₀ s : σ} (hc : c.Guards Γ (fun _ => Γ.Holds) s₀ s) :
    (c >>= f).Guards Γ (fun _ => Γ.Holds) s₀ s :=
  guards_bind.mpr (hc.mono fun a _ _ h => (hf a).out h)

instance (p : Prop) [Decidable p] (c d : Coro σ F E α) [Guarded Γ c] [Guarded Γ d] :
    Guarded Γ (if p then c else d) := by
  split <;> infer_instance

instance (p : Prop) [Decidable p] (c : Coro σ F E Unit) [Guarded Γ c] : Guarded Γ (when p c) := by
  unfold when
  split
  · infer_instance
  · exact ⟨fun h => h⟩

instance (o : Option β) (c : Coro σ F E α) (f : β → Coro σ F E α) [Guarded Γ c]
    [∀ b, Guarded Γ (f b)] : Guarded Γ (o.elim c f) := by
  cases o <;> simp only [Option.elim] <;> infer_instance

instance (l : List β) (f : β → Coro σ F E Unit) [hf : ∀ b, Guarded Γ (f b)] :
    Guarded Γ (each l f) := by
  induction l with
  | nil => exact ⟨fun h => h⟩
  | cons b l ih => exact guarded_bind (f b) fun _ => each l f

theorem guards_frame {c : Coro σ F E α} {x : F} {Q : α → σ → σ → Prop} {s₀ s : σ} :
    (c.frame x).Guards Γ Q s₀ s ↔ c.Guards Γ Q s₀ s := by
  induction c generalizing s₀ s with
  | pure a => rfl
  | raise e => rfl
  | get k ih => exact ih _
  | modify g k ih => exact and_congr_right fun _ => ih
  | await fs k ih =>
    exact and_congr_right fun _ => forall_congr' fun s' => imp_congr_right fun _ =>
      imp_congr_right fun _ => ih
  | mark e k ih => exact imp_congr_right fun _ => ih

instance (x : F) (c : Coro σ F E α) [hc : Guarded Γ c] : Guarded Γ (c.frame x) :=
  ⟨fun h => guards_frame.mpr (hc.out h)⟩

instance (a : α) (c : Coro σ F E α) [hc : Guarded Γ c] : Guarded Γ (c.attempt a) where
  out {s₀ s} h := by
    have hguards := hc.out h
    clear h hc
    induction c generalizing s₀ s with
    | pure b => exact hguards
    | raise e => exact hguards
    | get k ih => exact ih _ hguards
    | modify g k ih => exact ⟨hguards.1, ih hguards.2⟩
    | await fs k ih => exact ⟨hguards.1, fun s' hs' hr => ih (hguards.2 s' hs' hr)⟩
    | mark e k ih => exact fun he => ih (hguards he)

/-- Whatever changes only what keeps the guarantee, and is allowed, keeps the guarantee. -/
theorem Guarded.of_within {P : Footprint σ F E} {c : Coro σ F E α} (hc : Within P c)
    (hP : ∀ s₀ s s', P.change s s' → Γ.Holds s₀ s → Γ.Holds s₀ s' ∧ Γ.change s s') :
    Guarded Γ c where
  out {s₀ s} h := by
    induction hc generalizing s₀ s with
    | pure a => exact h
    | raise e _ => exact h
    | get k _ ih => exact ih s h
    | modify f k hf _ ih =>
      obtain ⟨hholds, hchange⟩ := hP s₀ s (f s) (hf s) h
      exact ⟨hchange, ih hholds⟩
    | await fs k _ _ ih => exact ⟨h, fun s' hs' _ => ih ⟨hs', Γ.refl s'⟩⟩
    | mark e k _ _ ih => exact fun _ => ih h

/-- Whatever the others do, each change that a call makes itself is an allowed one. -/
theorem Guards.makes {c : Coro σ F E α} {Q : α → σ → σ → Prop} {R : σ → σ → Prop}
    {s₀ s s₁ s₂ : σ} (h : c.Guards Γ Q s₀ s) (hok : ∀ e s, Γ.ok e s) (hinv : ∀ s, Γ.inv s)
    (hrely : ∀ s s', Γ.rely s s') (hmakes : c.Makes R s s₁ s₂) : Γ.change s₁ s₂ := by
  induction c generalizing s₀ s with
  | pure a => exact hmakes.elim
  | raise e => exact hmakes.elim
  | get k ih => exact ih _ h hmakes
  | modify f k ih =>
    rcases hmakes with ⟨rfl, rfl⟩ | hmakes
    · exact h.1
    · exact ih h.2 hmakes
  | await fs k ih =>
    rcases hmakes with hmakes | ⟨s', -, hmakes⟩
    · exact ih (h.2 s (hinv s) (hrely _ _)) hmakes
    · exact ih (h.2 s' (hinv s') (hrely _ _)) hmakes
  | mark e k ih => exact ih (h (hok e s)) hmakes

end Coro

/-! ## Event loops -/

namespace Loop

variable {σ F E T O : Type} {S : Loop σ F E T O} {Γ : Coro.Guarantee σ E}
  {cond : Coro.Event F E → Coro.View σ F E → Prop} {c c' : Config σ F E T}

/-- All coroutines of the loop keep the guarantee, and so does the loop itself. -/
structure Guards (S : Loop σ F E T O) (Γ : Coro.Guarantee σ E) : Prop where
  call : ∀ o, Coro.Guarded Γ (S.call o)
  fire : ∀ t s₀ s, S.due t s = true → Γ.Holds s₀ s →
    Γ.change s (S.start t s) ∧ (S.body t).Guards Γ (fun _ => Γ.Holds) s₀ (S.start t s)
  finish : ∀ t s₀ s, Γ.Holds s₀ s → Γ.Holds s₀ (S.finish t s) ∧ Γ.change s (S.finish t s)

/-- Tasks that keep the guarantee whenever they are started. -/
theorem Guards.of_body (hcall : ∀ o, Coro.Guarded Γ (S.call o))
    (hbody : ∀ t, Coro.Guarded Γ (S.body t))
    (hstart : ∀ t s₀ s, Γ.Holds s₀ s → Γ.Holds s₀ (S.start t s) ∧ Γ.change s (S.start t s))
    (hfinish : ∀ t s₀ s, Γ.Holds s₀ s → Γ.Holds s₀ (S.finish t s) ∧ Γ.change s (S.finish t s)) :
    S.Guards Γ where
  call := hcall
  fire t s₀ s _ h := ⟨(hstart t s₀ s h).2, (hbody t).out (hstart t s₀ s h).1⟩
  finish := hfinish

/-- The coroutine keeps the guarantee once the others let it go on. -/
def Resumable (Γ : Coro.Guarantee σ E) (k : Coro σ F E Unit) (s : σ) : Prop :=
  ∀ s', Γ.inv s' → Γ.rely s s' → k.Guards Γ (fun _ => Γ.Holds) s' s'

theorem Resumable.later {k : Coro σ F E Unit} {s s' : σ} (h : Resumable Γ k s) (hs : Γ.rely s s') :
    Resumable Γ k s' := fun s'' hinv hr => h s'' hinv (Γ.trans hs hr)

/-- The coroutines of the configuration keep the guarantee; `s₀` is the state after the last
suspension. -/
structure GuardingFrom (Γ : Coro.Guarantee σ E) (s₀ : σ) (c : Config σ F E T) : Prop where
  idle : c.running = none → Γ.Holds s₀ c.state
  running : ∀ o k, c.running = some (o, k) → k.Guards Γ (fun _ => Γ.Holds) s₀ c.state
  waiting : ∀ th ∈ c.waiting, Resumable Γ th.rest s₀

/-- The coroutines of the configuration keep the guarantee. -/
def Guarding (Γ : Coro.Guarantee σ E) (c : Config σ F E T) : Prop := ∃ s₀, GuardingFrom Γ s₀ c

theorem Guarding.idle (h : Guarding Γ c) (hidle : c.running = none) : Γ.inv c.state := by
  obtain ⟨s₀, h⟩ := h
  exact (h.idle hidle).inv

/-- **One step** leaves the state alone or makes an allowed change. -/
theorem Guards.step_from {s₀ : σ} (hS : S.Guards Γ)
    (hok : ∀ e v, cond (.mark e) v → Γ.ok e v.state) (h : S.Step cond c c')
    (hc : GuardingFrom Γ s₀ c) : (∃ s₁, Γ.rely s₀ s₁ ∧ GuardingFrom Γ s₁ c') ∧
      (c'.state = c.state ∨ Γ.change c.state c'.state) := by
  have hrun : ∀ {o k o' k'}, (some (o, k) : Option (Option T × Coro σ F E Unit)) = some (o', k') →
      k = k' := fun h => by cases h; rfl
  have hsome : ∀ {k : Option T × Coro σ F E Unit}, some k ≠ none := fun {k} => Option.some_ne_none k
  have hnone : ∀ {k : Option T × Coro σ F E Unit}, none ≠ some k :=
    fun {k} => (Option.some_ne_none k).symm
  have hend : ∀ o, Γ.Holds s₀ c.state → Γ.Holds s₀ (S.ended o c.state) ∧
      (S.ended o c.state = c.state ∨ Γ.change c.state (S.ended o c.state)) := by
    intro o hholds
    cases o with
    | none => exact ⟨hholds, .inl rfl⟩
    | some t => exact (hS.finish t _ _ hholds).imp_right .inr
  have hrest : ∀ {th : Thread σ F E T} {l₁ l₂}, c.waiting = l₁ ++ th :: l₂ →
      ∀ th' ∈ l₁ ++ l₂, th' ∈ c.waiting := fun hw th' hth' => by
    simp only [hw, List.mem_append, List.mem_cons] at hth' ⊢
    exact hth'.imp_right .inr
  cases h with
  | call o hidle =>
    exact ⟨⟨s₀, Γ.refl _, fun hi => absurd hi hsome,
      fun _ _ hr => hrun hr ▸ (hS.call o).out (hc.idle hidle), hc.waiting⟩, .inl rfl⟩
  | fire t hidle hdue =>
    obtain ⟨hchange, hbody⟩ := hS.fire t _ _ hdue (hc.idle hidle)
    exact ⟨⟨s₀, Γ.refl _, fun hi => absurd hi hsome, fun _ _ hr => hrun hr ▸ hbody, hc.waiting⟩,
      .inr hchange⟩
  | get o k hr =>
    have hk : (k c.state).Guards Γ _ s₀ c.state := hc.running o (.get k) hr
    exact ⟨⟨s₀, Γ.refl _, fun hi => absurd hi hsome, fun _ _ hr' => hrun hr' ▸ hk, hc.waiting⟩,
      .inl rfl⟩
  | modify o f k hr =>
    obtain ⟨hchange, hk⟩ := hc.running o (.modify f k) hr
    exact ⟨⟨s₀, Γ.refl _, fun hi => absurd hi hsome, fun _ _ hr' => hrun hr' ▸ hk, hc.waiting⟩,
      .inr hchange⟩
  | mark o e k hr he =>
    exact ⟨⟨s₀, Γ.refl _, fun hi => absurd hi hsome,
      fun _ _ hr' => hrun hr' ▸ hc.running o (.mark e k) hr (hok e _ he),
      hc.waiting⟩, .inl rfl⟩
  | pass o fs k hr =>
    obtain ⟨hholds, hk⟩ := hc.running o (.await fs k) hr
    exact ⟨⟨c.state, hholds.rely, fun hi => absurd hi hsome,
      fun _ _ hr' => hrun hr' ▸ hk _ hholds.inv (Γ.refl _),
      fun th hth => (hc.waiting th hth).later hholds.rely⟩, .inl rfl⟩
  | suspend o fs k hr _ =>
    obtain ⟨hholds, hk⟩ := hc.running o (.await fs k) hr
    refine ⟨⟨c.state, hholds.rely, fun _ => ⟨hholds.inv, Γ.refl _⟩, fun _ _ hr' => absurd hr' hnone,
      fun th hth => ?_⟩,
      .inl rfl⟩
    rcases List.mem_cons.mp hth with rfl | hth
    · exact hk
    · exact (hc.waiting th hth).later hholds.rely
  | finish o hr =>
    obtain ⟨hholds, hchange⟩ := hend o (hc.running o (.pure ()) hr)
    exact ⟨⟨s₀, Γ.refl _, fun _ => hholds, fun _ _ hr' => absurd hr' hnone, hc.waiting⟩, hchange⟩
  | fail o e hr =>
    obtain ⟨hholds, hchange⟩ := hend o (hc.running o (.raise e) hr)
    exact ⟨⟨s₀, Γ.refl _, fun _ => hholds, fun _ _ hr' => absurd hr' hnone, hc.waiting⟩, hchange⟩
  | resume th l₁ l₂ hidle hw _ =>
    have hholds := hc.idle hidle
    have hth := hc.waiting th (by simp [hw]) _ hholds.inv hholds.rely
    exact ⟨⟨c.state, hholds.rely, fun hi => absurd hi hsome, fun _ _ hr => hrun hr ▸ hth,
      fun th' hth' =>
      (hc.waiting th' (hrest hw th' hth')).later hholds.rely⟩, .inl rfl⟩
  | cancel t fs k l₁ l₂ hidle hw _ _ =>
    obtain ⟨hholds, hchange⟩ := hS.finish t _ _ (hc.idle hidle)
    exact ⟨⟨s₀, Γ.refl _, fun _ => hholds, fun _ _ hr => by simp [hidle] at hr, fun th' hth' =>
      hc.waiting th' (hrest hw th' hth')⟩, .inr hchange⟩

theorem Guards.step (hS : S.Guards Γ) (hok : ∀ e v, cond (.mark e) v → Γ.ok e v.state)
    (h : S.Step cond c c') (hc : Guarding Γ c) :
    Guarding Γ c' ∧ (c'.state = c.state ∨ Γ.change c.state c'.state) := by
  obtain ⟨s₀, hc⟩ := hc
  obtain ⟨⟨s₁, -, hc'⟩, hchange⟩ := hS.step_from hok h hc
  exact ⟨⟨s₁, hc'⟩, hchange⟩

/-- **Throughout a run** the coroutines keep the guarantee. -/
theorem Guards.run (hS : S.Guards Γ) (hok : ∀ e v, cond (.mark e) v → Γ.ok e v.state)
    (h : S.Run cond c c') (hc : Guarding Γ c) : Guarding Γ c' := by
  induction h with
  | refl => exact hc
  | tail _ hstep ih => exact (hS.step hok hstep ih).1

/-- **Between two states** of a run in which no coroutine is running, all changes together are what
the suspended coroutines rely on. -/
theorem Guards.run_rely (hS : S.Guards Γ) (hok : ∀ e v, cond (.mark e) v → Γ.ok e v.state)
    (h : S.Run cond c c') (hc : Guarding Γ c) (hidle : c.running = none)
    (hidle' : c'.running = none) : Γ.rely c.state c'.state := by
  obtain ⟨s₀, hc⟩ := hc
  have hholds := hc.idle hidle
  have hfrom : GuardingFrom Γ c.state c := by
    refine ⟨fun _ => ⟨hholds.inv, Γ.refl _⟩, fun o k hr => ?_, fun th hth =>
      (hc.waiting th hth).later hholds.rely⟩
    simp [hidle] at hr
  have hrun : ∃ s₁, Γ.rely c.state s₁ ∧ GuardingFrom Γ s₁ c' := by
    clear hidle'
    induction h with
    | refl => exact ⟨c.state, Γ.refl _, hfrom⟩
    | tail _ hstep ih =>
      obtain ⟨s₁, hrely, hc₁⟩ := ih
      obtain ⟨⟨s₂, hrely₂, hc₂⟩, -⟩ := hS.step_from hok hstep hc₁
      exact ⟨s₂, Γ.trans hrely hrely₂, hc₂⟩
  obtain ⟨s₁, hrely, hc'⟩ := hrun
  exact Γ.trans hrely (hc'.idle hidle').rely

/-- A configuration in which nothing is suspended. -/
theorem guarding_of_quiet (hr : c.running = none) (hw : c.waiting = []) (h : Γ.inv c.state) :
    Guarding Γ c :=
  ⟨c.state, fun _ => ⟨h, Γ.refl _⟩, fun _ _ h' => by simp [hr] at h',
    fun _ h' => by simp [hw] at h'⟩

end Loop
