import Skribbl.Lib.Coroutine

/-!
# What a call does

* `Coro.Ends` — a call may end with a result in a state, when the changes that the others make while
  it is suspended are in a given relation.
* `Coro.exec` — how a call ends when it is not suspended.
* `Setting.among`, `Setting.alongside` — the setting of a coroutine whose weakest precondition is
  about such a call.
* `Coro.Makes` — a change of the state that a call may make itself; `Coro.MustMake` — one that it
  makes in every execution.

Principal results: `Ends.total` — every call ends; `Ends.of_bind` — the first part of a call;
`Ends.of_wp`, `Ends.of_returned` — a call ends as its weakest precondition says; `makes_bind`,
`Makes.within` — what a call may change.
-/

set_option autoImplicit false

namespace Coro

variable {σ F E α β : Type}

/-- Called in `s`, the coroutine may end with `x` in `s'`: it returns a value or raises. -/
def Ends (rely : σ → σ → Prop) : Coro σ F E α → σ → Except String α → σ → Prop
  | .pure a, s, x, s' => x = .ok a ∧ s' = s
  | .raise e, s, x, s' => x = .error e ∧ s' = s
  | .get k, s, x, s' => (k s).Ends rely s x s'
  | .modify f k, s, x, s' => k.Ends rely (f s) x s'
  | .await _ k, s, x, s' => k.Ends rely s x s' ∨ ∃ s₁, rely s s₁ ∧ k.Ends rely s₁ x s'
  | .mark _ k, s, x, s' => k.Ends rely s x s'

variable {rely : σ → σ → Prop} {s s' : σ}

/-- **Every call ends**, since the loops of a coroutine are over data. -/
theorem Ends.total (c : Coro σ F E α) (s : σ) : ∃ x s', c.Ends rely s x s' := by
  induction c generalizing s with
  | pure a => exact ⟨_, _, rfl, rfl⟩
  | raise e => exact ⟨_, _, rfl, rfl⟩
  | get k ih => exact ih _ _
  | modify f k ih => exact ih _
  | await fs k ih =>
    obtain ⟨x, s', h⟩ := ih s
    exact ⟨x, s', .inl h⟩
  | mark e k ih => exact ih _

/-- The result and the state at the end of a call that is not suspended. -/
def exec : Coro σ F E α → σ → Except String α × σ
  | .pure a, s => (.ok a, s)
  | .raise e, s => (.error e, s)
  | .get k, s => (k s).exec s
  | .modify f k, s => k.exec (f s)
  | .await _ k, s => k.exec s
  | .mark _ k, s => k.exec s

theorem ends_exec (c : Coro σ F E α) (s : σ) : c.Ends rely s (c.exec s).1 (c.exec s).2 := by
  induction c generalizing s with
  | pure a => exact ⟨rfl, rfl⟩
  | raise e => exact ⟨rfl, rfl⟩
  | get k ih => exact ih _ _
  | modify f k ih => exact ih _
  | await fs k ih => exact .inl (ih s)
  | mark e k ih => exact ih _

theorem exec_bind {c : Coro σ F E α} {f : α → Coro σ F E β} {a : α} {s s' : σ}
    (h : c.exec s = (.ok a, s')) : (c >>= f).exec s = (f a).exec s' := by
  change (c.bind f).exec s = _
  induction c generalizing s with
  | pure b =>
    obtain ⟨hb, rfl⟩ := Prod.mk.inj h
    cases hb
    rfl
  | raise e => cases (Prod.mk.inj h).1
  | get k ih => exact ih _ h
  | modify g k ih => exact ih h
  | await fs k ih => exact ih h
  | mark e k ih => exact ih h

/-- A sequence ends in its first part with an exception, or in its second part. -/
theorem Ends.of_bind {c : Coro σ F E α} {f : α → Coro σ F E β} {x : Except String β}
    (h : (c >>= f).Ends rely s x s') :
    (∃ a s₁, c.Ends rely s (.ok a) s₁ ∧ (f a).Ends rely s₁ x s') ∨
      ∃ e, x = .error e ∧ c.Ends rely s (.error e) s' := by
  change (c.bind f).Ends rely s x s' at h
  induction c generalizing s with
  | pure a => exact .inl ⟨a, s, ⟨rfl, rfl⟩, h⟩
  | raise e => exact .inr ⟨e, h.1, rfl, h.2⟩
  | get k ih => exact ih _ h
  | modify f k ih => exact ih h
  | await fs k ih =>
    rcases h with h | ⟨s₁, hs, h⟩
    · rcases ih h with ⟨a, s₂, hc, hf⟩ | ⟨e, hx, hc⟩
      · exact .inl ⟨a, s₂, .inl hc, hf⟩
      · exact .inr ⟨e, hx, .inl hc⟩
    · rcases ih h with ⟨a, s₂, hc, hf⟩ | ⟨e, hx, hc⟩
      · exact .inl ⟨a, s₂, .inr ⟨s₁, hs, hc⟩, hf⟩
      · exact .inr ⟨e, hx, .inr ⟨s₁, hs, hc⟩⟩
  | mark e k ih => exact ih h

/-- How a sequence ends. -/
theorem ends_bind {c : Coro σ F E α} {f : α → Coro σ F E β} {x : Except String β} :
    (c >>= f).Ends rely s x s' ↔
      (∃ a s₁, c.Ends rely s (.ok a) s₁ ∧ (f a).Ends rely s₁ x s') ∨
        ∃ e, x = .error e ∧ c.Ends rely s (.error e) s' := by
  refine ⟨Ends.of_bind, fun h => ?_⟩
  change (c.bind f).Ends rely s x s'
  induction c generalizing s with
  | pure a =>
    rcases h with ⟨b, s₁, ⟨hb, rfl⟩, hf⟩ | ⟨e, -, he, -⟩
    · cases hb
      exact hf
    · cases he
  | raise e =>
    rcases h with ⟨b, s₁, ⟨hb, -⟩, -⟩ | ⟨e', rfl, he, hs⟩
    · cases hb
    · cases he
      exact ⟨rfl, hs⟩
  | get k ih => exact ih _ h
  | modify f k ih => exact ih h
  | await fs k ih =>
    rcases h with ⟨a, s₁, hc | ⟨s₂, hs, hc⟩, hf⟩ | ⟨e, hx, hc | ⟨s₂, hs, hc⟩⟩
    · exact .inl (ih (.inl ⟨a, s₁, hc, hf⟩))
    · exact .inr ⟨s₂, hs, ih (.inl ⟨a, s₁, hc, hf⟩)⟩
    · exact .inl (ih (.inr ⟨e, hx, hc⟩))
    · exact .inr ⟨s₂, hs, ih (.inr ⟨e, hx, hc⟩)⟩
  | mark e k ih => exact ih h

/-- A call whose footprint has no exceptions does not raise. -/
theorem Ends.not_error {P : Footprint σ F E} {c : Coro σ F E α} (hc : Within P c)
    (hP : ¬P.fails) {e : String} : ¬c.Ends rely s (.error e) s' := by
  induction hc generalizing s with
  | pure a => exact fun h => nomatch h.1
  | raise e he => exact absurd he hP
  | get k _ ih => exact ih _
  | modify f k _ _ ih => exact ih
  | await fs k _ _ ih =>
    rintro (h | ⟨s₁, -, h⟩)
    · exact ih h
    · exact ih h
  | mark e k _ _ ih => exact ih

/-- What the footprint keeps, and the others too, is kept by the call. -/
theorem Ends.within {P : Footprint σ F E} {G : σ → Prop} {c : Coro σ F E α} (hc : Within P c)
    (hP : ∀ s s', P.change s s' → G s → G s') (hrely : ∀ s s', rely s s' → G s → G s')
    {x : Except String α} (h : c.Ends rely s x s') (hs : G s) : G s' := by
  induction hc generalizing s with
  | pure a => exact h.2 ▸ hs
  | raise e _ => exact h.2 ▸ hs
  | get k _ ih => exact ih _ h hs
  | modify f k hf _ ih => exact ih h (hP _ _ (hf s) hs)
  | await fs k _ _ ih =>
    rcases h with h | ⟨s₁, hs₁, h⟩
    · exact ih h hs
    · exact ih h (hrely _ _ hs₁ hs)
  | mark e k _ _ ih => exact ih h hs

/-- The setting in which a fact about the state is kept. -/
def Setting.keeping (rely : σ → σ → Prop) (G : σ → Prop) : Setting σ F E :=
  ⟨fun v => G v.state, fun _ => True, fun _ _ => True, rely⟩

/-- A fact that a call and the others keep holds at its end. -/
theorem Ends.of_stable {G : σ → Prop} {c : Coro σ F E α}
    (hc : Stable (Setting.keeping rely G : Setting σ F E) c)
    (hrely : ∀ s s', rely s s' → G s → G s') {x : Except String α} (h : c.Ends rely s x s')
    (hs : G s) : G s' := by
  have hwp : c.wp (Setting.keeping rely G) 0 (fun _ v => G v.state) ⟨s, 0, []⟩ :=
    hc.out 0 ⟨s, 0, []⟩ hs
  clear hc hs
  generalize ([] : List E) = tr at hwp
  induction c generalizing s tr with
  | pure a => exact h.2 ▸ hwp
  | raise e => exact h.2 ▸ hwp
  | get k ih => exact ih _ h _ hwp
  | modify f k ih => exact ih h _ hwp
  | await fs k ih =>
    obtain ⟨hnow, hlater⟩ := hwp
    rcases h with h | ⟨s₁, hs₁, h⟩
    · exact ih h _ hnow
    · obtain ⟨hG, hresume⟩ := hlater trivial
      have hG₁ : G s₁ := hrely _ _ hs₁ hG
      exact ih h _ (hresume ⟨s₁, 0, tr⟩ hs₁ trivial hG₁)
  | mark e k ih => exact ih h _ (hwp trivial)

/-- The setting of a coroutine among others, with a frame of its own: only when it is suspended is
there a frame. -/
def Setting.among (rely : σ → σ → Prop) : Setting σ F E :=
  ⟨fun v => v.waiting ≠ 0, fun _ => True, fun _ _ => True, rely⟩

/-- Wherever the coroutine is suspended, the frame that it is called under is there. -/
theorem Setting.among_inv {R : Multiset F} (hR : R ≠ 0) (fs : Multiset F) (v : View σ F E) :
    (Setting.among rely).inv (v.add (fs + R)) := by
  intro h
  have hcard : (fs + R + v.waiting).card = 0 := Multiset.card_eq_zero.mpr h
  rw [Multiset.card_add, Multiset.card_add] at hcard
  exact hR (Multiset.card_eq_zero.mp (by omega))

/-- **A call ends as its weakest precondition says**, and raises nothing. -/
theorem Ends.of_wp {R : Multiset F} {c : Coro σ F E α} {Q : α → View σ F E → Prop} {tr : List E}
    (hwp : c.wp (.among rely) R Q ⟨s, 0, tr⟩) (hR : R ≠ 0) {x : Except String α}
    (h : c.Ends rely s x s') : ∃ a tr', x = .ok a ∧ Q a ⟨s', 0, tr'⟩ := by
  induction c generalizing s tr with
  | pure a =>
    obtain ⟨rfl, rfl⟩ := h
    exact ⟨a, tr, rfl, hwp⟩
  | raise e => exact absurd rfl hwp
  | get k ih => exact ih _ hwp h
  | modify f k ih => exact ih hwp h
  | await fs k ih =>
    rcases h with h | ⟨s₁, hs, h⟩
    · exact ih hwp.1 h
    · exact ih ((hwp.2 trivial).2 ⟨s₁, 0, tr⟩ hs trivial (Setting.among_inv hR _ _)) h
  | mark e k ih => exact ih (hwp trivial) h

/-- The setting of a coroutine among others that may raise. -/
def Setting.alongside (rely : σ → σ → Prop) : Setting σ F E :=
  ⟨fun _ => True, fun _ => True, fun _ _ => True, rely⟩

/-- A call that returns ends as its weakest precondition says. -/
theorem Ends.of_returned {R : Multiset F} {c : Coro σ F E α} {Q : α → View σ F E → Prop}
    {tr : List E} (hwp : c.wp (.alongside rely) R Q ⟨s, 0, tr⟩) {a : α}
    (h : c.Ends rely s (.ok a) s') : ∃ tr', Q a ⟨s', 0, tr'⟩ := by
  induction c generalizing s tr with
  | pure b =>
    obtain ⟨hb, rfl⟩ := h
    cases hb
    exact ⟨tr, hwp⟩
  | raise e => cases h.1
  | get k ih => exact ih _ hwp h
  | modify f k ih => exact ih hwp h
  | await fs k ih =>
    rcases h with h | ⟨s₁, hs, h⟩
    · exact ih hwp.1 h
    · exact ih ((hwp.2 trivial).2 ⟨s₁, 0, tr⟩ hs trivial trivial) h
  | mark e k ih => exact ih (hwp trivial) h

/-- A call without awaits ends as its weakest precondition says. -/
theorem Ends.of_atomic {c : Coro σ F E α} {Q : α → View σ F E → Prop} {tr : List E}
    (hwp : c.wp .atomic 0 Q ⟨s, 0, tr⟩) {x : Except String α} (h : c.Ends rely s x s') :
    ∃ a tr', x = .ok a ∧ Q a ⟨s', 0, tr'⟩ := by
  induction c generalizing s tr with
  | pure a =>
    obtain ⟨rfl, rfl⟩ := h
    exact ⟨a, tr, rfl, hwp⟩
  | raise e => exact hwp.elim
  | get k ih => exact ih _ hwp h
  | modify f k ih => exact ih hwp h
  | await fs k ih => exact (hwp.2 trivial).1.elim
  | mark e k ih => exact ih (hwp trivial) h

/-! ## Changes -/

/-- Called in `s`, the coroutine may itself change the state from `s₁` to `s₂`. -/
def Makes (rely : σ → σ → Prop) : Coro σ F E α → σ → σ → σ → Prop
  | .pure _, _, _, _ => False
  | .raise _, _, _, _ => False
  | .get k, s, s₁, s₂ => (k s).Makes rely s s₁ s₂
  | .modify f k, s, s₁, s₂ => s₁ = s ∧ s₂ = f s ∨ k.Makes rely (f s) s₁ s₂
  | .await _ k, s, s₁, s₂ => k.Makes rely s s₁ s₂ ∨ ∃ s', rely s s' ∧ k.Makes rely s' s₁ s₂
  | .mark _ k, s, s₁, s₂ => k.Makes rely s s₁ s₂

variable {s₁ s₂ : σ}

/-- A change of a sequence is one of its first part, or of its second part after the first. -/
theorem makes_bind {c : Coro σ F E α} {f : α → Coro σ F E β} :
    (c >>= f).Makes rely s s₁ s₂ ↔
      c.Makes rely s s₁ s₂ ∨ ∃ a s', c.Ends rely s (.ok a) s' ∧ (f a).Makes rely s' s₁ s₂ := by
  change (c.bind f).Makes rely s s₁ s₂ ↔ _
  induction c generalizing s with
  | pure a =>
    simp only [bind, Makes, Ends, Except.ok.injEq, false_or]
    constructor
    · intro h
      exact ⟨a, s, ⟨rfl, rfl⟩, h⟩
    · rintro ⟨_, _, ⟨rfl, rfl⟩, h⟩
      exact h
  | raise e => simp [bind, Makes, Ends]
  | get k ih => exact ih _
  | modify f k ih => simp only [bind, Makes, Ends, ih, or_assoc]
  | await fs k ih =>
    simp only [bind, Makes, Ends, ih]
    constructor
    · rintro ((h | ⟨a, s', he, h⟩) | ⟨s₃, hr, h | ⟨a, s', he, h⟩⟩)
      · exact .inl (.inl h)
      · exact .inr ⟨a, s', .inl he, h⟩
      · exact .inl (.inr ⟨s₃, hr, h⟩)
      · exact .inr ⟨a, s', .inr ⟨s₃, hr, he⟩, h⟩
    · rintro ((h | ⟨s₃, hr, h⟩) | ⟨a, s', he | ⟨s₃, hr, he⟩, h⟩)
      · exact .inl (.inl h)
      · exact .inr ⟨s₃, hr, .inl h⟩
      · exact .inl (.inr ⟨a, s', he, h⟩)
      · exact .inr ⟨s₃, hr, .inr ⟨a, s', he, h⟩⟩
  | mark e k ih => exact ih

/-- A call makes only changes that its footprint allows. -/
theorem Makes.within {P : Footprint σ F E} {c : Coro σ F E α} (hc : Within P c)
    (h : c.Makes rely s s₁ s₂) : P.change s₁ s₂ := by
  induction hc generalizing s with
  | pure a => exact h.elim
  | raise e _ => exact h.elim
  | get k _ ih => exact ih _ h
  | modify f k hf _ ih =>
    rcases h with ⟨rfl, rfl⟩ | h
    · exact hf _
    · exact ih h
  | await fs k _ _ ih =>
    rcases h with h | ⟨s', _, h⟩
    · exact ih h
    · exact ih h
  | mark e k _ _ ih => exact ih h

/-- Called in `s`, the coroutine makes a change with the property `P` in every execution. -/
def MustMake (rely : σ → σ → Prop) (P : σ → σ → Prop) : Coro σ F E α → σ → Prop
  | .pure _, _ => False
  | .raise _, _ => False
  | .get k, s => (k s).MustMake rely P s
  | .modify f k, s => P s (f s) ∨ k.MustMake rely P (f s)
  | .await _ k, s => k.MustMake rely P s ∧ ∀ s', rely s s' → k.MustMake rely P s'
  | .mark _ k, s => k.MustMake rely P s

variable {P : σ → σ → Prop}

theorem MustMake.makes {c : Coro σ F E α} (h : c.MustMake rely P s) :
    ∃ s₁ s₂, c.Makes rely s s₁ s₂ ∧ P s₁ s₂ := by
  induction c generalizing s with
  | pure a => exact h.elim
  | raise e => exact h.elim
  | get k ih => exact ih s h
  | modify f k ih =>
    rcases h with h | h
    · exact ⟨s, f s, .inl ⟨rfl, rfl⟩, h⟩
    · obtain ⟨s₁, s₂, hmakes, hP⟩ := ih h
      exact ⟨s₁, s₂, .inr hmakes, hP⟩
  | await fs k ih =>
    obtain ⟨s₁, s₂, hmakes, hP⟩ := ih h.1
    exact ⟨s₁, s₂, .inl hmakes, hP⟩
  | mark e k ih => exact ih h

/-- What the first part of a sequence makes in every execution, the sequence makes. -/
theorem MustMake.bind {c : Coro σ F E α} {f : α → Coro σ F E β} (h : c.MustMake rely P s) :
    (c >>= f).MustMake rely P s := by
  change (c.bind f).MustMake rely P s
  induction c generalizing s with
  | pure a => exact h.elim
  | raise e => exact h.elim
  | get k ih => exact ih s h
  | modify g k ih => exact h.imp_right ih
  | await fs k ih => exact ⟨ih h.1, fun s' hs' => ih (h.2 s' hs')⟩
  | mark e k ih => exact ih h

/-- What the second part of a sequence makes wherever the first has ended, the sequence makes, if
the first does not raise. -/
theorem MustMake.after {Q : Footprint σ F E} {c : Coro σ F E α} (hc : Within Q c) (hQ : ¬Q.fails)
    {f : α → Coro σ F E β} (h : ∀ a s, (f a).MustMake rely P s) : (c >>= f).MustMake rely P s := by
  change (c.bind f).MustMake rely P s
  induction hc generalizing s with
  | pure a => exact h a s
  | raise e he => exact absurd he hQ
  | get k _ ih => exact ih s
  | modify g k _ _ ih => exact .inr ih
  | await fs k _ _ ih => exact ⟨ih, fun s' _ => ih⟩
  | mark e k _ _ ih => exact ih

end Coro
