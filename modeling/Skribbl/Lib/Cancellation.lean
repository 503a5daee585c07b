import Skribbl.Lib.Coroutine

/-!
# A coroutine in a task that may be cancelled

`task.cancel()` on a running task takes effect where its coroutine is suspended next: there it gets
`CancelledError`.

* `Coro.drive` — what becomes of a coroutine in a task, given at which awaits it is suspended and
  what the other coroutines do meanwhile.
* `Coro.Passes` — it is suspended at none of its awaits.

Principal results: `drive_cancelled` — once the task is cancelled, the next suspension is the end;
`drive_returned` — a task that nobody cancels returns; `drive_of_wp` — a coroutine that is never
suspended does what its weakest precondition says.
-/

set_option autoImplicit false

namespace Coro

variable {σ F E α β : Type}

/-- How a coroutine ends. -/
inductive Outcome where
  | returned
  | raised
  | cancelled
  deriving DecidableEq

/-- The end of a coroutine, with its marks. -/
structure Driven (E : Type) where
  outcome : Outcome
  marks : List E

/-- Run a coroutine in a task.  The list says for each await whether it suspends, and then what the
others do to the state before the coroutine is resumed. -/
def drive (cancelled : σ → Bool) : Coro σ F E α → List (Option (σ → σ)) → σ → Driven E
  | .pure _, _, _ => ⟨.returned, []⟩
  | .raise _, _, _ => ⟨.raised, []⟩
  | .get k, l, s => (k s).drive cancelled l s
  | .modify f k, l, s => k.drive cancelled l (f s)
  | .mark e k, l, s =>
    let d := k.drive cancelled l s
    ⟨d.outcome, e :: d.marks⟩
  | .await _ k, [], s => k.drive cancelled [] s
  | .await _ k, none :: l, s => k.drive cancelled l s
  | .await _ k, some others :: l, s =>
    if cancelled (others s) then ⟨.cancelled, []⟩ else k.drive cancelled l (others s)

/-- The coroutine is suspended at none of the awaits that it comes to. -/
def Passes : Coro σ F E α → List (Option (σ → σ)) → σ → Prop
  | .pure _, _, _ => True
  | .raise _, _, _ => True
  | .get k, l, s => (k s).Passes l s
  | .modify f k, l, s => k.Passes l (f s)
  | .mark _ k, l, s => k.Passes l s
  | .await _ k, [], s => k.Passes [] s
  | .await _ k, none :: l, s => k.Passes l s
  | .await _ _, some _ :: _, _ => False

section Drive

variable {cancelled : σ → Bool} {c : Coro σ F E α} {l : List (Option (σ → σ))} {s : σ}
  {P : Footprint σ F E}

/-- **Once the task is cancelled, the next suspension is its end.** -/
theorem drive_cancelled (hc : Within P c)
    (hP : ∀ s s', P.change s s' → cancelled s = true → cancelled s' = true)
    (hl : ∀ others, some others ∈ l → ∀ s, cancelled s = true → cancelled (others s) = true)
    (hs : cancelled s = true) (h : ¬c.Passes l s) :
    (c.drive cancelled l s).outcome = .cancelled := by
  induction hc generalizing l s with
  | pure a => exact absurd trivial h
  | raise e he => exact absurd trivial h
  | get k _ ih => exact ih _ hl hs h
  | modify f k hf _ ih => exact ih hl (hP _ _ (hf s) hs) h
  | mark e k _ _ ih => exact ih hl hs h
  | await fs k _ _ ih =>
    match l with
    | [] => exact ih hl hs h
    | none :: l => exact ih (fun o ho => hl o (List.mem_cons_of_mem _ ho)) hs h
    | some others :: l =>
      simp only [drive, hl others List.mem_cons_self s hs, if_true]

/-- **A task that nobody cancels returns.** -/
theorem drive_returned (hc : Within P c) (hfails : ¬P.fails)
    (hP : ∀ s s', P.change s s' → cancelled s = false → cancelled s' = false)
    (hl : ∀ others, some others ∈ l → ∀ s, cancelled s = false → cancelled (others s) = false)
    (hs : cancelled s = false) : (c.drive cancelled l s).outcome = .returned := by
  induction hc generalizing l s with
  | pure a => rfl
  | raise e he => exact absurd he hfails
  | get k _ ih => exact ih _ hl hs
  | modify f k hf _ ih => exact ih hl (hP _ _ (hf s) hs)
  | mark e k _ _ ih => exact ih hl hs
  | await fs k _ _ ih =>
    match l with
    | [] => exact ih hl hs
    | none :: l => exact ih (fun o ho => hl o (List.mem_cons_of_mem _ ho)) hs
    | some others :: l =>
      have ho := hl others List.mem_cons_self s hs
      simp only [drive, ho]
      exact ih (fun o ho => hl o (List.mem_cons_of_mem _ ho)) ho

/-- **A coroutine that is not suspended returns**, if its weakest precondition rules out that it
raises. -/
theorem drive_of_wp {R : Multiset F} {Q : α → View σ F E → Prop} {v : View σ F E}
    (hc : c.wp .unsuspended R Q v) (h : c.Passes l v.state) :
    (c.drive cancelled l v.state).outcome = .returned := by
  induction c generalizing l v with
  | pure a => rfl
  | raise e => exact hc.elim
  | get k ih => exact ih _ hc h
  | modify f k ih => exact ih (v := v.set (f v.state)) hc h
  | mark e k ih => exact ih (v := v.push e) (hc trivial) h
  | await fs k ih =>
    match l with
    | [] => exact ih hc.1 h
    | none :: l => exact ih hc.1 h
    | some others :: l => exact h.elim

/-- **A first part without an await**: the run goes on from where its weakest precondition leads. -/
theorem drive_bind {f : α → Coro σ F E β} {R : Multiset F} {Q : α → View σ F E → Prop}
    {v : View σ F E} (hc : c.wp .atomic R Q v) :
    ∃ a v' marks, Q a v' ∧
      ((c >>= f).Passes l v.state ↔ (f a).Passes l v'.state) ∧
      (c >>= f).drive cancelled l v.state =
        ⟨((f a).drive cancelled l v'.state).outcome,
          marks ++ ((f a).drive cancelled l v'.state).marks⟩ := by
  change ∃ a v' marks, Q a v' ∧ ((c.bind f).Passes l v.state ↔ _) ∧
    (c.bind f).drive cancelled l v.state = _
  induction c generalizing v with
  | pure a => exact ⟨a, v, [], hc, Iff.rfl, rfl⟩
  | raise e => exact hc.elim
  | get k ih => exact ih _ hc
  | modify g k ih => exact ih (v := v.set (g v.state)) hc
  | mark e k ih =>
    obtain ⟨a, v', marks, hQ, hp, hd⟩ := ih (v := v.push e) (hc trivial)
    refine ⟨a, v', e :: marks, hQ, hp, ?_⟩
    rw [View.push_state] at hd
    simp only [bind, drive, hd, List.cons_append]
  | await fs k ih => exact ((hc.2 trivial).1).elim

theorem passes_nil : c.Passes [] s := by
  induction c generalizing s with
  | pure a => trivial
  | raise e => trivial
  | get k ih => exact ih _
  | modify f k ih => exact ih
  | await fs k ih => exact ih
  | mark e k ih => exact ih

/-- The end of a coroutine that returns: the last part is run to its end. -/
theorem marks_of_returned {f : α → Coro σ F E β}
    (h : ((c >>= f).drive cancelled l s).outcome = .returned) :
    ∃ a l' s', ((f a).drive cancelled l' s').outcome = .returned ∧
      ((f a).drive cancelled l' s').marks <:+ ((c >>= f).drive cancelled l s).marks := by
  change ((c.bind f).drive cancelled l s).outcome = .returned at h
  change ∃ a l' s', _ ∧ _ <:+ ((c.bind f).drive cancelled l s).marks
  induction c generalizing l s with
  | pure a => exact ⟨a, l, s, h, List.suffix_rfl⟩
  | raise e => cases h
  | get k ih => exact ih _ h
  | modify g k ih => exact ih h
  | mark e k ih =>
    obtain ⟨a, l', s', hr, hm⟩ := ih h
    exact ⟨a, l', s', hr, hm.trans (List.suffix_cons _ _)⟩
  | await fs k ih =>
    match l with
    | [] => exact ih h
    | none :: l => exact ih h
    | some others :: l =>
      simp only [bind, drive] at h ⊢
      split at h
      · cases h
      · rename_i hx
        simp only [hx]
        exact ih h

end Drive

end Coro
