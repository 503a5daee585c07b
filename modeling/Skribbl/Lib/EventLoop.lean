import Mathlib.Logic.Relation
import Mathlib.Algebra.BigOperators.Group.Multiset.Basic
import Skribbl.Lib.Coroutine

/-!
# An event loop

One coroutine runs at a time.  When it returns, raises or is suspended, the loop calls a new one,
fires a task that is due, or resumes a suspended one.  A task that was cancelled gets
`CancelledError` where it is suspended and ends there.

* `Loop` — what the environment may call and what the tasks do.
* `Loop.Step`, `Loop.Run` — its steps and runs, whose marks, suspensions and cancellations meet a
  condition.
* `Loop.Keeps` — the proof obligations for an invariant.
* `Loop.play` — a run along given choices; `Loop.tick` — one step of the coroutine that runs.

Principal results: `Loop.Keeps.run` — a kept invariant holds in every state between two coroutines;
`Loop.run_change` — a run only makes changes that the footprints allow;
`Loop.run_of_play` — what `play` computes is a run.
-/

set_option autoImplicit false

/-- A coroutine suspended inside `frames`; `owner` is its task, if it runs in one. -/
structure Thread (σ F E T : Type) where
  owner : Option T
  frames : List F
  rest : Coro σ F E Unit

/-- A configuration of the loop. -/
structure Config (σ F E T : Type) where
  state : σ
  running : Option (Option T × Coro σ F E Unit)
  waiting : List (Thread σ F E T)
  trace : List E

/-- What the environment may call (`O`) and the tasks (`T`). -/
structure Loop (σ F E T O : Type) where
  call : O → Coro σ F E Unit
  body : T → Coro σ F E Unit
  due : T → σ → Bool
  start : T → σ → σ
  finish : T → σ → σ
  cancelled : T → σ → Bool

variable {σ F E T O : Type}

/-- The frames of all suspended coroutines together. -/
def Config.frames (c : Config σ F E T) : Multiset F :=
  (c.waiting.map fun th => (th.frames : Multiset F)).sum

/-- The configuration as an observer sees it. -/
def Config.view (c : Config σ F E T) : Coro.View σ F E := ⟨c.state, c.frames, c.trace⟩

namespace Loop

variable (S : Loop σ F E T O)

/-- The end of a coroutine. -/
def ended (o : Option T) (s : σ) : σ := o.elim s fun t => S.finish t s

/-- One step of the loop. -/
inductive Step (cond : Coro.Event F E → Coro.View σ F E → Prop) :
    Config σ F E T → Config σ F E T → Prop
  | call (c : Config σ F E T) (o : O) : c.running = none →
      Step cond c { c with running := some (none, S.call o) }
  | fire (c : Config σ F E T) (t : T) : c.running = none → S.due t c.state = true →
      Step cond c { c with state := S.start t c.state, running := some (some t, S.body t) }
  | get (c : Config σ F E T) (o : Option T) (k : σ → Coro σ F E Unit) :
      c.running = some (o, .get k) → Step cond c { c with running := some (o, k c.state) }
  | modify (c : Config σ F E T) (o : Option T) (f : σ → σ) (k : Coro σ F E Unit) :
      c.running = some (o, .modify f k) →
      Step cond c { c with state := f c.state, running := some (o, k) }
  | mark (c : Config σ F E T) (o : Option T) (e : E) (k : Coro σ F E Unit) :
      c.running = some (o, .mark e k) → cond (.mark e) c.view →
      Step cond c { c with trace := c.trace ++ [e], running := some (o, k) }
  | pass (c : Config σ F E T) (o : Option T) (fs : List F) (k : Coro σ F E Unit) :
      c.running = some (o, .await fs k) → Step cond c { c with running := some (o, k) }
  | suspend (c : Config σ F E T) (o : Option T) (fs : List F) (k : Coro σ F E Unit) :
      c.running = some (o, .await fs k) → cond (.suspend fs) c.view →
      Step cond c { c with running := none, waiting := ⟨o, fs, k⟩ :: c.waiting }
  | finish (c : Config σ F E T) (o : Option T) : c.running = some (o, .pure ()) →
      Step cond c { c with state := S.ended o c.state, running := none }
  | fail (c : Config σ F E T) (o : Option T) (e : String) : c.running = some (o, .raise e) →
      Step cond c { c with state := S.ended o c.state, running := none }
  | resume (c : Config σ F E T) (th : Thread σ F E T) (l₁ l₂ : List (Thread σ F E T)) :
      c.running = none → c.waiting = l₁ ++ th :: l₂ →
      (∀ t, th.owner = some t → S.cancelled t c.state = false) →
      Step cond c { c with running := some (th.owner, th.rest), waiting := l₁ ++ l₂ }
  | cancel (c : Config σ F E T) (t : T) (fs : List F) (k : Coro σ F E Unit)
      (l₁ l₂ : List (Thread σ F E T)) :
      c.running = none → c.waiting = l₁ ++ ⟨some t, fs, k⟩ :: l₂ →
      S.cancelled t c.state = true → cond (.cancel fs) c.view →
      Step cond c { c with state := S.finish t c.state, waiting := l₁ ++ l₂ }

/-- A run: any number of steps. -/
def Run (cond : Coro.Event F E → Coro.View σ F E → Prop) :
    Config σ F E T → Config σ F E T → Prop :=
  Relation.ReflTransGen (S.Step cond)

/-! ## Footprints of runs -/

section Footprints

variable {S} {cond : Coro.Event F E → Coro.View σ F E → Prop} {P : Coro.Footprint σ F E}

/-- Every coroutine of the configuration is within a footprint. -/
structure Inside (P : Coro.Footprint σ F E) (c : Config σ F E T) : Prop where
  running : ∀ o k, c.running = some (o, k) → Coro.Within P k
  waiting : ∀ th ∈ c.waiting, Coro.Within P th.rest

/-- Every coroutine of the loop is within a footprint, and its changes are in `R`, as is what the
loop does itself. -/
structure Changes (S : Loop σ F E T O) (P : Coro.Footprint σ F E) (R : σ → σ → Prop) : Prop where
  call : ∀ o, Coro.Within P (S.call o)
  body : ∀ t, Coro.Within P (S.body t)
  change : ∀ s s', P.change s s' → R s s'
  start : ∀ t s, S.due t s = true → R s (S.start t s)
  finish : ∀ t s, R s (S.finish t s)
  refl : ∀ s, R s s
  trans : ∀ s₁ s₂ s₃, R s₁ s₂ → R s₂ s₃ → R s₁ s₃

theorem Changes.step {R : σ → σ → Prop} (hS : Changes S P R) {c c' : Config σ F E T}
    (h : S.Step cond c c') (hc : Inside P c) : Inside P c' ∧ R c.state c'.state := by
  have hend : ∀ o s, R s (S.ended o s) := fun o s => by
    cases o with
    | none => exact hS.refl s
    | some t => exact hS.finish t s
  have hrun : ∀ {o : Option T} {k : Coro σ F E Unit}, Coro.Within P k →
      ∀ o' k', some (o, k) = some (o', k') → Coro.Within P k' :=
    fun hk o' k' h => by cases h; exact hk
  have hrest : ∀ {th : Thread σ F E T} {l₁ l₂}, c.waiting = l₁ ++ th :: l₂ →
      ∀ th' ∈ l₁ ++ l₂, Coro.Within P th'.rest := fun hw th' hth' =>
    hc.waiting th' (by
      simp only [hw, List.mem_append, List.mem_cons] at hth' ⊢
      exact hth'.imp_right .inr)
  cases h with
  | call o _ => exact ⟨⟨hrun (hS.call o), hc.waiting⟩, hS.refl _⟩
  | fire t _ hdue => exact ⟨⟨hrun (hS.body t), hc.waiting⟩, hS.start t _ hdue⟩
  | get o k hr =>
    cases hc.running _ _ hr with
    | get _ hk => exact ⟨⟨hrun (hk _), hc.waiting⟩, hS.refl _⟩
  | modify o f k hr =>
    cases hc.running _ _ hr with
    | modify _ _ hf hk => exact ⟨⟨hrun hk, hc.waiting⟩, hS.change _ _ (hf _)⟩
  | mark o e k hr _ =>
    cases hc.running _ _ hr with
    | mark _ _ _ hk => exact ⟨⟨hrun hk, hc.waiting⟩, hS.refl _⟩
  | pass o fs k hr =>
    cases hc.running _ _ hr with
    | await _ _ _ hk => exact ⟨⟨hrun hk, hc.waiting⟩, hS.refl _⟩
  | suspend o fs k hr _ =>
    cases hc.running _ _ hr with
    | await _ _ _ hk =>
      refine ⟨⟨nofun, fun th hth => ?_⟩, hS.refl _⟩
      rcases List.mem_cons.mp hth with rfl | hth
      · exact hk
      · exact hc.waiting th hth
  | finish o _ => exact ⟨⟨nofun, hc.waiting⟩, hend o _⟩
  | fail o _ _ => exact ⟨⟨nofun, hc.waiting⟩, hend o _⟩
  | resume th l₁ l₂ _ hw _ =>
    exact ⟨⟨hrun (hc.waiting th (by simp [hw])), hrest hw⟩, hS.refl _⟩
  | cancel t fs k l₁ l₂ hidle hw _ _ =>
    exact ⟨⟨fun _ _ hr => by simp [hidle] at hr, hrest hw⟩, hS.finish t _⟩

/-- **A run makes no other changes than its coroutines.** -/
theorem run_change {R : σ → σ → Prop} (hS : Changes S P R) {c c' : Config σ F E T}
    (h : S.Run cond c c') (hc : Inside P c) : Inside P c' ∧ R c.state c'.state := by
  induction h with
  | refl => exact ⟨hc, hS.refl _⟩
  | tail _ hstep ih =>
    obtain ⟨hin, hR⟩ := ih
    obtain ⟨hin', hR'⟩ := hS.step hstep hin
    exact ⟨hin', hS.trans _ _ _ hR hR'⟩

end Footprints

/-- A run under a condition is a run under a weaker one. -/
theorem Run.mono {cond cond' : Coro.Event F E → Coro.View σ F E → Prop}
    (hcond : ∀ e v, cond e v → cond' e v) {c c' : Config σ F E T} (h : S.Run cond c c') :
    S.Run cond' c c' := by
  refine Relation.ReflTransGen.mono (fun a b hab => ?_) _ _ h
  cases hab with
  | call o h => exact .call _ o h
  | fire t h hd => exact .fire _ t h hd
  | get o k h => exact .get _ o k h
  | modify o f k h => exact .modify _ o f k h
  | mark o e k h he => exact .mark _ o e k h (hcond _ _ he)
  | pass o fs k h => exact .pass _ o fs k h
  | suspend o fs k h he => exact .suspend _ o fs k h (hcond _ _ he)
  | finish o h => exact .finish _ o h
  | fail o e h => exact .fail _ o e h
  | resume th l₁ l₂ h hw ht => exact .resume _ th l₁ l₂ h hw ht
  | cancel t fs k l₁ l₂ h hw ht he => exact .cancel _ t fs k l₁ l₂ h hw ht (hcond _ _ he)

/-! ## Invariants -/

section Invariants

variable (X : Coro.Setting σ F E)

/-- What has to be shown of an invariant. -/
structure Keeps : Prop where
  call : ∀ o v, X.known v → X.inv v → (S.call o).wp X 0 (fun _ => X.inv) v
  fire : ∀ t (v : Coro.View σ F E), S.due t v.state = true → X.known v → X.inv v →
    (S.body t).wp X 0 (fun _ => X.inv) (v.set (S.start t v.state))
  finish : ∀ t v, X.inv v → X.inv (v.set (S.finish t v.state))
  cancel : ∀ t (v : Coro.View σ F E) (fs : List F), S.cancelled t v.state = true →
    X.cond (.cancel fs) (v.add fs) → X.inv (v.add fs) → X.inv (v.set (S.finish t v.state))

/-- Every coroutine of the configuration keeps the invariant. -/
structure Ready (c : Config σ F E T) : Prop where
  idle : c.running = none → X.inv c.view
  running : ∀ o k, c.running = some (o, k) → k.wp X 0 (fun _ => X.inv) c.view
  waiting : ∀ th ∈ c.waiting, ∀ v : Coro.View σ F E, X.rely c.state v.state →
    X.known (v.add th.frames) → X.inv (v.add th.frames) → th.rest.wp X 0 (fun _ => X.inv) v

variable {S X} {P : Coro.Footprint σ F E}

theorem view_of_waiting {c : Config σ F E T} {th : Thread σ F E T}
    {l₁ l₂ : List (Thread σ F E T)} (h : c.waiting = l₁ ++ th :: l₂) :
    c.view = ({ c with waiting := l₁ ++ l₂ } : Config σ F E T).view.add th.frames := by
  simp only [Config.view, Config.frames, Coro.View.add, h, List.map_append, List.map_cons,
    List.sum_append, List.sum_cons]
  congr 1
  exact add_left_comm _ _ _

theorem ended_keeps (hS : S.Keeps X) (o : Option T) {v : Coro.View σ F E} (h : X.inv v) :
    X.inv (v.set (S.ended o v.state)) := by
  cases o with
  | none => exact h
  | some t => exact hS.finish t v h

/-- One step leaves every coroutine ready, if it changes the state as the others rely on. -/
theorem Keeps.step (hS : S.Keeps X) (hR : Changes S P X.rely) {c c' : Config σ F E T}
    (h : S.Step X.cond c c') (hin : Inside P c) (hk : c.running = none → X.known c.view)
    (hc : Ready X c) : Ready X c' := by
  have hrun : ∀ {o k o' k'}, (some (o, k) : Option (Option T × Coro σ F E Unit)) = some (o', k') →
      k = k' := fun h => by cases h; rfl
  have hrely : X.rely c.state c'.state := (hR.step h hin).2
  have hwait : ∀ th ∈ c.waiting, ∀ v : Coro.View σ F E, X.rely c'.state v.state →
      X.known (v.add th.frames) → X.inv (v.add th.frames) → th.rest.wp X 0 (fun _ => X.inv) v :=
    fun th hth v hv => hc.waiting th hth v (hR.trans _ _ _ hrely hv)
  have hrest : ∀ {th : Thread σ F E T} {l₁ l₂}, c.waiting = l₁ ++ th :: l₂ →
      ∀ th' ∈ l₁ ++ l₂, th' ∈ c.waiting := fun hw th' hth' => by
    simp only [hw, List.mem_append, List.mem_cons] at hth' ⊢
    exact hth'.imp_right .inr
  cases h with
  | call o hidle =>
    exact ⟨nofun, fun _ _ hr => hrun hr ▸ hS.call o _ (hk hidle) (hc.idle hidle), hwait⟩
  | fire t hidle hdue =>
    exact ⟨nofun, fun _ _ hr => hrun hr ▸ hS.fire t _ hdue (hk hidle) (hc.idle hidle), hwait⟩
  | get o k hr =>
    have hk : (k c.state).wp X 0 (fun _ => X.inv) c.view := hc.running o (.get k) hr
    exact ⟨nofun, fun _ _ hr' => hrun hr' ▸ hk, hwait⟩
  | modify o f k hr => exact ⟨nofun, fun _ _ hr' => hrun hr' ▸ hc.running _ _ hr, hwait⟩
  | mark o e k hr hcond =>
    exact ⟨nofun, fun _ _ hr' => hrun hr' ▸ hc.running _ _ hr hcond, hwait⟩
  | pass o fs k hr =>
    exact ⟨nofun, fun _ _ hr' => hrun hr' ▸ (hc.running _ _ hr).1, hwait⟩
  | suspend o fs k hr hcond =>
    obtain ⟨hI, hk⟩ := (hc.running _ _ hr).2 (by rwa [add_zero])
    rw [add_zero] at hI hk
    refine ⟨fun _ => hI, nofun, fun th hth => ?_⟩
    rcases List.mem_cons.mp hth with rfl | hth
    · exact hk
    · exact hwait th hth
  | finish o hr => exact ⟨fun _ => ended_keeps hS o (hc.running _ _ hr), nofun, hwait⟩
  | fail o e hr => exact ⟨fun _ => ended_keeps hS o (hc.running _ _ hr), nofun, hwait⟩
  | resume th l₁ l₂ hidle hw _ =>
    have hth := hwait th (by simp [hw])
    have hI := hc.idle hidle
    have hK := hk hidle
    rw [view_of_waiting hw] at hI hK
    exact ⟨nofun, fun _ _ hr' => hrun hr' ▸ hth _ (hR.refl _) hK hI,
      fun th' hth' => hwait th' (hrest hw th' hth')⟩
  | cancel t fs k l₁ l₂ hidle hw hx hcond =>
    have hI := hc.idle hidle
    rw [view_of_waiting hw] at hI hcond
    refine ⟨fun _ => hS.cancel t _ fs hx hcond hI, fun _ _ hr => ?_,
      fun th' hth' => hwait th' (hrest hw th' hth')⟩
    simp [hidle] at hr

/-- **A kept invariant holds whenever no coroutine is running.** -/
theorem Keeps.run (hS : S.Keeps X) (hR : Changes S P X.rely) {c c' : Config σ F E T}
    (h : S.Run X.cond c c') (hin : Inside P c)
    (hk : ∀ c', S.Run X.cond c c' → c'.running = none → X.known c'.view) (hc : Ready X c) :
    Ready X c' := by
  induction h with
  | refl => exact hc
  | tail hrun hstep ih => exact hS.step hR hstep (run_change hR hrun hin).1 (hk _ hrun) ih

/-- A configuration in which nothing is suspended is ready as soon as the invariant holds. -/
theorem ready_of_quiet {c : Config σ F E T} (hr : c.running = none) (hw : c.waiting = [])
    (h : X.inv c.view) : Ready X c :=
  ⟨fun _ => h, fun _ _ h' => by simp [hr] at h', fun _ h' => by simp [hw] at h'⟩

theorem inside_of_quiet {c : Config σ F E T} (hr : c.running = none) (hw : c.waiting = []) :
    Inside P c :=
  ⟨fun _ _ h' => by simp [hr] at h', fun _ h' => by simp [hw] at h'⟩

end Invariants

/-! ## Playing a run -/

/-- What the loop does next. -/
inductive Choice (T O : Type) where
  | call (o : O)
  | fire (t : T)
  | resume (i : Nat)
  | cancel (i : Nat)

/-- The condition that every event meets. -/
def anyEvent : Coro.Event F E → Coro.View σ F E → Prop := fun _ _ => True

instance (e : Coro.Event F E) (v : Coro.View σ F E) : Decidable (anyEvent e v) := .isTrue trivial

section Playing

variable (cond : Coro.Event F E → Coro.View σ F E → Prop) [∀ e v, Decidable (cond e v)]

/-- Run a coroutine until it ends or is suspended; `ds` says at which awaits it is suspended, and
after them it never is. -/
def advance (o : Option T) : Coro σ F E Unit → List Bool → Config σ F E T → Option (Config σ F E T)
  | .pure _, _, c => some { c with state := S.ended o c.state, running := none }
  | .raise _, _, c => some { c with state := S.ended o c.state, running := none }
  | .get k, ds, c => advance o (k c.state) ds c
  | .modify f k, ds, c => advance o k ds { c with state := f c.state }
  | .mark e k, ds, c =>
    if cond (.mark e) c.view then advance o k ds { c with trace := c.trace ++ [e] } else none
  | .await fs k, ds, c =>
    if ds.headD false = false then advance o k ds.tail c
    else if cond (.suspend fs) c.view then
      some { c with running := none, waiting := ⟨o, fs, k⟩ :: c.waiting }
    else none

/-- Make a choice and run the coroutine that it starts, if the condition allows it. -/
def choose (c : Config σ F E T) (ds : List Bool) : Choice T O → Option (Config σ F E T)
  | .call o => S.advance cond none (S.call o) ds c
  | .fire t =>
    if S.due t c.state = true then
      S.advance cond (some t) (S.body t) ds { c with state := S.start t c.state }
    else none
  | .resume i =>
    c.waiting[i]?.elim none fun th =>
      if th.owner.all (fun t => !S.cancelled t c.state) = true then
        S.advance cond th.owner th.rest ds { c with waiting := c.waiting.eraseIdx i }
      else none
  | .cancel i =>
    c.waiting[i]?.elim none fun th => th.owner.elim none fun t =>
      if S.cancelled t c.state = true ∧ cond (.cancel th.frames) c.view then
        some { c with state := S.finish t c.state, waiting := c.waiting.eraseIdx i }
      else none

/-- Make the choices one after the other. -/
def play : Config σ F E T → List (Choice T O × List Bool) → Option (Config σ F E T)
  | c, [] => some c
  | c, (ch, ds) :: l => (S.choose cond c ds ch).elim none fun c' => play c' l

/-- One step of the coroutine that is running, without a suspension. -/
def tick (c : Config σ F E T) : Option (Config σ F E T) :=
  match c.running with
  | none => none
  | some (o, .pure _) | some (o, .raise _) =>
    some { c with state := S.ended o c.state, running := none }
  | some (o, .get k) => some { c with running := some (o, k c.state) }
  | some (o, .modify f k) => some { c with state := f c.state, running := some (o, k) }
  | some (o, .mark e k) =>
    if cond (.mark e) c.view then
      some { c with trace := c.trace ++ [e], running := some (o, k) }
    else none
  | some (o, .await _ k) => some { c with running := some (o, k) }

/-- So many of them, if each meets the condition `p`. -/
def ticks (p : σ → σ → Bool) : Nat → Config σ F E T → Option (Config σ F E T)
  | 0, c => some c
  | n + 1, c => (S.tick cond c).elim none fun c' =>
    if p c.state c'.state = true then ticks p n c' else none

variable {S cond}

theorem run_of_advance {o : Option T} {k : Coro σ F E Unit} {ds : List Bool}
    {c c' : Config σ F E T} (h : S.advance cond o k ds c = some c') :
    S.Run cond { c with running := some (o, k) } c' := by
  induction k generalizing ds c with
  | pure a => cases h; exact .single (.finish _ o rfl)
  | raise e => cases h; exact .single (.fail _ o e rfl)
  | get k ih =>
    have hk : S.Run cond { c with running := some (o, k c.state) } c' := ih _ h
    exact .head (.get _ o k rfl) hk
  | modify f k ih => exact .head (.modify _ o f k rfl) (ih h)
  | mark e k ih =>
    simp only [advance] at h
    split at h
    · exact .head (.mark _ o e k rfl ‹_›) (ih h)
    · cases h
  | await fs k ih =>
    simp only [advance] at h
    split at h
    · have hk : S.Run cond { c with running := some (o, k) } c' := ih h
      exact .head (.pass _ o fs k rfl) hk
    · split at h
      · cases h; exact .single (.suspend _ o fs k rfl ‹_›)
      · cases h

theorem running_of_advance {o : Option T} {k : Coro σ F E Unit} {ds : List Bool}
    {c c' : Config σ F E T} (h : S.advance cond o k ds c = some c') : c'.running = none := by
  induction k generalizing ds c with
  | pure a => cases h; rfl
  | raise e => cases h; rfl
  | get k ih => exact ih _ h
  | modify f k ih => exact ih h
  | mark e k ih =>
    simp only [advance] at h
    split at h
    · exact ih h
    · cases h
  | await fs k ih =>
    simp only [advance] at h
    split at h
    · exact ih h
    · split at h
      · cases h; rfl
      · cases h

theorem waiting_split {c : Config σ F E T} {i : Nat} {th : Thread σ F E T}
    (h : c.waiting[i]? = some th) :
    ∃ l₁ l₂, c.waiting = l₁ ++ th :: l₂ ∧ c.waiting.eraseIdx i = l₁ ++ l₂ := by
  obtain ⟨hi, rfl⟩ := List.getElem?_eq_some_iff.mp h
  refine ⟨c.waiting.take i, c.waiting.drop (i + 1), ?_, List.eraseIdx_eq_take_drop_succ ..⟩
  rw [← List.drop_eq_getElem_cons hi, List.take_append_drop]

theorem run_of_choose {c c' : Config σ F E T} {ds : List Bool} {ch : Choice T O}
    (hc : c.running = none) (h : S.choose cond c ds ch = some c') :
    S.Run cond c c' ∧ c'.running = none := by
  cases ch with
  | call o => exact ⟨.head (.call c o hc) (run_of_advance h), running_of_advance h⟩
  | fire t =>
    simp only [choose] at h
    split at h
    · exact ⟨.head (.fire c t hc ‹_›) (run_of_advance h), running_of_advance h⟩
    · cases h
  | resume i =>
    simp only [choose] at h
    cases hth : c.waiting[i]? with
    | none => simp [hth] at h
    | some th =>
      simp only [hth, Option.elim] at h
      split at h
      · rename_i hok
        obtain ⟨l₁, l₂, hw, herase⟩ := waiting_split hth
        rw [herase] at h
        have halive : ∀ t, th.owner = some t → S.cancelled t c.state = false := by
          intro t ht
          simpa [ht] using hok
        exact ⟨.head (.resume c th l₁ l₂ hc hw halive) (run_of_advance h), running_of_advance h⟩
      · cases h
  | cancel i =>
    simp only [choose] at h
    cases hth : c.waiting[i]? with
    | none => simp [hth] at h
    | some th =>
      obtain ⟨o, fs, k⟩ := th
      cases o with
      | none => simp [hth] at h
      | some t =>
        simp only [hth, Option.elim] at h
        split at h
        · rename_i hok
          obtain ⟨l₁, l₂, hw, herase⟩ := waiting_split hth
          rw [herase] at h
          cases h
          exact ⟨.single (.cancel c t fs k l₁ l₂ hc hw hok.1 hok.2), hc⟩
        · cases h

/-- **What `play` computes is a run.** -/
theorem run_of_play {c c' : Config σ F E T} {l : List (Choice T O × List Bool)}
    (hc : c.running = none) (h : S.play cond c l = some c') :
    S.Run cond c c' ∧ c'.running = none := by
  induction l generalizing c with
  | nil => cases h; exact ⟨.refl, hc⟩
  | cons p l ih =>
    obtain ⟨ch, ds⟩ := p
    simp only [play] at h
    cases hch : S.choose cond c ds ch with
    | none => simp [hch] at h
    | some c₁ =>
      obtain ⟨hrun, hidle⟩ := run_of_choose hc hch
      obtain ⟨hrun', hidle'⟩ := ih hidle (by simpa [hch] using h)
      exact ⟨hrun.trans hrun', hidle'⟩

/-- A run to a configuration with a property, found by playing. -/
theorem exists_run_of_play {c : Config σ F E T} {l : List (Choice T O × List Bool)}
    {p : Config σ F E T → Bool} (hc : c.running = none)
    (h : (S.play cond c l).any p = true) :
    ∃ c', S.Run cond c c' ∧ c'.running = none ∧ p c' = true := by
  obtain ⟨c', hplay, hp⟩ := (Option.any_eq_true _ _).mp h
  obtain ⟨hrun, hidle⟩ := run_of_play hc hplay
  exact ⟨c', hrun, hidle, hp⟩

theorem step_of_tick {c c' : Config σ F E T} (h : S.tick cond c = some c') :
    S.Step cond c c' := by
  unfold tick at h
  split at h
  · cases h
  · cases h
    exact .finish c _ ‹_›
  · cases h
    exact .fail c _ _ ‹_›
  · cases h
    exact .get c _ _ ‹_›
  · cases h
    exact .modify c _ _ _ ‹_›
  · split at h
    · cases h
      exact .mark c _ _ _ ‹_› ‹_›
    · cases h
  · cases h
    exact .pass c _ _ _ ‹_›

theorem steps_of_ticks {p : σ → σ → Bool} {n : Nat} {c c' : Config σ F E T}
    (h : S.ticks cond p n c = some c') :
    Relation.ReflTransGen (fun c c' => S.Step cond c c' ∧ p c.state c'.state = true) c c' := by
  induction n generalizing c with
  | zero =>
    cases h
    exact .refl
  | succ n ih =>
    simp only [ticks] at h
    cases htick : S.tick cond c with
    | none => simp [htick] at h
    | some c₁ =>
      rw [htick, Option.elim_some] at h
      split at h
      · exact .head ⟨step_of_tick htick, ‹_›⟩ (ih h)
      · cases h

/-- A step with a property, found by playing and then calling. -/
theorem exists_step_of_play {c : Config σ F E T} {l : List (Choice T O × List Bool)} {o : O}
    {n : Nat} {p : Config σ F E T → Config σ F E T → Bool} (hc : c.running = none)
    (h : (S.play cond c l).any (fun c' =>
      (S.ticks cond (fun _ _ => true) n { c' with running := some (none, S.call o) }).any fun c₁ =>
        (S.tick cond c₁).any (p c₁)) = true) :
    ∃ c₁ c₂, S.Run cond c c₁ ∧ S.Step cond c₁ c₂ ∧ p c₁ c₂ = true := by
  obtain ⟨c', hplay, hticks⟩ := (Option.any_eq_true _ _).mp h
  obtain ⟨c₁, hrun, htick⟩ := (Option.any_eq_true _ _).mp hticks
  obtain ⟨c₂, hstep, hp⟩ := (Option.any_eq_true _ _).mp htick
  obtain ⟨hto, hidle⟩ := run_of_play hc hplay
  exact ⟨c₁, c₂, (hto.tail (.call c' o hidle)).trans
    (Relation.ReflTransGen.mono (fun _ _ h => h.1) _ _ (steps_of_ticks hrun)),
    step_of_tick hstep, hp⟩

end Playing

end Loop
