import Mathlib.Logic.Function.Basic
import Mathlib.Data.List.Basic
import Mathlib.Data.List.Induction

/-!
# A cache with a time to live

Lookups of many callers share a cache in front of a store that changes behind it.  A lookup that
misses reads the store and then enters the value under the time of entry; only values are entered,
never that there is none.

* `Source` — the store: what it holds at a time, and how it changes.
* `State` — the store, the cache and the lookups; `State.step` — one atomic step of one of
  them.
* `State.Prompt` — a value is entered at most `delay` after it was read.
* `State.Calm` — nothing is entered under a key whose entry is about to be removed.

Principal results: `recent` — a value that a lookup returns was in the store at most the time to
live and the delay before; `answers_prune` — to remove entries that were too old changes no answer,
if nothing is entered meanwhile.
-/

set_option autoImplicit false

namespace TimedCache

variable {S W K V : Type}

/-- A store with keys `K` and values `V`: `read` is what it holds at a time, `write` how it changes
then. -/
structure Source (S W K V : Type) where
  read : S → Nat → K → Option V
  write : Nat → W → S → S

/-- A value with the time at which it was entered. -/
structure Entry (V : Type) where
  value : V
  fetchedAt : Nat

/-- How far a lookup has come. -/
inductive Lookup (K V : Type) where
  | idle
  /-- The cache has no entry, or an old one. -/
  | missed (k : K)
  /-- The store has been read. -/
  | fetched (k : K) (v : V) (readAt : Nat)

/-- The store at a time, the cache, and the lookups by their callers; `pruning` is the key whose
entry was found too old and is removed next. -/
structure State (S K V : Type) where
  now : Nat := 0
  store : S
  cache : K → Option (Entry V) := fun _ => none
  lookup : Nat → Lookup K V := fun _ => .idle
  pruning : Option K := none

/-- One step. -/
inductive CacheEvent (W K : Type) where
  | tick (d : Nat)
  | write (x : W)
  /-- A lookup begins, and reads the cache. -/
  | begin (j : Nat) (k : K)
  /-- It reads the store. -/
  | fetch (j : Nat)
  /-- It enters what it has read. -/
  | enter (j : Nat)
  | evict (k : K)
  /-- The entry of a key is looked at, to be removed if it is too old. -/
  | prune (k : K)
  /-- What is under that key then is removed. -/
  | remove

namespace State

variable [DecidableEq K] (src : Source S W K V) (ttl keep : Nat)

/-- The value of an entry that is not too old. -/
def hit (s : State S K V) (k : K) : Option V :=
  (s.cache k).bind fun e => if s.now < e.fetchedAt + ttl then some e.value else none

/-- One step, with what a lookup returns then: a key and what is found under it. -/
def step (s : State S K V) : CacheEvent W K → State S K V × Option (K × Option V)
  | .tick d => ({ s with now := s.now + d }, none)
  | .write x => ({ s with store := src.write s.now x s.store }, none)
  | .begin j k =>
    match s.lookup j with
    | .idle =>
      match s.hit ttl k with
      | some v => (s, some (k, some v))
      | none => ({ s with lookup := Function.update s.lookup j (.missed k) }, none)
    | _ => (s, none)
  | .fetch j =>
    match s.lookup j with
    | .missed k =>
      match src.read s.store s.now k with
      | some v => ({ s with lookup := Function.update s.lookup j (.fetched k v s.now) }, none)
      | none => ({ s with lookup := Function.update s.lookup j .idle }, some (k, none))
    | _ => (s, none)
  | .enter j =>
    match s.lookup j with
    | .fetched k v _ =>
      ({ s with
          cache := Function.update s.cache k (some ⟨v, s.now⟩)
          lookup := Function.update s.lookup j .idle }, some (k, some v))
    | _ => (s, none)
  | .evict k => ({ s with cache := Function.update s.cache k none }, none)
  | .prune k =>
    if s.pruning.isNone && (s.cache k).any fun e => e.fetchedAt + keep < s.now then
      ({ s with pruning := some k }, none)
    else (s, none)
  | .remove =>
    match s.pruning with
    | some k => ({ s with cache := Function.update s.cache k none, pruning := none }, none)
    | none => (s, none)

def run (s : State S K V) (es : List (CacheEvent W K)) : State S K V :=
  es.foldl (fun s e => (s.step src ttl keep e).1) s

/-- What the lookups of a run return. -/
def answers (s : State S K V) : List (CacheEvent W K) → List (K × Option V)
  | [] => []
  | e :: es => (s.step src ttl keep e).2.toList ++ answers (s.step src ttl keep e).1 es

/-- A value is entered at most `delay` after it was read. -/
def Prompt (delay : Nat) (s : State S K V) : CacheEvent W K → Prop
  | .enter j => ∀ k v t, s.lookup j = .fetched k v t → s.now ≤ t + delay
  | _ => True

/-- So it is in a run. -/
def AllPrompt (delay : Nat) (s : State S K V) : List (CacheEvent W K) → Prop
  | [] => True
  | e :: es => s.Prompt delay e ∧ (s.step src ttl keep e).1.AllPrompt delay es

/-- Nothing is entered under the key whose entry is removed next. -/
def Calm (s : State S K V) : CacheEvent W K → Prop
  | .enter j => ∀ k v t, s.lookup j = .fetched k v t → s.pruning ≠ some k
  | _ => True

/-- So it is in a run. -/
def AllCalm (s : State S K V) : List (CacheEvent W K) → Prop
  | [] => True
  | e :: es => s.Calm e ∧ (s.step src ttl keep e).1.AllCalm es

variable {src ttl keep} {delay : Nat} {s : State S K V} {e : CacheEvent W K}
  {es : List (CacheEvent W K)} {H H' : K → V → Nat → Prop}

/-- Only writes change the store. -/
theorem step_store (s : State S K V) (e : CacheEvent W K) :
    (s.step src ttl keep e).1.store = s.store ∨
      ∃ x, e = .write x ∧ (s.step src ttl keep e).1.store = src.write s.now x s.store := by
  cases e with
  | write x => exact .inr ⟨x, rfl, rfl⟩
  | tick d => exact .inl rfl
  | evict k => exact .inl rfl
  | begin j k | fetch j =>
    left
    unfold State.step
    dsimp only
    split
    · split <;> rfl
    · rfl
  | enter j | prune k | remove =>
    left
    unfold State.step
    dsimp only
    split <;> rfl

/-! ## Where the values come from -/

/-- The entries and the lookups have values that were in the store, as `H` tells, and the entries
are not much younger. -/
structure Sound (delay : Nat) (H : K → V → Nat → Prop) (s : State S K V) : Prop where
  entry : ∀ k e, s.cache k = some e → ∃ t, H k e.value t ∧ e.fetchedAt ≤ t + delay
  fetched : ∀ j k v t, s.lookup j = .fetched k v t → H k v t

/-- An entry is removed. -/
theorem Sound.remove (h : s.Sound delay H) (k : K) :
    ({ s with cache := Function.update s.cache k none } : State S K V).Sound delay H := by
  refine ⟨fun k' e he => ?_, h.fetched⟩
  by_cases hk : k' = k
  · rw [hk] at he
    exact absurd ((Function.update_self k _ s.cache).symm.trans he) (fun hne => nomatch hne)
  · exact h.entry k' e ((Function.update_of_ne hk _ s.cache).symm.trans he)

omit [DecidableEq K] in
/-- A lookup goes on. -/
theorem Sound.lookup (h : s.Sound delay H) {j : Nat} {x : Lookup K V}
    (hx : ∀ k v t, x = .fetched k v t → H k v t) :
    ({ s with lookup := Function.update s.lookup j x } : State S K V).Sound delay H := by
  refine ⟨h.entry, fun j' k v t hj => ?_⟩
  by_cases hjj : j' = j
  · rw [hjj] at hj
    exact hx k v t ((Function.update_self j x s.lookup).symm.trans hj)
  · exact h.fetched j' k v t ((Function.update_of_ne hjj x s.lookup).symm.trans hj)

/-- A value is entered. -/
theorem Sound.enter (h : s.Sound delay H) {k : K} {v : V} {t at' : Nat} (hv : H k v t)
    (hat : at' ≤ t + delay) :
    ({ s with cache := Function.update s.cache k (some ⟨v, at'⟩) } : State S K V).Sound
    delay H := by
  refine ⟨fun k' e he => ?_, h.fetched⟩
  by_cases hk : k' = k
  · subst hk
    obtain rfl := Option.some.inj ((Function.update_self k' _ s.cache).symm.trans he)
    exact ⟨t, hv, hat⟩
  · exact h.entry k' e ((Function.update_of_ne hk _ s.cache).symm.trans he)

omit [DecidableEq K] in
theorem Sound.mono (h : s.Sound delay H) (hmono : ∀ k v t, H k v t → H' k v t) : s.Sound delay H' :=
  ⟨fun k e he => (h.entry k e he).imp fun _ ht => ⟨hmono _ _ _ ht.1, ht.2⟩,
    fun j k v t hj => hmono _ _ _ (h.fetched j k v t hj)⟩

/-- **One step keeps it.** -/
theorem Sound.step (h : s.Sound delay H) (hprompt : s.Prompt delay e)
    (hread : ∀ k v, src.read s.store s.now k = some v → H k v s.now) :
    (s.step src ttl keep e).1.Sound delay H := by
  cases e with
  | tick d => exact ⟨h.entry, h.fetched⟩
  | write x => exact ⟨h.entry, h.fetched⟩
  | begin j k =>
    unfold State.step
    dsimp only
    split
    · split
      · exact h
      · exact h.lookup fun _ _ _ hx => nomatch hx
    · exact h
  | fetch j =>
    unfold State.step
    dsimp only
    split
    · split
      · rename_i k _ _ v hv
        refine h.lookup fun k' v' t' hx => ?_
        cases hx
        exact hread k v hv
      · exact h.lookup fun _ _ _ hx => nomatch hx
    · exact h
  | enter j =>
    unfold State.step
    dsimp only
    split
    · rename_i k v t hj
      exact (h.enter (h.fetched j k v t hj) (hprompt k v t hj)).lookup fun _ _ _ hx => nomatch hx
    · exact h
  | evict k => exact h.remove k
  | prune k =>
    unfold State.step
    dsimp only
    split
    · exact ⟨h.entry, h.fetched⟩
    · exact h
  | remove =>
    unfold State.step
    dsimp only
    split
    · exact ⟨(h.remove _).entry, h.fetched⟩
    · exact h

/-- What a lookup returns was in the store. -/
theorem Sound.answer (h : s.Sound delay H) (hprompt : s.Prompt delay e) {k : K} {v : V}
    (hanswer : (s.step src ttl keep e).2 = some (k, some v)) :
    ∃ t, H k v t ∧ s.now ≤ t + ttl + delay := by
  cases e with
  | begin j k' =>
    unfold State.step at hanswer
    dsimp only at hanswer
    split at hanswer
    · split at hanswer
      · rename_i v' hhit
        cases hanswer
        obtain ⟨e, he, hv⟩ := Option.bind_eq_some_iff.mp hhit
        obtain ⟨t, ht, hle⟩ := h.entry k e he
        split at hv
        · cases hv
          exact ⟨t, ht, by omega⟩
        · cases hv
      · cases hanswer
    · cases hanswer
  | fetch j =>
    unfold State.step at hanswer
    dsimp only at hanswer
    split at hanswer
    · split at hanswer <;> cases hanswer
    · cases hanswer
  | enter j =>
    unfold State.step at hanswer
    dsimp only at hanswer
    split at hanswer
    · rename_i k' v' t hj
      cases hanswer
      have hle := hprompt k v t hj
      exact ⟨t, h.fetched j k v t hj, by omega⟩
    · cases hanswer
  | prune k' | remove =>
    unfold State.step at hanswer
    dsimp only at hanswer
    split at hanswer <;> cases hanswer
  | tick d => cases hanswer
  | write x => cases hanswer
  | evict k' => cases hanswer

/-! ## Runs -/

/-- The value was in the store at the time, in a run. -/
def WasHeld (src : Source S W K V) (ttl keep : Nat) (s : State S K V) (es :
    List (CacheEvent W K)) (k : K)
    (v : V) (t : Nat) : Prop :=
  ∃ es₁, es₁ <+: es ∧ (s.run src ttl keep es₁).now = t ∧
    src.read (s.run src ttl keep es₁).store t k = some v

theorem run_concat (s : State S K V) (es : List (CacheEvent W K)) (e : CacheEvent W K) :
    s.run src ttl keep (es ++ [e]) = ((s.run src ttl keep es).step src ttl keep e).1 :=
  List.foldl_concat ..

theorem run_append (s : State S K V) (es es' : List (CacheEvent W K)) :
    s.run src ttl keep (es ++ es') = (s.run src ttl keep es).run src ttl keep es' :=
  List.foldl_append ..

/-- Time does not go back. -/
theorem now_le_step (s : State S K V) (e : CacheEvent W K) : s.now ≤
    (s.step src ttl keep e).1.now := by
  cases e with
  | tick d => exact Nat.le_add_right s.now d
  | write x => exact Nat.le_refl _
  | evict k => exact Nat.le_refl _
  | begin j k | fetch j =>
    unfold State.step
    dsimp only
    split
    · split <;> exact Nat.le_refl _
    · exact Nat.le_refl _
  | enter j | prune k | remove =>
    unfold State.step
    dsimp only
    split <;> exact Nat.le_refl _

theorem now_le_run (s : State S K V) (es : List (CacheEvent W K)) : s.now ≤
    (s.run src ttl keep es).now := by
  induction es generalizing s with
  | nil => exact Nat.le_refl _
  | cons e es ih => exact Nat.le_trans (s.now_le_step e) (ih _)

theorem now_le_of_prefix {es es' : List (CacheEvent W K)} (h : es <+: es') (s : State S K V) :
    (s.run src ttl keep es).now ≤ (s.run src ttl keep es').now := by
  obtain ⟨es₁, rfl⟩ := h
  rw [run_append]
  exact now_le_run _ es₁

theorem allPrompt_concat : s.AllPrompt src ttl keep delay (es ++ [e]) ↔
    s.AllPrompt src ttl keep delay es ∧ (s.run src ttl keep es).Prompt delay e := by
  induction es generalizing s with
  | nil => exact ⟨fun h => ⟨trivial, h.1⟩, fun h => ⟨h.2, trivial⟩⟩
  | cons e' es ih => exact (and_congr_right fun _ => ih).trans and_assoc.symm

theorem Sound.run (h : s.Sound delay fun _ _ _ => False)
    (hprompt : s.AllPrompt src ttl keep delay es) :
    (s.run src ttl keep es).Sound delay (s.WasHeld src ttl keep es) := by
  induction es using List.reverseRecOn with
  | nil => exact h.mono fun _ _ _ hfalse => hfalse.elim
  | append_singleton es e ih =>
    obtain ⟨hes, he⟩ := allPrompt_concat.mp hprompt
    rw [run_concat]
    refine ((ih hes).step he fun k v hv => ?_).mono fun k v t hheld => ?_
    · exact ⟨es, List.prefix_refl es, rfl, hv⟩
    · obtain ⟨es₁, hle, hnow, hv⟩ := hheld
      exact ⟨es₁, hle.trans (List.prefix_append es [e]), hnow, hv⟩

/-- **What a lookup returns was in the store** at most the time to live and the delay before,
however lookups, changes of the store and removals are interleaved. -/
theorem recent (h : s.Sound delay fun _ _ _ => False)
    (hprompt : s.AllPrompt src ttl keep delay (es ++ [e])) {k : K} {v : V}
    (hanswer : ((s.run src ttl keep es).step src ttl keep e).2 = some (k, some v)) :
    ∃ t, s.WasHeld src ttl keep es k v t ∧ (s.run src ttl keep es).now ≤ t + ttl + delay := by
  obtain ⟨hes, he⟩ := allPrompt_concat.mp hprompt
  exact (h.run hes).answer he hanswer

/-! ## Removals -/

/-- Two caches give the same answers: one may lack entries that are too old in the other, and what
it removes next is too old there. -/
structure Agrees (ttl : Nat) (s s' : State S K V) : Prop where
  now : s.now = s'.now
  store : s.store = s'.store
  lookup : s.lookup = s'.lookup
  cache : ∀ k, s.cache k = s'.cache k ∨
    s.cache k = none ∧ ∀ e, s'.cache k = some e → e.fetchedAt + ttl ≤ s.now
  pruning : ∀ k, s.pruning = some k → ∀ e, s'.cache k = some e → e.fetchedAt + ttl ≤ s.now

variable {s' : State S K V}

omit [DecidableEq K] in
theorem Agrees.hit (h : s.Agrees ttl s') (k : K) : s.hit ttl k = s'.hit ttl k := by
  unfold State.hit
  rcases h.cache k with hk | ⟨hk, hold⟩
  · rw [hk, h.now]
  · rw [hk, Option.bind_none]
    cases he : s'.cache k with
    | none => rfl
    | some e =>
      have hle := hold e he
      rw [Option.bind_some, if_neg (by rw [← h.now]; omega)]

omit [DecidableEq K] in
/-- A lookup goes on. -/
theorem Agrees.goOn (h : s.Agrees ttl s') {l l' : Nat → Lookup K V} (hl : l = l') :
    ({ s with lookup := l } : State S K V).Agrees ttl { s' with lookup := l' } :=
  ⟨h.now, h.store, hl, h.cache, h.pruning⟩

/-- The same is entered or removed. -/
theorem Agrees.update (h : s.Agrees ttl s') (k : K) (x : Option (Entry V))
    (hx : s.pruning = some k → x = none) :
    ({ s with cache := Function.update s.cache k x } : State S K V).Agrees ttl
      { s' with cache := Function.update s'.cache k x } := by
  refine ⟨h.now, h.store, h.lookup, fun k' => ?_, fun k' hk' e he => ?_⟩
  · by_cases hk : k' = k
    · subst hk
      left
      simp only [Function.update_self]
    · simp only [Function.update_of_ne hk]
      exact h.cache k'
  · by_cases hk : k' = k
    · subst hk
      rw [hx hk'] at he
      exact absurd ((Function.update_self ..).symm.trans he) (fun hne => nomatch hne)
    · exact h.pruning k' hk' e ((Function.update_of_ne hk ..).symm.trans he)

variable (src) in
/-- What is too old to keep is too old to be used. -/
theorem Agrees.prune (h : s.Agrees ttl s') (hkeep : ttl ≤ keep) (k : K) :
    (s.step src ttl keep (.prune k)).1.Agrees ttl s' ∧
      (s.step src ttl keep (.prune k)).2 = none := by
  unfold State.step
  dsimp only
  split
  · rename_i hold
    refine ⟨⟨h.now, h.store, h.lookup, h.cache, fun k' hk' e he => ?_⟩, rfl⟩
    cases hk'
    rcases h.cache k with hsame | ⟨-, hle⟩
    · rw [hsame, he, Bool.and_eq_true] at hold
      have hlt : e.fetchedAt + keep < s.now := by simpa using hold.2
      show e.fetchedAt + ttl ≤ s.now
      omega
    · exact hle e he
  · exact ⟨h, rfl⟩

variable (src keep) in
/-- So the entry may be removed. -/
theorem Agrees.remove (h : s.Agrees ttl s') :
    (s.step src ttl keep .remove).1.Agrees ttl s' ∧ (s.step src ttl keep .remove).2 = none := by
  unfold State.step
  dsimp only
  split
  · rename_i k hk
    refine ⟨⟨h.now, h.store, h.lookup, fun k' => ?_, fun _ hnone => (nomatch hnone)⟩, rfl⟩
    by_cases hne : k' = k
    · subst hne
      exact .inr ⟨Function.update_self .., h.pruning k' hk⟩
    · simp only [Function.update_of_ne hne]
      exact h.cache k'
  · exact ⟨h, rfl⟩

variable (src keep) in
/-- Any other step does the same. -/
theorem Agrees.step (h : s.Agrees ttl s') (hcalm : s.Calm e) (he : ∀ k, e ≠ .prune k)
    (hremove : e ≠ .remove) :
    (s.step src ttl keep e).1.Agrees ttl (s'.step src ttl keep e).1 ∧
      (s.step src ttl keep e).2 = (s'.step src ttl keep e).2 := by
  have hhit := h.hit
  cases e with
  | tick d =>
    refine ⟨⟨congrArg (· + d) h.now, h.store, h.lookup, fun k => ?_, fun k hk e he => ?_⟩, rfl⟩
    · refine (h.cache k).imp_right fun ⟨hk, hold⟩ => ⟨hk, fun e he => ?_⟩
      exact Nat.le_trans (hold e he) (Nat.le_add_right s.now d)
    · exact Nat.le_trans (h.pruning k hk e he) (Nat.le_add_right s.now d)
  | write x =>
    refine ⟨⟨h.now, ?_, h.lookup, h.cache, h.pruning⟩, rfl⟩
    change src.write s.now x s.store = src.write s'.now x s'.store
    rw [h.now, h.store]
  | begin j k =>
    unfold State.step
    dsimp only
    rw [hhit k, ← h.lookup]
    cases s.lookup j with
    | idle =>
      dsimp only
      cases State.hit ttl s' k with
      | some v => exact ⟨h, rfl⟩
      | none => exact ⟨h.goOn rfl, rfl⟩
    | missed k' => exact ⟨h, rfl⟩
    | fetched k' v t => exact ⟨h, rfl⟩
  | fetch j =>
    have hread : ∀ k, src.read s'.store s'.now k = src.read s.store s.now k := fun k => by
      rw [h.now, h.store]
    unfold State.step
    dsimp only
    rw [← h.lookup]
    cases s.lookup j with
    | missed k =>
      dsimp only
      rw [hread]
      cases src.read s.store s.now k with
      | some v => exact ⟨h.goOn (by rw [h.now]), rfl⟩
      | none => exact ⟨h.goOn rfl, rfl⟩
    | idle => exact ⟨h, rfl⟩
    | fetched k' v t => exact ⟨h, rfl⟩
  | enter j =>
    unfold State.step
    dsimp only
    rw [← h.lookup]
    cases hj : s.lookup j with
    | fetched k v t =>
      have hentered := h.update k (some ⟨v, s.now⟩) fun hk => absurd hk (hcalm k v t hj)
      rw [h.now] at hentered ⊢
      exact ⟨hentered.goOn rfl, rfl⟩
    | idle => exact ⟨h, rfl⟩
    | missed k => exact ⟨h, rfl⟩
  | evict k => exact ⟨h.update k none fun _ => rfl, rfl⟩
  | prune k => exact absurd rfl (he k)
  | remove => exact absurd rfl hremove

end State

/-- The step is one of the removals of old entries. -/
def CacheEvent.isPrune : CacheEvent W K → Bool
  | .prune _ => true
  | .remove => true
  | _ => false

namespace State

variable [DecidableEq K] {src : Source S W K V} {ttl keep : Nat} {s s' : State S K V}

theorem Agrees.answers (h : s.Agrees ttl s') (hkeep : ttl ≤ keep) {es : List (CacheEvent W K)}
    (hcalm : s.AllCalm src ttl keep es) :
    s.answers src ttl keep es = s'.answers src ttl keep (es.filter fun e => !e.isPrune) := by
  induction es generalizing s s' with
  | nil => rfl
  | cons e es ih =>
    obtain ⟨hcalm, hrest⟩ := hcalm
    cases he : e.isPrune with
    | true =>
      rw [List.filter_cons_of_neg (by rw [he]; exact Bool.noConfusion)]
      have hquiet : (s.step src ttl keep e).1.Agrees ttl s' ∧ (s.step src ttl keep e).2 = none := by
        cases e with
        | prune k => exact h.prune src hkeep k
        | remove => exact h.remove src keep
        | _ => cases he
      rw [State.answers, hquiet.2, ih hquiet.1 hrest]
      rfl
    | false =>
      rw [List.filter_cons_of_pos (by rw [he]; rfl)]
      obtain ⟨hagrees, hsame⟩ := h.step src keep hcalm
        (fun k hk => by rw [hk] at he; cases he) (fun hk => by rw [hk] at he; cases he)
      rw [State.answers, State.answers, hsame, ih hagrees hrest]

/-- **To remove entries that are too old changes no answer**, if nothing is entered under a key
whose entry is about to be removed. -/
theorem answers_prune (hkeep : ttl ≤ keep) {s : State S K V} (hs : s.pruning = none)
    {es : List (CacheEvent W K)} (hcalm : s.AllCalm src ttl keep es) :
    s.answers src ttl keep es = s.answers src ttl keep (es.filter fun e => !e.isPrune) :=
  Agrees.answers ⟨rfl, rfl, rfl, fun _ => .inl rfl, fun _ hk => nomatch hs.symm.trans hk⟩
      hkeep hcalm

end State

end TimedCache
