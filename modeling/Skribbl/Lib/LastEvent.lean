import Mathlib.Data.List.Induction

/-!
# The last event that matters

Some events of a run make a property of the state true, others make it false, and all others leave
it.

* `Change` — what an event does to a list whose entries have keys.

Principal results: `holds_iff_last` — then the property holds after a run exactly if one of the
first kind comes in it and none of the second kind behind; `mem_iff_last`, `nodup_run` — so an entry
is in such a list exactly if it has been put there and not been removed since, and no two have one
key.
-/

set_option autoImplicit false

namespace LastEvent

variable {σ ε : Type}

/-- What the events do to a property of the state. -/
structure Switches (step : σ → ε → σ) (holds : σ → Prop) (sets clears : ε → Prop) : Prop where
  set : ∀ s e, sets e → holds (step s e)
  clear : ∀ s e, clears e → ¬holds (step s e)
  keep : ∀ s e, ¬sets e → ¬clears e → (holds (step s e) ↔ holds s)

/-- An event of the first kind comes, and none of the second kind behind. -/
def LastSets (sets clears : ε → Prop) (es : List ε) : Prop :=
  ∃ es₁ e es₂, es = es₁ ++ e :: es₂ ∧ sets e ∧ ∀ e' ∈ es₂, ¬clears e'

variable {step : σ → ε → σ} {holds : σ → Prop} {sets clears : ε → Prop} {es : List ε} {e : ε}

theorem lastSets_concat_set (h : sets e) : LastSets sets clears (es ++ [e]) :=
  ⟨es, e, [], rfl, h, fun _ he => absurd he List.not_mem_nil⟩

theorem lastSets_concat_iff (h : ¬sets e) :
    LastSets sets clears (es ++ [e]) ↔ LastSets sets clears es ∧ ¬clears e := by
  constructor
  · rintro ⟨es₁, e₁, es₂, heq, hsets, hquiet⟩
    rcases List.eq_nil_or_concat es₂ with rfl | ⟨es₃, e', rfl⟩
    · obtain ⟨-, hlast⟩ := List.append_inj' heq rfl
      rw [(List.cons.inj hlast).1] at h
      exact absurd hsets h
    · rw [List.concat_eq_append] at heq hquiet
      rw [← List.cons_append, ← List.append_assoc] at heq
      obtain ⟨hes, hlast⟩ := List.append_inj' heq rfl
      rw [(List.cons.inj hlast).1]
      exact ⟨⟨es₁, e₁, es₃, hes, hsets, fun e he => hquiet e (List.mem_append_left _ he)⟩,
        hquiet e' (List.mem_append_right _ List.mem_cons_self)⟩
  · rintro ⟨⟨es₁, e₁, es₂, rfl, hsets, hquiet⟩, hclears⟩
    refine ⟨es₁, e₁, es₂ ++ [e], by rw [List.append_assoc, List.cons_append], hsets,
      fun e' he => ?_⟩
    rcases List.mem_append.mp he with he | he
    · exact hquiet e' he
    · rwa [List.mem_singleton.mp he]

/-- **The last event that matters decides.** -/
theorem holds_iff_last (h : Switches step holds sets clears) {s : σ} (hs : ¬holds s) (es : List ε) :
    holds (es.foldl step s) ↔ LastSets sets clears es := by
  induction es using List.reverseRecOn with
  | nil =>
    refine iff_of_false hs ?_
    rintro ⟨es₁, e, es₂, heq, -⟩
    exact absurd heq.symm (List.append_ne_nil_of_right_ne_nil _ (List.cons_ne_nil _ _))
  | append_singleton es e ih =>
    rw [List.foldl_append, List.foldl_cons, List.foldl_nil]
    by_cases hsets : sets e
    · exact iff_of_true (h.set _ e hsets) (lastSets_concat_set hsets)
    · rw [lastSets_concat_iff hsets]
      by_cases hclears : clears e
      · exact iff_of_false (h.clear _ e hclears) fun hlast => hlast.2 hclears
      · rw [h.keep _ e hsets hclears, ih]
        exact (and_iff_left hclears).symm

/-! ## Lists with keys -/

/-- What an event does to such a list. -/
inductive Change (K R : Type) where
  /-- In place of the entry with its key, the new one is the last. -/
  | put (r : R)
  | drop (k : K)
  | clear
  | keep

namespace Change

variable {K R : Type}

/-- The change removes the entry. -/
def Removes (key : R → K) (r : R) : Change K R → Prop
  | .put r' => key r' = key r ∧ r' ≠ r
  | .drop k => k = key r
  | .clear => True
  | .keep => False

variable [DecidableEq K]

/-- The list after a change. -/
def on (key : R → K) (l : List R) : Change K R → List R
  | .put r => l.filter (fun x => key x ≠ key r) ++ [r]
  | .drop k => l.filter (fun x => key x ≠ k)
  | .clear => []
  | .keep => l

variable (key : R → K)

theorem mem_on_put {l : List R} {r r' : R} :
    r ∈ (put (K := K) r').on key l ↔ r ∈ l ∧ key r ≠ key r' ∨ r = r' := by
  simp [on]

theorem switches (f : ε → Change K R) (r : R) :
    Switches (fun l e => (f e).on key l) (r ∈ ·) (fun e => f e = .put r)
      (fun e => (f e).Removes key r) where
  set l e h := by
    rw [h, mem_on_put]
    exact .inr rfl
  clear l e h hmem := by
    cases hf : f e with
    | put r' =>
      rw [hf] at h hmem
      rcases (mem_on_put key).mp hmem with ⟨-, hne⟩ | rfl
      · exact hne h.1.symm
      · exact h.2 rfl
    | drop k =>
      rw [hf] at h hmem
      obtain ⟨-, hne⟩ := List.mem_filter.mp hmem
      exact of_decide_eq_true hne h.symm
    | clear =>
      rw [hf] at hmem
      exact List.not_mem_nil hmem
    | keep =>
      rw [hf] at h
      exact h
  keep l e hset hclear := by
    cases hf : f e with
    | put r' =>
      rw [hf] at hset hclear
      have hne : r' ≠ r := fun h => hset (h ▸ rfl)
      rw [mem_on_put, or_iff_left fun h => hne h.symm]
      exact and_iff_left fun h => hclear ⟨h.symm, hne⟩
    | drop k =>
      rw [hf] at hclear
      refine List.mem_filter.trans (and_iff_left ?_)
      exact decide_eq_true fun h => hclear h.symm
    | clear =>
      rw [hf] at hclear
      exact absurd trivial hclear
    | keep => exact Iff.rfl

/-- **An entry is in the list exactly if it has been put there and not been removed since.** -/
theorem mem_iff_last (f : ε → Change K R) (r : R) (es : List ε) :
    r ∈ es.foldl (fun l e => (f e).on key l) [] ↔
      LastSets (fun e => f e = .put r) (fun e => (f e).Removes key r) es :=
  holds_iff_last (switches key f r) List.not_mem_nil es

theorem nodup_on {l : List R} (h : (l.map key).Nodup) (c : Change K R) :
    ((c.on key l).map key).Nodup := by
  have hfilter : ∀ p : R → Bool, ((l.filter p).map key).Nodup := fun p =>
    h.sublist (List.filter_sublist.map key)
  cases c with
  | put r =>
    unfold on
    rw [List.map_append, List.nodup_append]
    refine ⟨hfilter _, List.pairwise_singleton _ _, fun k hk k' hk' => ?_⟩
    obtain ⟨r', hr', rfl⟩ := List.mem_map.mp hk
    rw [List.mem_singleton.mp hk']
    exact of_decide_eq_true (List.mem_filter.mp hr').2
  | drop k => exact hfilter _
  | clear => exact List.nodup_nil
  | keep => exact h

/-- **No two entries have one key.** -/
theorem nodup_run (f : ε → Change K R) (es : List ε) :
    ((es.foldl (fun l e => (f e).on key l) []).map key).Nodup := by
  induction es using List.reverseRecOn with
  | nil => exact List.nodup_nil
  | append_singleton es e ih =>
    rw [List.foldl_append]
    exact nodup_on key ih (f e)

end Change

end LastEvent
