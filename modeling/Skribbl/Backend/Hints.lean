import Mathlib.Logic.Relation
import Skribbl.Lib.Execution
import Skribbl.Backend.Worker

/-!
# Hints (`backend/game_engine.py`)

* `Reveals` — a call of `reveal_hint_char`, for some random choice.
* `Hinted` — the hints of a word after any number of calls.
* `FairHints` — what the hints of a word are to show, and to keep hidden.

Principal result: `fairHints_iff` — the hints of a word are fair exactly if the word has no
underscore.
-/

set_option autoImplicit false

namespace Skribbl.Backend

/-- The places of a hint that show an underscore. -/
def unrevealed (hint : List Char) : List Nat :=
  (List.range hint.length).filter fun i => hint[i]? = some '_'

/-- The places of a hint that show an underscore where the word has another character. -/
def hidden (word : String) (hint : List Char) : List Nat :=
  (unrevealed hint).filter fun i => word.toList[i]? ≠ some '_'

/-- `reveal_hint_char` may return `hint'`. -/
def Reveals (word : String) (hint hint' : List Char) : Prop :=
  ∃ w : World, ((revealHintChar hint word).exec w).1 = .ok hint'

/-- The hint comes of some calls. -/
def Hinted (word : String) : List Char → Prop :=
  Relation.ReflTransGen (Reveals word) (generateInitialHint word)

/-- What a hint shows of its word. -/
structure Shows (word : String) (hint : List Char) : Prop where
  length : hint.length = word.toList.length
  spaces : ∀ i : Nat, hint[i]? = some ' ' ↔ word.toList[i]? = some ' '
  shown : ∀ i : Nat, hint[i]? = some '_' ∨ hint[i]? = word.toList[i]?

/-- The hints of a word show its length, its spaces and characters of it, and never all of them;
a call keeps what is shown and reveals one character more, if two are hidden. -/
structure FairHints (word : String) : Prop where
  shows : ∀ hint, Hinted word hint → Shows word hint
  hides : ∀ hint, Hinted word hint → hidden word hint ≠ []
  keeps : ∀ hint hint', Hinted word hint → Reveals word hint hint' →
    ∀ i : Nat, hint[i]? ≠ some '_' → hint'[i]? = hint[i]?
  reveals : ∀ hint hint', Hinted word hint → Reveals word hint hint' →
    2 ≤ (hidden word hint).length → (hidden word hint').length + 1 = (hidden word hint).length

variable {word : String} {hint hint' : List Char}

theorem mem_unrevealed {i : Nat} : i ∈ unrevealed hint ↔ hint[i]? = some '_' := by
  rw [unrevealed, List.mem_filter, List.mem_range, decide_eq_true_eq]
  exact and_iff_right_of_imp fun h => (List.getElem?_eq_some_iff.mp h).1

theorem mem_hidden {i : Nat} :
    i ∈ hidden word hint ↔ hint[i]? = some '_' ∧ word.toList[i]? ≠ some '_' := by
  rw [hidden, List.mem_filter, mem_unrevealed, decide_eq_true_eq]

theorem nodup_hidden : (hidden word hint).Nodup :=
  (List.nodup_range.filter _).filter _

/-- A random choice is the element that the next random number stands for. -/
theorem exec_choice {α β : Type} {l : List α} {w : World} {a : α} (f : α → M β)
    (h : l[w.oracle.headD 0 % l.length]? = some a) :
    ((choice l >>= f).exec w).1 = ((f a).exec ((Update.oracle w.oracle.tail).apply w)).1 := by
  change ((l[w.oracle.headD 0 % l.length]?.elim (raise "IndexError") fun a => return a : M α).bind
    f |>.exec ((Update.oracle w.oracle.tail).apply w)).1 = _
  rw [h]
  rfl

/-- **What a call does:** nothing if at most one place shows an underscore, and else any of these
places takes its character. -/
theorem reveals_iff : Reveals word hint hint' ↔
    (unrevealed hint).length ≤ 1 ∧ hint' = hint ∨
      1 < (unrevealed hint).length ∧ ∃ i ∈ unrevealed hint,
        hint' = hint.set i (word.toList.getD i '_') := by
  have hcall : revealHintChar hint word = if (unrevealed hint).length ≤ 1 then return hint
      else (choice (unrevealed hint) >>= fun i => return hint.set i (word.toList.getD i '_')) := rfl
  unfold Reveals
  rcases Nat.lt_or_ge 1 (unrevealed hint).length with hlt | hge
  · rw [if_neg (Nat.not_le.mpr hlt)] at hcall
    rw [hcall]
    constructor
    · rintro ⟨w, hok⟩
      have hi : w.oracle.headD 0 % (unrevealed hint).length < (unrevealed hint).length :=
        Nat.mod_lt _ (Nat.zero_lt_of_lt hlt)
      rw [exec_choice _ (List.getElem?_eq_getElem hi)] at hok
      cases hok
      exact .inr ⟨hlt, _, List.getElem_mem hi, rfl⟩
    · rintro (⟨hle, -⟩ | ⟨-, i, hi, rfl⟩)
      · exact absurd hle (Nat.not_le.mpr hlt)
      obtain ⟨k, hk, rfl⟩ := List.mem_iff_getElem.mp hi
      -- the random number that stands for this place
      refine ⟨World.start (fun _ => {}) false [k] fun _ => none, ?_⟩
      rw [exec_choice (a := (unrevealed hint)[k])]
      · rfl
      · change (unrevealed hint)[k % (unrevealed hint).length]? = _
        rw [Nat.mod_eq_of_lt hk]
        exact List.getElem?_eq_getElem hk
  · rw [if_pos hge] at hcall
    rw [hcall]
    constructor
    · rintro ⟨w, hok⟩
      cases hok
      exact .inl ⟨hge, rfl⟩
    · rintro (⟨-, rfl⟩ | ⟨hlt, -⟩)
      · exact ⟨World.start (fun _ => {}) false [] fun _ => none, rfl⟩
      · exact absurd hge (Nat.not_le.mpr hlt)

/-! ## Words without an underscore -/

theorem generateInitialHint_getElem? (word : String) (i : Nat) :
    (generateInitialHint word)[i]? =
      word.toList[i]?.map fun ch => if ch = ' ' then ' ' else '_' := by
  rw [generateInitialHint, List.getElem?_map]

theorem shows_initial (word : String) : Shows word (generateInitialHint word) := by
  refine ⟨List.length_map _, fun i => ?_, fun i => ?_⟩ <;> rw [generateInitialHint_getElem?]
  · cases word.toList[i]? with
    | none => simp
    | some ch => by_cases h : ch = ' ' <;> simp [h]
  · cases word.toList[i]? with
    | none => exact .inr rfl
    | some ch => by_cases h : ch = ' ' <;> simp [h]

/-- A place that is revealed takes the word's character, and no other place changes. -/
theorem Shows.getElem?_set (h : Shows word hint) {i : Nat} (hi : i ∈ unrevealed hint) (j : Nat) :
    (hint.set i (word.toList.getD i '_'))[j]? = if i = j then word.toList[j]? else hint[j]? := by
  have hlt : i < hint.length := (List.getElem?_eq_some_iff.mp (mem_unrevealed.mp hi)).1
  rw [List.getElem?_set]
  split
  · rename_i heq
    subst heq
    rw [List.getD_eq_getElem?_getD]
    rw [h.length] at hlt
    rw [List.getElem?_eq_getElem hlt, Option.getD_some]
  · rfl

/-- A call keeps what a hint shows. -/
theorem Shows.reveals (h : Shows word hint) (hr : Reveals word hint hint') :
    Shows word hint' ∧ ∀ i : Nat, hint[i]? ≠ some '_' → hint'[i]? = hint[i]? := by
  rcases reveals_iff.mp hr with ⟨-, rfl⟩ | ⟨-, i, hi, rfl⟩
  · exact ⟨h, fun _ _ => rfl⟩
  have hshow := mem_unrevealed.mp hi
  refine ⟨⟨by rw [List.length_set, h.length], fun j => ?_, fun j => ?_⟩, fun j hj => ?_⟩ <;>
    rw [h.getElem?_set hi]
  · split
    · rfl
    · exact h.spaces j
  · split
    · exact .inr rfl
    · exact h.shown j
  · rw [if_neg]
    rintro rfl
    exact hj hshow

theorem shows_of_hinted (h : Hinted word hint) : Shows word hint := by
  induction h with
  | refl => exact shows_initial word
  | tail _ hr ih => exact (ih.reveals hr).1

/-- The place that is revealed is hidden no more, and the other places are hidden as before. -/
theorem hidden_set (h : Shows word hint) {i : Nat} (hi : i ∈ unrevealed hint) :
    hidden word (hint.set i (word.toList.getD i '_')) = (hidden word hint).erase i := by
  rw [nodup_hidden.erase_eq_filter]
  unfold hidden unrevealed
  rw [List.length_set]
  simp only [List.filter_filter]
  apply List.filter_congr
  intro j _
  rw [h.getElem?_set hi]
  by_cases hij : i = j
  · subst hij
    simp
  · simp [hij, Ne.symm hij]

/-- Without an underscore in the word, what shows one is hidden. -/
theorem hidden_eq (hword : '_' ∉ word.toList) : hidden word hint = unrevealed hint := by
  apply List.filter_eq_self.mpr
  intro i _
  rw [decide_eq_true_eq]
  exact fun h => hword (List.mem_of_getElem? h)

/-- A call with two hidden characters reveals one of them. -/
theorem length_hidden_reveals (hword : '_' ∉ word.toList) (h : Shows word hint)
    (hr : Reveals word hint hint') (htwo : 2 ≤ (hidden word hint).length) :
    (hidden word hint').length + 1 = (hidden word hint).length := by
  rcases reveals_iff.mp hr with ⟨hle, -⟩ | ⟨-, i, hi, rfl⟩
  · rw [hidden_eq hword] at htwo
    exact absurd hle (Nat.not_le.mpr htwo)
  · have hmem : i ∈ hidden word hint := by
      rw [hidden_eq hword]
      exact hi
    rw [hidden_set h hi, List.length_erase_of_mem hmem]
    omega

theorem hidden_initial (hword : '_' ∉ word.toList) (hblank : ∃ c ∈ word.toList, c ≠ ' ') :
    hidden word (generateInitialHint word) ≠ [] := by
  obtain ⟨c, hc, hne⟩ := hblank
  obtain ⟨i, hi⟩ := List.mem_iff_getElem?.mp hc
  refine List.ne_nil_of_mem (a := i) (mem_hidden.mpr ⟨?_, fun h => hword (List.mem_of_getElem? h)⟩)
  rw [generateInitialHint_getElem?, hi]
  simp [hne]

/-- Some character stays hidden. -/
theorem hidden_of_hinted (hword : '_' ∉ word.toList) (hblank : ∃ c ∈ word.toList, c ≠ ' ')
    (h : Hinted word hint) : hidden word hint ≠ [] := by
  induction h with
  | refl => exact hidden_initial hword hblank
  | @tail hint hint' hprev hr ih =>
    rcases Nat.lt_or_ge 1 (hidden word hint).length with hlt | hge
    · have hlen := length_hidden_reveals hword (shows_of_hinted hprev) hr hlt
      exact List.ne_nil_of_length_pos (by omega)
    · rw [hidden_eq hword] at hge
      rcases reveals_iff.mp hr with ⟨-, rfl⟩ | ⟨hlt, -⟩
      · exact ih
      · exact absurd hge (Nat.not_le.mpr hlt)

/-! ## Words with an underscore -/

/-- While a character is hidden, a place with the word's own underscore is there to be left. -/
theorem exists_reveals (hword : '_' ∈ word.toList) (h : Shows word hint) {i : Nat}
    (hi : i ∈ hidden word hint) : Reveals word hint (hint.set i (word.toList.getD i '_')) := by
  obtain ⟨j, hj⟩ := List.mem_iff_getElem?.mp hword
  obtain ⟨hshow, hne⟩ := mem_hidden.mp hi
  have hi' : i ∈ unrevealed hint := mem_unrevealed.mpr hshow
  have hj' : j ∈ unrevealed hint := by
    rw [mem_unrevealed]
    exact (h.shown j).elim id fun heq => heq.trans hj
  have hij : i ≠ j := by
    rintro rfl
    exact hne hj
  have hnodup : [i, j].Nodup := by simp [hij]
  have htwo : [i, j].length ≤ (unrevealed hint).length :=
    (hnodup.subperm (List.cons_subset.mpr ⟨hi',
      List.cons_subset.mpr ⟨hj', List.nil_subset _⟩⟩)).length_le
  exact reveals_iff.mpr (.inr ⟨htwo, i, hi', rfl⟩)

/-- Some calls reveal everything. -/
theorem exists_all_revealed (hword : '_' ∈ word.toList) (h : Hinted word hint) :
    ∃ hint', Hinted word hint' ∧ hidden word hint' = [] := by
  generalize hn : (hidden word hint).length = n
  induction n generalizing hint with
  | zero => exact ⟨hint, h, List.length_eq_zero_iff.mp hn⟩
  | succ n ih =>
    obtain ⟨i, hi⟩ := List.exists_mem_of_length_pos (Nat.lt_of_lt_of_eq (Nat.succ_pos n) hn.symm)
    have hshows := shows_of_hinted h
    refine ih (h.tail (exists_reveals hword hshows hi)) ?_
    rw [hidden_set hshows (mem_unrevealed.mpr (mem_hidden.mp hi).1),
      List.length_erase_of_mem hi, hn]
    rfl

/-- **The hints of a word are fair exactly if it has no underscore.** -/
theorem fairHints_iff (hblank : ∃ c ∈ word.toList, c ≠ ' ') :
    FairHints word ↔ '_' ∉ word.toList := by
  constructor
  · intro hfair hword
    obtain ⟨hint, hhinted, hnone⟩ := exists_all_revealed hword Relation.ReflTransGen.refl
    exact hfair.hides hint hhinted hnone
  · intro hword
    exact
      { shows := fun hint h => shows_of_hinted h
        hides := fun hint h => hidden_of_hinted hword hblank h
        keeps := fun hint hint' h hr => ((shows_of_hinted h).reveals hr).2
        reveals := fun hint hint' h hr =>
          length_hidden_reveals hword (shows_of_hinted h) hr }

theorem fairHints_ice_cream : FairHints "ice cream" :=
  (fairHints_iff ⟨'i', by decide, by decide⟩).mpr (by decide)

/-- The hint of "a_" is all of it after one call. -/
theorem not_fairHints_underscore : ¬FairHints "a_" := by
  intro hfair
  have hreveals : Reveals "a_" ['_', '_'] ['a', '_'] :=
    reveals_iff.mpr (.inr ⟨by decide, 0, by decide, rfl⟩)
  exact hfair.hides ['a', '_'] (Relation.ReflTransGen.single hreveals) (by decide)

end Skribbl.Backend
