import Mathlib.Data.Finset.Card
import Mathlib.Data.Finset.Prod
import Mathlib.Data.List.Nodup
import Mathlib.Data.Prod.Lex

/-!
# Turns around a table whose seats change

* `Table` — the seats in the order of the turns, the round, and how many seats have been passed.
* `Table.Churn`, `Table.Orderly` — who leaves, and who takes a seat at the end; nobody leaves a
  seat that has been passed while somebody is waiting.
* `Move`, `Table.Takes` — the turn goes to the next of those present, in this round or the next.
* `Fair` — in no round anybody has two turns, and whoever is present throughout a round has one.

Principal results: `Running.churn`, `Running.takes` — nobody has two turns; `Complete.churn`,
`Complete.takes`, `complete_of_left` — under orderly churn nobody is left out;
`length_le_of_ascending` — how many turns there can be.
-/

set_option autoImplicit false

namespace Rotation

/-! ## The table -/

/-- The seats, the round, the number of seats passed in this round, and all that were ever known. -/
structure Table (α : Type) where
  seats : List α
  round : Nat
  passed : Nat
  seen : α → Prop

variable {α : Type} {t t' : Table α} {a b : α}

/-- The seats that have been passed. -/
def Table.front (t : Table α) : List α := t.seats.take t.passed

/-- The seats that are waiting. -/
def Table.behind (t : Table α) : List α := t.seats.drop t.passed

/-- Some leave, and some that are new come in at the end. -/
structure Table.Churn (t t' : Table α) : Prop where
  round : t'.round = t.round
  passed : t'.passed = t.passed
  seen : ∀ a, t.seen a → t'.seen a
  seats : ∃ (keep : α → Bool) (new : List α), t'.seats = t.seats.filter keep ++ new ∧ new.Nodup ∧
    ∀ a ∈ new, ¬t.seen a ∧ t'.seen a

/-- Nobody leaves a seat that has been passed, unless nobody is waiting. -/
def Table.Orderly (t t' : Table α) : Prop := t.behind = [] ∨ ∀ a ∈ t.front, a ∈ t'.seats

/-- Everybody has one seat, and is known. -/
structure Table.Seated (t : Table α) : Prop where
  nodup : t.seats.Nodup
  seen : ∀ a ∈ t.seats, t.seen a

theorem Table.mem_seats : a ∈ t.seats ↔ a ∈ t.front ∨ a ∈ t.behind := by
  rw [← List.mem_append, Table.front, Table.behind, List.take_append_drop]

theorem Table.Churn.refl (t : Table α) : t.Churn t :=
  ⟨rfl, rfl, fun _ h => h, fun _ => true, [], by simp, .nil, nofun⟩

theorem Table.Seated.churn (ht : t.Seated) (h : t.Churn t') : t'.Seated := by
  obtain ⟨keep, new, hseats, hnodup, hnew⟩ := h.seats
  refine ⟨?_, fun a ha => ?_⟩
  · rw [hseats]
    refine List.Nodup.append (ht.nodup.filter _) hnodup fun a ha hn => ?_
    exact (hnew a hn).1 (ht.seen a (List.mem_of_mem_filter ha))
  · rw [hseats, List.mem_append] at ha
    rcases ha with ha | ha
    · exact h.seen a (ht.seen a (List.mem_of_mem_filter ha))
    · exact (hnew a ha).2

/-- Whoever is seated and was known before was seated before. -/
theorem Table.Churn.old (h : t.Churn t') (ha : a ∈ t'.seats) (hseen : t.seen a) :
    a ∈ t.seats := by
  obtain ⟨keep, new, hseats, -, hnew⟩ := h.seats
  rw [hseats, List.mem_append] at ha
  rcases ha with ha | ha
  · exact List.mem_of_mem_filter ha
  · exact absurd hseen (hnew a ha).1

/-- Whoever has been passed and stays has been passed. -/
theorem Table.Seated.front_churn (ht : t.Seated) (h : t.Churn t') (ha : a ∈ t.front)
    (ha' : a ∈ t'.seats) : a ∈ t'.front := by
  obtain ⟨keep, new, hseats, -, hnew⟩ := h.seats
  have hseen : t.seen a := ht.seen a (List.mem_of_mem_take ha)
  have hkeep : keep a = true := by
    rw [hseats, List.mem_append] at ha'
    rcases ha' with ha' | ha'
    · exact (List.mem_filter.mp ha').2
    · exact absurd hseen (hnew a ha').1
  have hlength : (t.front.filter keep).length ≤ t.passed :=
    Nat.le_trans (List.length_filter_le _ _) (List.length_take_le _ _)
  have hsplit : t'.seats = t.front.filter keep ++ (t.behind.filter keep ++ new) := by
    rw [hseats, ← List.append_assoc, ← List.filter_append, Table.front, Table.behind,
      List.take_append_drop]
  rw [Table.front, h.passed, hsplit, List.take_append]
  refine List.mem_append_left _ ?_
  rw [List.take_of_length_le hlength]
  exact List.mem_filter.mpr ⟨ha, hkeep⟩

/-- Under orderly churn whoever waits goes on waiting. -/
theorem Table.Seated.front_of_orderly (ht : t.Seated) (h : t.Churn t') (ho : t.Orderly t')
    (ha : a ∈ t'.front) (hseen : t.seen a) : a ∈ t.front := by
  have hold : a ∈ t.seats := h.old (List.mem_of_mem_take ha) hseen
  rcases Table.mem_seats.mp hold with hfront | hbehind
  · exact hfront
  · rcases ho with hnil | hstay
    · rw [hnil] at hbehind
      cases hbehind
    · -- the seats that have been passed are the same
      obtain ⟨keep, new, hseats, -, hnew⟩ := h.seats
      have hkeep : t.front.filter keep = t.front := by
        refine List.filter_eq_self.mpr fun b hb => ?_
        have hb' := hstay b hb
        rw [hseats, List.mem_append] at hb'
        rcases hb' with hb' | hb'
        · exact (List.mem_filter.mp hb').2
        · exact absurd (ht.seen b (List.mem_of_mem_take hb)) (hnew b hb').1
      have hlength : t.front.length = t.passed := by
        have hpos : 0 < t.behind.length := List.length_pos_of_mem hbehind
        rw [Table.behind, List.length_drop] at hpos
        rw [Table.front, List.length_take]
        omega
      have hsplit : t'.seats = t.front ++ (t.behind.filter keep ++ new) := by
        conv_rhs => rw [← List.append_assoc, ← hkeep]
        rw [hseats, ← List.filter_append, Table.front, Table.behind, List.take_append_drop]
      rw [Table.front, h.passed, hsplit, ← hlength, List.take_left] at ha
      exact ha

/-! ## Turns -/

/-- The round before and after, who has the turn, and who was present when it was given. -/
structure Move (α : Type) where
  before : Nat
  round : Nat
  chosen : Option α
  present : List α

/-- The turn goes to `a`: to the next that is present, in this round or in the next round. -/
structure Table.Takes (t : Table α) (present : List α) (t' : Table α) (a : α) : Prop where
  seats : t'.seats = t.seats
  seen : t'.seen = t.seen
  seated : ∀ b ∈ present, b ∈ t.seats
  next : ∃ i, t.seats[i]? = some a ∧ t'.passed = i + 1 ∧
    (t'.round = t.round ∧ t.passed ≤ i ∧
        (∀ b ∈ t.seats.take i, b ∈ present → b ∈ t.front) ∨
      t'.round = t.round + 1 ∧ (∀ b ∈ t.behind, b ∉ present) ∧
        ∀ b ∈ t.seats.take i, b ∉ present)

/-- The turns in a round. -/
def turns (h : List (Move α)) (k : Nat) : List α :=
  (h.filter fun e => decide (e.round = k)).filterMap Move.chosen

/-- Somebody had the turn in the round. -/
def Begun (h : List (Move α)) (k : Nat) : Prop := ∃ e ∈ h, e.round = k ∧ e.chosen ≠ none

/-- Present at all moves of the round, from the first to the one that leaves it. -/
def Throughout (h : List (Move α)) (k : Nat) (a : α) : Prop :=
  ∀ e ∈ h, e.round = k ∨ e.before = k → a ∈ e.present

/-- The round has been left. -/
def Left (h : List (Move α)) (k : Nat) : Prop := ∃ e ∈ h, e.before = k ∧ k < e.round

/-- In a round nobody has two turns, and whoever is present throughout has one. -/
structure Fair (h : List (Move α)) : Prop where
  once : ∀ k, (turns h k).Nodup
  complete : ∀ k a, Begun h k → Left h k → Throughout h k a → a ∈ turns h k

variable {h : List (Move α)} {e : Move α} {k : Nat} {present : List α}

theorem mem_turns : a ∈ turns h k ↔ ∃ e ∈ h, e.round = k ∧ e.chosen = some a := by
  simp [turns, and_assoc]

theorem turns_append : turns (h ++ [e]) k =
    turns h k ++ if e.round = k then e.chosen.toList else [] := by
  unfold turns
  rw [List.filter_append, List.filterMap_append]
  by_cases hk : e.round = k
  · cases hc : e.chosen <;> simp [hk, hc]
  · simp [hk]

theorem Throughout.left (ha : Throughout (h ++ [e]) k a) : Throughout h k a :=
  fun e' he' => ha e' (List.mem_append_left _ he')

theorem Throughout.last (ha : Throughout (h ++ [e]) k a) (hk : e.round = k ∨ e.before = k) :
    a ∈ e.present := ha e (by simp) hk

/-- What holds of the moves and the table after a turn was given, whoever comes and goes. -/
structure Running (h : List (Move α)) (t : Table α) : Prop where
  seated : t.Seated
  past : ∀ e ∈ h, ∀ a, a ∈ e.present ∨ e.chosen = some a → t.seen a
  rounds : ∀ e ∈ h, e.round ≤ t.round
  begun : Begun h t.round
  once : ∀ k, (turns h k).Nodup
  drawn : ∀ a ∈ turns h t.round, a ∈ t.seats → a ∈ t.front

/-- What holds as well under orderly churn. -/
structure Complete (h : List (Move α)) (t : Table α) : Prop where
  front : ∀ a ∈ t.front, Throughout h t.round a → a ∈ turns h t.round
  earlier : ∀ k < t.round, ∀ a, Begun h k → Throughout h k a → a ∈ turns h k

theorem Running.chosen_seen (hr : Running h t) (ha : a ∈ turns h k) : t.seen a := by
  obtain ⟨e, he, -, hc⟩ := mem_turns.mp ha
  exact hr.past e he a (.inr hc)

theorem Running.present_seen (hr : Running h t) (hb : Begun h k) (ha : Throughout h k a) :
    t.seen a := by
  obtain ⟨e, he, hk, -⟩ := hb
  exact hr.past e he a (.inl (ha e he (.inl hk)))

theorem Running.churn (hr : Running h t) (hc : t.Churn t') : Running h t' where
  seated := hr.seated.churn hc
  past e he a ha := hc.seen a (hr.past e he a ha)
  rounds e he := hc.round ▸ hr.rounds e he
  begun := hc.round ▸ hr.begun
  once := hr.once
  drawn a ha ha' := by
    rw [hc.round] at ha
    exact hr.seated.front_churn hc (hr.drawn a ha (hc.old ha' (hr.chosen_seen ha))) ha'

theorem Complete.churn (hf : Complete h t) (hr : Running h t) (hc : t.Churn t')
    (ho : t.Orderly t') : Complete h t' where
  front a ha hthrough := by
    rw [hc.round] at hthrough ⊢
    exact hf.front a (hr.seated.front_of_orderly hc ho ha (hr.present_seen hr.begun hthrough))
      hthrough
  earlier k hk := hf.earlier k (hc.round ▸ hk)

/-- The first turn. -/
theorem Running.first {i : Nat} (ht : t.Seated) (ha : t.seats[i]? = some a)
    (hpassed : t.passed = i + 1) (hpresent : ∀ b ∈ present, t.seen b) :
    Running [⟨k, t.round, some a, present⟩] t where
  seated := ht
  past e he b hb := by
    rw [List.mem_singleton.mp he] at hb
    rcases hb with hb | hb
    · exact hpresent b hb
    · rw [← Option.some.inj hb]
      exact ht.seen a (List.mem_of_getElem? ha)
  rounds e he := Nat.le_of_eq (congrArg Move.round (List.mem_singleton.mp he))
  begun := ⟨_, List.mem_singleton_self _, rfl, nofun⟩
  once k' := by
    by_cases hk : t.round = k' <;> simp [turns, hk]
  drawn b hb _ := by
    have hb : b = a := by simpa [turns] using hb
    rw [hb, Table.front, hpassed]
    exact List.mem_of_getElem? ((List.getElem?_take_of_lt (Nat.lt_succ_self i)).trans ha)

/-- Those before the seat `i`, or in it. -/
theorem mem_take_succ {l : List α} {i : Nat} (ha : l[i]? = some a) (hb : b ∈ l.take (i + 1)) :
    b ∈ l.take i ∨ b = a := by
  rw [List.take_add_one, ha, List.mem_append] at hb
  exact hb.imp_right fun h => by simpa using h

/-- Before the first turn nobody of those present has been passed. -/
theorem Complete.first {i : Nat} (ha : t.seats[i]? = some a) (hpassed : t.passed = i + 1)
    (hfront : ∀ b ∈ t.seats.take i, b ∉ present) :
    Complete [⟨k, t.round, some a, present⟩] t where
  front b hb hthrough := by
    rw [Table.front, hpassed] at hb
    rcases mem_take_succ ha hb with hb | rfl
    · exact absurd (hthrough _ (List.mem_singleton_self _) (.inl rfl)) (hfront b hb)
    · simp [turns]
  earlier k' hk' b hb := by
    obtain ⟨e, he, rfl, -⟩ := hb
    rw [List.mem_singleton.mp he] at hk'
    exact absurd hk' (Nat.lt_irrefl _)

/-- The turn goes on. -/
theorem Running.takes (hr : Running h t) (ht : t.Takes present t' a) :
    Running (h ++ [⟨t.round, t'.round, some a, present⟩]) t' := by
  obtain ⟨i, hi, hpassed, hnext⟩ := ht.next
  have hseat : a ∈ t.seats := List.mem_of_getElem? hi
  have hround : t.round ≤ t'.round := by
    rcases hnext with ⟨h, -⟩ | ⟨h, -⟩ <;> omega
  have hfront : a ∈ t'.front := by
    rw [Table.front, hpassed, ht.seats]
    exact List.mem_of_getElem? ((List.getElem?_take_of_lt (Nat.lt_succ_self i)).trans hi)
  -- the turn is not that of somebody who had one in this round
  have hnew : a ∉ turns h t'.round := by
    intro hold
    rcases hnext with ⟨hk, hle, -⟩ | ⟨hk, -⟩
    · rw [hk] at hold
      obtain ⟨j, hj, hja⟩ := List.mem_take_iff_getElem.mp (hr.drawn a hold hseat)
      obtain ⟨hi', hia⟩ := List.getElem?_eq_some_iff.mp hi
      have hij := (hr.seated.nodup.getElem_inj_iff).mp (hja.trans hia.symm)
      omega
    · obtain ⟨e, he, hek, -⟩ := mem_turns.mp hold
      have := hr.rounds e he
      omega
  refine ⟨⟨ht.seats ▸ hr.seated.nodup, ?_⟩, ?_, ?_, ?_, ?_, ?_⟩
  · rw [ht.seats, ht.seen]
    exact hr.seated.seen
  · intro e he b hb
    rw [ht.seen]
    rcases List.mem_append.mp he with he | he
    · exact hr.past e he b hb
    · rw [List.mem_singleton.mp he] at hb
      rcases hb with hb | hb
      · exact hr.seated.seen b (ht.seated b hb)
      · rw [← Option.some.inj hb]
        exact hr.seated.seen a hseat
  · intro e he
    rcases List.mem_append.mp he with he | he
    · exact Nat.le_trans (hr.rounds e he) hround
    · exact Nat.le_of_eq (congrArg Move.round (List.mem_singleton.mp he))
  · exact ⟨_, List.mem_append_right _ (List.mem_singleton_self _), rfl, nofun⟩
  · intro k
    rw [turns_append]
    split
    · rename_i hk
      rw [← hk]
      refine List.Nodup.append (hr.once _) (List.nodup_singleton a) ?_
      intro b hb hb'
      rw [List.mem_singleton.mp hb'] at hb
      exact hnew hb
    · rw [List.append_nil]
      exact hr.once k
  · intro b hb hseat'
    rw [turns_append, if_pos rfl, List.mem_append] at hb
    rcases hb with hb | hb
    · rcases hnext with ⟨hk, hle, -⟩ | ⟨hk, -⟩
      · rw [hk] at hb
        have hold := hr.drawn b hb (ht.seats ▸ hseat')
        rw [Table.front] at hold
        rw [Table.front, ht.seats, hpassed]
        exact List.take_subset_take_left _ (by omega) hold
      · obtain ⟨e, he, hek, -⟩ := mem_turns.mp hb
        have := hr.rounds e he
        omega
    · rw [List.mem_singleton.mp hb]
      exact hfront

/-- Once the round is left, whoever was present throughout had a turn. -/
theorem complete_of_left {e : Move α} (hf : Complete h t)
    (hbefore : e.before = t.round) (hround : t.round < e.round)
    (hseated : ∀ b ∈ e.present, b ∈ t.seats) (hbehind : ∀ b ∈ t.behind, b ∉ e.present)
    (hk : k ≤ t.round) (hb : Begun (h ++ [e]) k) (ha : Throughout (h ++ [e]) k a) :
    a ∈ turns (h ++ [e]) k := by
  rw [turns_append]
  refine List.mem_append_left _ ?_
  rcases Nat.lt_or_eq_of_le hk with hlt | rfl
  · refine hf.earlier k hlt a ?_ ha.left
    obtain ⟨e', he', hk', hc⟩ := hb
    rcases List.mem_append.mp he' with he' | he'
    · exact ⟨e', he', hk', hc⟩
    · rw [List.mem_singleton.mp he'] at hk'
      omega
  · have hpresent := ha.last (.inr hbefore)
    rcases Table.mem_seats.mp (hseated a hpresent) with hfront | hwaits
    · exact hf.front a hfront ha.left
    · exact absurd hpresent (hbehind a hwaits)

theorem Complete.takes (hf : Complete h t) (ht : t.Takes present t' a) :
    Complete (h ++ [⟨t.round, t'.round, some a, present⟩]) t' := by
  obtain ⟨i, hi, hpassed, hnext⟩ := ht.next
  refine ⟨fun b hb hthrough => ?_, fun k hk b hbegun hthrough => ?_⟩
  · rw [turns_append, if_pos rfl, List.mem_append]
    rw [Table.front, ht.seats, hpassed] at hb
    rcases mem_take_succ hi hb with hb | rfl
    · have hpresent := hthrough.last (.inl rfl)
      rcases hnext with ⟨hk, -, hskipped⟩ | ⟨-, -, hskipped⟩
      · rw [hk] at hthrough ⊢
        exact .inl (hf.front b (hskipped b hb hpresent) hthrough.left)
      · exact absurd hpresent (hskipped b hb)
    · exact .inr (by simp)
  · rcases hnext with ⟨hround, -, -⟩ | ⟨hround, hbehind, -⟩
    · rw [turns_append]
      refine List.mem_append_left _ (hf.earlier k (hround ▸ hk) b ?_ hthrough.left)
      obtain ⟨e, he, hek, hc⟩ := hbegun
      rcases List.mem_append.mp he with he | he
      · exact ⟨e, he, hek, hc⟩
      · rw [List.mem_singleton.mp he] at hek
        simp only at hek
        omega
    · exact complete_of_left hf rfl (by simp only; omega) ht.seated hbehind (by omega) hbegun
        hthrough

/-- A move without a turn, in which the round goes on. -/
theorem Running.waits (hr : Running h t) (hpresent : ∀ b ∈ present, b ∈ t.seats) :
    Running (h ++ [⟨t.round, t.round, none, present⟩]) t := by
  have hturns : ∀ k, turns (h ++ [⟨t.round, t.round, none, present⟩]) k = turns h k := by
    intro k
    rw [turns_append]
    simp
  refine ⟨hr.seated, ?_, ?_, ?_, fun k => hturns k ▸ hr.once k, fun a ha => ?_⟩
  · intro e he b hb
    rcases List.mem_append.mp he with he | he
    · exact hr.past e he b hb
    · rw [List.mem_singleton.mp he] at hb
      rcases hb with hb | hb
      · exact hr.seated.seen b (hpresent b hb)
      · cases hb
  · intro e he
    rcases List.mem_append.mp he with he | he
    · exact hr.rounds e he
    · exact Nat.le_of_eq (congrArg Move.round (List.mem_singleton.mp he))
  · obtain ⟨e, he, hk⟩ := hr.begun
    exact ⟨e, List.mem_append_left _ he, hk⟩
  · rw [hturns] at ha
    exact hr.drawn a ha

theorem Complete.waits (hf : Complete h t) :
    Complete (h ++ [⟨t.round, t.round, none, present⟩]) t := by
  refine ⟨fun a ha hthrough => ?_, fun k hk a hbegun hthrough => ?_⟩
  · rw [turns_append]
    exact List.mem_append_left _ (hf.front a ha hthrough.left)
  · rw [turns_append]
    refine List.mem_append_left _ (hf.earlier k hk a ?_ hthrough.left)
    obtain ⟨e, he, hek, hc⟩ := hbegun
    rcases List.mem_append.mp he with he | he
    · exact ⟨e, he, hek, hc⟩
    · rw [List.mem_singleton.mp he] at hc
      exact absurd rfl hc

/-- Running moves are fair, when they are complete. -/
theorem Complete.fair (hf : Complete h t) (hr : Running h t) : Fair h where
  once := hr.once
  complete k a hbegun hleft hthrough := by
    obtain ⟨e, he, -, hk⟩ := hleft
    exact hf.earlier k (Nat.lt_of_lt_of_le hk (hr.rounds e he)) a hbegun hthrough

/-- The last move is fair: the round is left, and there is no turn. -/
theorem Complete.finished {e : Move α} (hf : Complete h t) (hr : Running h t)
    (hbefore : e.before = t.round) (hround : t.round < e.round) (hchosen : e.chosen = none)
    (hseated : ∀ b ∈ e.present, b ∈ t.seats) (hbehind : ∀ b ∈ t.behind, b ∉ e.present) :
    Fair (h ++ [e]) where
  once k := by
    rw [turns_append, hchosen]
    simpa using hr.once k
  complete k a hbegun hleft hthrough := by
    refine complete_of_left hf hbefore hround hseated hbehind ?_ hbegun hthrough
    obtain ⟨e', he', hk, hc⟩ := hbegun
    rcases List.mem_append.mp he' with he' | he'
    · exact hk ▸ hr.rounds e' he'
    · rw [List.mem_singleton.mp he'] at hc
      exact absurd hchosen hc

/-! ## Places -/

/-- **There are no more places than seats in all rounds**, when they come one after the other. -/
theorem length_le_of_ascending {l : List (ℕ ×ₗ ℕ)} {M N : ℕ} (hsorted : l.Pairwise (· < ·))
    (hl : ∀ x ∈ l, (ofLex x).1 ≤ M ∧ (ofLex x).2 < N) : l.length ≤ (M + 1) * N := by
  have hnodup : (l.map ofLex).Nodup :=
    List.Nodup.map ofLex.injective (hsorted.imp ne_of_lt)
  have hsub : (l.map ofLex).toFinset ⊆ Finset.range (M + 1) ×ˢ Finset.range N := by
    intro x hx
    obtain ⟨y, hy, rfl⟩ := List.mem_map.mp (List.mem_toFinset.mp hx)
    obtain ⟨hround, hindex⟩ := hl y hy
    exact Finset.mem_product.mpr
      ⟨Finset.mem_range.mpr (Nat.lt_succ_of_le hround), Finset.mem_range.mpr hindex⟩
  calc l.length = (l.map ofLex).toFinset.card := by
        rw [List.toFinset_card_of_nodup hnodup, List.length_map]
    _ ≤ (Finset.range (M + 1) ×ˢ Finset.range N).card := Finset.card_le_card hsub
    _ = (M + 1) * N := by rw [Finset.card_product, Finset.card_range, Finset.card_range]

end Rotation
