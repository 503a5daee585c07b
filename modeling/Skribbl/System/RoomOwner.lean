import Mathlib.Data.Set.Insert
import Mathlib.Logic.Function.Basic
import Mathlib.Logic.Relation

/-!
# The owner of a room in Redis (`register_room_with_ttl`, `get_room_worker_with_ttl`)

Which worker has a room is in Redis twice: under `room_owner:<CODE>`, which expires after an hour,
and in the hash `room_workers`, which does not.  Workers and gateways write both, one after the
other in either order; a lookup reads the key and, if there is none, the hash.

* `RoomOwner` — the two entries of one room, the calls that write them, each with the commands that
  it has yet to send, and the lookups.
* `RoomOwner.allowed` — what a lookup may return: what the last call that had ended before it was to
  leave behind, or a call that was running meanwhile.
* `RoomOwner.Alike` — calls run at the same time only if they are to leave the same behind.

Principal results: `lookup_allowed` — then each lookup returns such an owner; `lookup_settled` —
when no call is running it returns the one that the last call has set, however long ago that was.
-/

set_option autoImplicit false

namespace Skribbl.System

/-- `room_owner:<CODE>` and the entry of `room_workers`. -/
inductive OwnerEntry where
  | roomOwner
  | roomWorkers
  deriving DecidableEq

/-- How far `get_room_worker_with_ttl` has come. -/
inductive OwnerLookup where
  | idle
  | begun
  /-- There was no key, and the hash is read next. -/
  | missed
  | returned (owner : Option String)
  deriving DecidableEq

/-- The entries of one room, with the time when the key expires; times are in seconds.  A call of
`register_room_with_ttl`, `register_room_worker` or `handleJoinRoom` sets them to a worker, and one
of `unregister_room_with_ttl` or `remove_room_worker` to nobody: `target` is what the call sets them
to, and `left` are the entries that it has yet to set.  `settled` is what the last call that has
ended has set. -/
structure RoomOwner where
  now : Nat := 0
  deadline : Nat := 0
  value : OwnerEntry → Option String := fun _ => none
  left : Nat → List OwnerEntry := fun _ => []
  target : Nat → Option String := fun _ => none
  settled : Option String := none
  lookup : Nat → OwnerLookup := fun _ => .idle
  allowed : Nat → Set (Option String) := fun _ => ∅

namespace RoomOwner

variable {s s' : RoomOwner} {i j k : Nat} {v : Option String}

/-- `ttl_seconds`. -/
def ttl : Nat := 3600

/-- `GET room_owner:<CODE>`. -/
def get (s : RoomOwner) : Option String := if s.now < s.deadline then s.value .roomOwner else none

/-- The lookup is running. -/
def Active (s : RoomOwner) (k : Nat) : Prop := s.lookup k = .begun ∨ s.lookup k = .missed

instance : Decidable (s.Active k) := by unfold Active; infer_instance

/-- What the lookups that begin now may return. -/
def current (s : RoomOwner) : Set (Option String) :=
  insert s.settled {v | ∃ i, s.left i ≠ [] ∧ v = s.target i}

/-- What happens. -/
inductive OwnerAction where
  | tick (d : Nat)
  | call (j : Nat) (target : Option String) (keyFirst : Bool)
  /-- The next command of a call. -/
  | command (j : Nat)
  | lookup (k : Nat)
  | get (k : Nat)
  /-- `HGET room_workers <CODE>`. -/
  | hget (k : Nat)

/-- When it can happen. -/
def Possible (s : RoomOwner) : OwnerAction → Prop
  | .tick _ => True
  | .call j _ _ => s.left j = []
  | .command j => s.left j ≠ []
  | .lookup k => ¬ s.Active k
  | .get k => s.lookup k = .begun
  | .hget k => s.lookup k = .missed

/-- A call sets an entry. -/
def command (s : RoomOwner) (j : Nat) (e : OwnerEntry) : RoomOwner :=
  { s with
    deadline := if e = .roomOwner then s.now + ttl else s.deadline
    value := Function.update s.value e (s.target j)
    left := Function.update s.left j (s.left j).tail
    settled := if (s.left j).tail = [] then s.target j else s.settled }

/-- A lookup comes to a phase. -/
def enter (s : RoomOwner) (k : Nat) (x : OwnerLookup) : RoomOwner :=
  { s with lookup := Function.update s.lookup k x }

def step (s : RoomOwner) : OwnerAction → RoomOwner
  | .tick d => { s with now := s.now + d }
  | .call j target keyFirst =>
    { s with
      left := Function.update s.left j
        (if keyFirst then [.roomOwner, .roomWorkers] else [.roomWorkers, .roomOwner])
      target := Function.update s.target j target
      allowed := fun k => if s.Active k then insert target (s.allowed k) else s.allowed k }
  | .command j => (s.left j).head?.elim s (s.command j)
  | .lookup k =>
    { s.enter k .begun with allowed := Function.update s.allowed k s.current }
  | .get k => s.enter k (if s.get.isSome then .returned s.get else .missed)
  | .hget k => s.enter k (.returned (s.value .roomWorkers))

/-- Calls that run at the same time are to leave the same behind. -/
def Alike (s : RoomOwner) : OwnerAction → Prop
  | .call _ target _ => ∀ i, s.left i ≠ [] → s.target i = target
  | _ => True

/-- One step that meets a condition. -/
def Step (cond : RoomOwner → OwnerAction → Prop) (s s' : RoomOwner) : Prop :=
  ∃ a, s.Possible a ∧ cond s a ∧ s' = s.step a

/-- A run: any number of steps. -/
def Run (cond : RoomOwner → OwnerAction → Prop) : RoomOwner → RoomOwner → Prop :=
  Relation.ReflTransGen (Step cond)

/-! ## Two entries as one -/

/-- Each entry is what the last call has set that has ended, or one that is running; who has set it
already finds it so. -/
structure Inv (s : RoomOwner) : Prop where
  alike : ∀ i j, s.left i ≠ [] → s.left j ≠ [] → s.target i = s.target j
  done : ∀ i e, s.left i ≠ [] → e ∉ s.left i → s.value e = s.target i
  value : ∀ e, s.value e ∈ s.current
  allowed : ∀ k, s.Active k → s.current ⊆ s.allowed k
  returned : ∀ k v, s.lookup k = .returned v → v ∈ s.allowed k

theorem Inv.start : Inv {} where
  alike _ _ h := (h rfl).elim
  done _ _ h := (h rfl).elim
  value _ := Set.mem_insert ..
  allowed _ h := h.elim nofun nofun
  returned _ _ h := nomatch h

theorem get_of_isSome (h : s.get.isSome = true) : s.get = s.value .roomOwner := by
  unfold get at h ⊢
  split at h
  · rename_i hnow
    rw [if_pos hnow]
  · cases h

theorem target_mem_current (h : s.left i ≠ []) : s.target i ∈ s.current :=
  Set.mem_insert_of_mem _ ⟨i, h, rfl⟩

/-- A call begins, and whoever looks the owner up may find what it sets. -/
theorem Inv.call (h : s.Inv) {target : Option String} {keyFirst : Bool} (hleft : s.left j = [])
    (halike : s.Alike (.call j target keyFirst)) : (s.step (.call j target keyFirst)).Inv := by
  have hcommands : ∀ e, e ∈ (s.step (.call j target keyFirst)).left j := fun e => by
    change e ∈ Function.update s.left j _ j
    rw [Function.update_self]
    cases keyFirst <;> cases e <;> simp
  have hleft_ne : ∀ i, i ≠ j → (s.step (.call j target keyFirst)).left i = s.left i :=
    fun i hij => Function.update_of_ne hij ..
  have htarget : ∀ i, (s.step (.call j target keyFirst)).left i ≠ [] →
      i = j ∧ (s.step (.call j target keyFirst)).target i = target ∨
      i ≠ j ∧ s.left i ≠ [] ∧ (s.step (.call j target keyFirst)).target i = s.target i := by
    intro i hi
    by_cases hij : i = j
    · subst hij
      exact .inl ⟨rfl, Function.update_self ..⟩
    · exact .inr ⟨hij, hleft_ne i hij ▸ hi, Function.update_of_ne hij ..⟩
  have hsame : ∀ i, (s.step (.call j target keyFirst)).left i ≠ [] →
      (s.step (.call j target keyFirst)).target i = target := by
    intro i hi
    rcases htarget i hi with ⟨-, heq⟩ | ⟨-, hrunning, heq⟩
    · exact heq
    · exact heq.trans (halike i hrunning)
  have hcurrent : (s.step (.call j target keyFirst)).current ⊆ insert target s.current := by
    rintro v (rfl | ⟨i, hi, rfl⟩)
    · exact Set.mem_insert_of_mem _ (Set.mem_insert ..)
    · rw [hsame i hi]
      exact Set.mem_insert ..
  refine ⟨fun i i' hi hi' => (hsame i hi).trans (hsame i' hi').symm, fun i e hi he => ?_,
    fun e => ?_,
    fun k hk => ?_, fun k v hv => ?_⟩
  · rcases htarget i hi with ⟨rfl, -⟩ | ⟨hij, hrunning, heq⟩
    · exact (he (hcommands e)).elim
    · rw [hleft_ne i hij] at he
      exact (h.done i e hrunning he).trans heq.symm
  · rcases h.value e with heq | ⟨i, hi, heq⟩
    · exact .inl heq
    · have hij : i ≠ j := fun hij => hi (hij ▸ hleft)
      refine .inr ⟨i, (hleft_ne i hij).symm ▸ hi, heq.trans ?_⟩
      exact (Function.update_of_ne hij ..).symm
  · have hallowed : (s.step (.call j target keyFirst)).allowed k = insert target (s.allowed k) :=
      if_pos hk
    rw [hallowed]
    exact hcurrent.trans (Set.insert_subset_insert (h.allowed k hk))
  · have hinactive : ¬ s.Active k := by
      rintro (hk | hk) <;> cases hk.symm.trans hv
    have hallowed : (s.step (.call j target keyFirst)).allowed k = s.allowed k := if_neg hinactive
    rw [hallowed]
    exact h.returned k v hv

/-- A call sets an entry; with the second one it ends, and then both are what it was to set. -/
theorem Inv.command (h : s.Inv) {e : OwnerEntry} {l : List OwnerEntry} (hleft : s.left j = e :: l) :
    (s.command j e).Inv := by
  have hrunning : s.left j ≠ [] := hleft ▸ List.cons_ne_nil _ _
  have hself : (s.command j e).left j = l := by
    change Function.update s.left j (s.left j).tail j = l
    rw [Function.update_self, hleft]
    rfl
  have hleft_ne : ∀ i, i ≠ j → (s.command j e).left i = s.left i :=
    fun i hij => Function.update_of_ne hij ..
  have hleft_of : ∀ i, (s.command j e).left i ≠ [] → s.left i ≠ [] := by
    intro i hi
    by_cases hij : i = j
    · exact hij ▸ hrunning
    · rwa [hleft_ne i hij] at hi
  have hvalue : ∀ e', (s.command j e).value e' = s.target j ∨
      e' ≠ e ∧ (s.command j e).value e' = s.value e' := by
    intro e'
    by_cases he : e' = e
    · subst he
      exact .inl (Function.update_self ..)
    · exact .inr ⟨he, Function.update_of_ne he ..⟩
  have hsettled : l = [] → (s.command j e).settled = s.target j := fun hl =>
    if_pos (by rw [hleft]; exact hl)
  have hunsettled : l ≠ [] → (s.command j e).settled = s.settled := fun hl =>
    if_neg (by rw [hleft]; exact hl)
  refine ⟨fun i i' hi hi' => h.alike i i' (hleft_of i hi) (hleft_of i' hi'), fun i e' hi he' => ?_,
    fun e' => ?_, fun k hk => ?_, h.returned⟩
  · rcases hvalue e' with heq | ⟨hne, heq⟩
    · exact heq.trans (h.alike j i hrunning (hleft_of i hi))
    · refine heq.trans (h.done i e' (hleft_of i hi) fun hmem => he' ?_)
      by_cases hij : i = j
      · subst hij
        rw [hleft] at hmem
        exact hself.symm ▸ (List.mem_cons.mp hmem).resolve_left hne
      · exact (hleft_ne i hij).symm ▸ hmem
  · by_cases hl : l = []
    · refine .inl ?_
      rw [hsettled hl]
      rcases hvalue e' with heq | ⟨hne, heq⟩
      · exact heq
      · refine heq.trans (h.done j e' hrunning ?_)
        rw [hleft, hl, List.mem_singleton]
        exact hne
    · rcases hvalue e' with heq | ⟨-, heq⟩
      · exact .inr ⟨j, hself.symm ▸ hl, heq⟩
      · rcases h.value e' with hsame | ⟨i, hi, hsame⟩
        · exact .inl ((heq.trans hsame).trans (hunsettled hl).symm)
        · refine .inr ⟨i, ?_, heq.trans hsame⟩
          by_cases hij : i = j
          · subst hij
            exact hself.symm ▸ hl
          · exact (hleft_ne i hij).symm ▸ hi
  · refine Set.Subset.trans ?_ (h.allowed k hk)
    rintro v (rfl | ⟨i, hi, rfl⟩)
    · by_cases hl : l = []
      · rw [hsettled hl]
        exact target_mem_current hrunning
      · exact .inl (hunsettled hl)
    · exact target_mem_current (hleft_of i hi)

/-- A lookup goes on: it had begun before, and if it returns, it returns what it may. -/
theorem Inv.enter (h : s.Inv) {x : OwnerLookup} (hactive : s.Active k)
    (hx : ∀ v, x = .returned v → v ∈ s.current) : (s.enter k x).Inv := by
  refine ⟨h.alike, h.done, h.value, fun k' hk' => h.allowed k' ?_, fun k' v hv => ?_⟩
  · by_cases heq : k' = k
    · exact heq ▸ hactive
    · have hsame : (s.enter k x).lookup k' = s.lookup k' := Function.update_of_ne heq ..
      exact hk'.imp hsame.symm.trans hsame.symm.trans
  · by_cases heq : k' = k
    · subst heq
      exact h.allowed k' hactive (hx v ((Function.update_self ..).symm.trans hv))
    · exact h.returned k' v ((Function.update_of_ne heq ..).symm.trans hv)

theorem Inv.lookup (h : s.Inv) : (s.step (.lookup k)).Inv := by
  refine ⟨h.alike, h.done, h.value, fun k' hk' => ?_, fun k' v hv => ?_⟩
  · change s.current ⊆ Function.update s.allowed k s.current k'
    by_cases heq : k' = k
    · rw [heq, Function.update_self]
    · rw [Function.update_of_ne heq]
      have hsame : (s.step (.lookup k)).lookup k' = s.lookup k' := Function.update_of_ne heq ..
      exact h.allowed k' (hk'.imp hsame.symm.trans hsame.symm.trans)
  · change v ∈ Function.update s.allowed k s.current k'
    by_cases heq : k' = k
    · subst heq
      have hbegun : OwnerLookup.begun = .returned v := (Function.update_self ..).symm.trans hv
      cases hbegun
    · rw [Function.update_of_ne heq]
      exact h.returned k' v ((Function.update_of_ne heq ..).symm.trans hv)

/-- **Every step keeps the two entries together.** -/
theorem Inv.step (h : s.Inv) (hstep : Step Alike s s') : s'.Inv := by
  obtain ⟨a, hpossible, halike, rfl⟩ := hstep
  cases a with
  | tick d => exact ⟨h.alike, h.done, h.value, h.allowed, h.returned⟩
  | call j target keyFirst => exact h.call hpossible halike
  | command j =>
    obtain ⟨e, l, hl⟩ := List.exists_cons_of_ne_nil hpossible
    change ((s.left j).head?.elim s (s.command j)).Inv
    rw [hl]
    exact h.command hl
  | lookup k => exact h.lookup
  | get k =>
    refine h.enter (.inl hpossible) fun v hv => ?_
    split at hv
    · rename_i hsome
      cases hv
      rw [get_of_isSome hsome]
      exact h.value .roomOwner
    · cases hv
  | hget k =>
    refine h.enter (.inr hpossible) fun v hv => ?_
    cases hv
    exact h.value .roomWorkers

theorem Inv.run (h : s.Inv) (hrun : Run Alike s s') : s'.Inv := by
  induction hrun with
  | refl => exact h
  | tail _ hstep ih => exact ih.step hstep

/-- **A lookup is never out of date**: when calls run at the same time only if they are to leave the
same behind, each lookup returns what was settled when it began, or what a call sets that was
running since. -/
theorem lookup_allowed (h : Run Alike {} s) (hk : s.lookup k = .returned v) : v ∈ s.allowed k :=
  (Inv.start.run h).returned k v hk

/-- A lookup comes while the worker `a` registers the room, and finds the key. -/
theorem lookup_registering : ∃ s : RoomOwner, s.lookup 0 = .returned (some "a") ∧
    some "a" ∈ s.allowed 0 := by
  have hcall : Run Alike {} _ := .single ⟨.call 0 (some "a") true, rfl,
    fun _ hi => (hi rfl).elim, rfl⟩
  have hset := hcall.tail ⟨.command 0, nofun, trivial, rfl⟩
  have hbegun := hset.tail ⟨.lookup 0, fun hk => hk.elim nofun nofun, trivial, rfl⟩
  have hget := hbegun.tail ⟨.get 0, rfl, trivial, rfl⟩
  exact ⟨_, rfl, lookup_allowed hget rfl⟩

/-- **An owner does not expire**: then, while no call is running, a lookup returns what the last
call has set, however long ago that was. -/
theorem lookup_settled (h : Run Alike {} s) (hquiet : ∀ i, s.left i = []) :
    s.get.or (s.value .roomWorkers) = s.settled := by
  have hvalue : ∀ e, s.value e = s.settled := fun e =>
    ((Inv.start.run h).value e).resolve_right fun ⟨i, hi, _⟩ => hi (hquiet i)
  rw [hvalue]
  by_cases hsome : s.get.isSome = true
  · rw [get_of_isSome hsome, hvalue]
    exact Option.or_self ..
  · rw [Option.not_isSome_iff_eq_none.mp hsome, Option.none_or]

/-- The worker `a` has registered the room, and two hours go by. -/
theorem lookup_twoHours : ∃ s : RoomOwner, s.now = 7200 ∧ s.get = none ∧
    s.get.or (s.value .roomWorkers) = some "a" := by
  have hcall : Run Alike {} _ := .single ⟨.call 0 (some "a") true, rfl,
    fun _ hi => (hi rfl).elim, rfl⟩
  have hset := hcall.tail ⟨.command 0, nofun, trivial, rfl⟩
  have hended := hset.tail ⟨.command 0, nofun, trivial, rfl⟩
  have hlater := hended.tail ⟨.tick 7200, trivial, trivial, rfl⟩
  refine ⟨_, rfl, rfl, lookup_settled hlater fun i => ?_⟩
  by_cases hi : i = 0
  · subst hi
    rfl
  · exact (Function.update_of_ne hi ..).trans
      ((Function.update_of_ne hi ..).trans (Function.update_of_ne hi ..))

-- two workers register the room at once: who has it changes when the key expires
example :
    let s := [.call 0 (some "a") true, .call 1 (some "b") true, .command 0, .command 1, .command 1,
      .command 0].foldl step {}
    s.get = some "b" ∧ (s.step (.tick 3600)).get.or (s.value .roomWorkers) = some "a" := by
  decide

end RoomOwner

end Skribbl.System
