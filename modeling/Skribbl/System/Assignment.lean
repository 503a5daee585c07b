import Mathlib.Logic.Function.Basic
import Mathlib.Logic.Relation
import Mathlib.Data.Option.Basic
import Mathlib.Tactic.SplitIfs

/-!
# Which worker a room is given (`handleJoinRoom`, `resolveRoomOwner`, `selectLeastLoadedWorker`)

Several gateways handle `join_room` and `reconnect` messages for one room code at the same time.
Each Redis command is a step of its own.

* `JoinPhase` — how far `handleJoinRoom` has come with one message.
* `Assignment` — the keys in Redis that are about the room, the caches of the gateways, and the
  messages; `next` — a message goes one command further.
* `Assignment.Heeds` — nobody reads the owner while another is about to replace it, and no cache
  is behind Redis.

Principal results: `agree_of_run` — then all messages go to the same worker; `agree_split` — two
gateways that find no owner at the same time may choose two workers.
-/

set_option autoImplicit false

namespace Skribbl.System

/-- How far `handleJoinRoom` has come with a message. -/
inductive JoinPhase where
  | start
  /-- `room_owner` is not there. -/
  | missing
  /-- Nor is it in `room_workers`. -/
  | unowned
  | chosen (w : String)
  /-- `room_owner` is set, and `room_workers` is not yet. -/
  | written (w : String)
  | resolved (w : String)
  /-- The worker is not alive, and its cache entries are deleted. -/
  | dead (w : String)
  | rechosen (w : String)
  | rewritten (w : String)
  /-- The envelope goes to the worker. -/
  | routed (w : String)
  /-- `NO_BACKEND`. -/
  | failed
  deriving DecidableEq

namespace JoinPhase

/-- The owner that the message takes the room to have. -/
def named : JoinPhase → Option String
  | .written w => some w
  | .resolved w => some w
  | .rewritten w => some w
  | .routed w => some w
  | _ => none

/-- The worker that the message counts on from now on. -/
def vouched : JoinPhase → Option String
  | .rechosen w => some w
  | .rewritten w => some w
  | .routed w => some w
  | _ => none

/-- The worker that the message has in hand. -/
def held : JoinPhase → Option String
  | .chosen w => some w
  | .written w => some w
  | .resolved w => some w
  | .rechosen w => some w
  | .rewritten w => some w
  | .routed w => some w
  | _ => none

/-- Nothing is in hand. -/
def Idle (x : JoinPhase) : Prop := x = .start ∨ x = .failed

/-- The message has found no owner, or a dead one, and has not yet set another. -/
def Alone : JoinPhase → Prop
  | .unowned => True
  | .chosen _ => True
  | .dead _ => True
  | .rechosen _ => True
  | _ => False

/-- The message is between its read of the owner and its write, unless it has read a live one. -/
def Between (alive : String → Bool) : JoinPhase → Prop
  | .missing => True
  | .unowned => True
  | .chosen _ => True
  | .written _ => True
  | .resolved w => alive w = false
  | .dead _ => True
  | .rechosen _ => True
  | .rewritten _ => True
  | _ => False

theorem Alone.between {x : JoinPhase} (h : x.Alone) (alive : String → Bool) : x.Between alive := by
  cases x <;> simp_all [Alone, Between]

theorem not_idle_of_named {x : JoinPhase} {w : String} (h : x.named = some w) : ¬ x.Idle := by
  rintro (rfl | rfl) <;> cases h

end JoinPhase

/-- One room code: the keys in Redis that are about it, `worker_load` with the least loaded worker
first, the liveness keys, the fresh entries of each gateway's caches, and the messages, each at its
gateway. -/
structure Assignment where
  roomOwner : Option String := none
  roomWorkers : Option String := none
  workerLoad : List String := []
  grpcAlive : String → Bool := fun _ => false
  ownerCache : Nat → Option String := fun _ => none
  liveCache : Nat → String → Bool := fun _ _ => false
  gateway : Nat → Nat := id
  phase : Nat → JoinPhase := fun _ => .start

namespace Assignment

variable {s s' : Assignment} {j : Nat} {w : String}

/-- The owner as Redis has it. -/
def owner (s : Assignment) : Option String := s.roomOwner.or s.roomWorkers

/-- The message comes to a phase. -/
def enter (s : Assignment) (j : Nat) (x : JoinPhase) : Assignment :=
  { s with phase := Function.update s.phase j x }

/-- `m.ownerCache.Store` at the gateway of the message. -/
def store (s : Assignment) (j : Nat) (w : String) : Assignment :=
  { s with ownerCache := Function.update s.ownerCache (s.gateway j) (some w) }

/-- `isGRPCAlive` with its cache. -/
def isGRPCAlive (s : Assignment) (j : Nat) (w : String) : Bool :=
  s.liveCache (s.gateway j) w || s.grpcAlive w

/-- A positive answer is cached. -/
def storeAlive (s : Assignment) (j : Nat) (w : String) : Assignment :=
  { s with
    liveCache := Function.update s.liveCache (s.gateway j)
      (Function.update (s.liveCache (s.gateway j)) w true) }

/-- The caches forget a dead worker. -/
def forget (s : Assignment) (j : Nat) (w : String) : Assignment :=
  { s with
    ownerCache := Function.update s.ownerCache (s.gateway j) none
    liveCache := Function.update s.liveCache (s.gateway j)
      (Function.update (s.liveCache (s.gateway j)) w false) }

/-- `handleJoinRoom` goes one Redis command further with a message. -/
def next (s : Assignment) (j : Nat) : Assignment :=
  match s.phase j with
  | .start =>
    match s.ownerCache (s.gateway j), s.roomOwner with
    | some w, _ => s.enter j (.resolved w)
    | none, some w => (s.store j w).enter j (.resolved w)
    | none, none => s.enter j .missing
  | .missing =>
    match s.roomWorkers with
    | some w => (s.store j w).enter j (.resolved w)
    | none => s.enter j .unowned
  | .unowned => s.enter j (s.workerLoad.head?.elim .failed .chosen)
  | .chosen w => { s with roomOwner := some w }.enter j (.written w)
  | .written w => ({ s with roomWorkers := some w }.store j w).enter j (.resolved w)
  | .resolved w =>
    if s.isGRPCAlive j w then (s.storeAlive j w).enter j (.routed w)
    else (s.forget j w).enter j (.dead w)
  | .dead w =>
    s.enter j ((s.workerLoad.head?.filter (· ≠ w)).elim .failed .rechosen)
  | .rechosen w => { s with roomOwner := some w }.enter j (.rewritten w)
  | .rewritten w => ({ s with roomWorkers := some w }.store j w).enter j (.routed w)
  | .routed _ => s
  | .failed => s

/-- What happens. -/
inductive Action where
  | join (j : Nat)
  /-- A cache entry expires. -/
  | expireCache (gateway : Nat)
  | expireLive (gateway : Nat) (w : String)
  /-- `room_owner` expires. -/
  | expireOwner
  /-- The workers report their loads, or a gateway adds to that of the worker it has chosen. -/
  | rank (workerLoad : List String)
  | starts (w : String)
  | dies (w : String)
  /-- A worker that has been sent a message for the room registers it. -/
  | registers (w : String)

def step (s : Assignment) : Action → Assignment
  | .join j => s.next j
  | .expireCache g => { s with ownerCache := Function.update s.ownerCache g none }
  | .expireLive g w =>
    { s with
      liveCache := Function.update s.liveCache g (Function.update (s.liveCache g) w false) }
  | .expireOwner => { s with roomOwner := none }
  | .rank l => { s with workerLoad := l }
  | .starts w => { s with grpcAlive := Function.update s.grpcAlive w true }
  | .dies w => { s with grpcAlive := Function.update s.grpcAlive w false }
  | .registers w =>
    { s with
      roomOwner := some w
      roomWorkers := some w }

/-- The worker that a message has gone to stays alive, and only such a worker registers the room. -/
def Possible (s : Assignment) : Action → Prop
  | .dies w => ∀ j, s.phase j ≠ .routed w
  | .registers w => ∃ j, s.phase j = .routed w
  | _ => True

/-- One step that meets a condition. -/
def Step (cond : Assignment → Action → Prop) (s s' : Assignment) : Prop :=
  ∃ a, s.Possible a ∧ cond s a ∧ s' = s.step a

/-- A run: any number of steps. -/
def Run (cond : Assignment → Action → Prop) : Assignment → Assignment → Prop :=
  Relation.ReflTransGen (Step cond)

/-- All messages go to the same worker. -/
def Agree (s : Assignment) : Prop :=
  ∀ j j' w w', s.phase j = .routed w → s.phase j' = .routed w' → w = w'

/-- Nobody reads the owner while another message is about to replace it; what a cache says is so in
Redis; the worker that replaces a dead one is alive, and none dies that a message has in hand; and
the two keys of the room agree when one expires. -/
def Heeds (s : Assignment) : Action → Prop
  | .join j =>
    match s.phase j with
    | .start => (∀ j', ¬ (s.phase j').Between s.grpcAlive) ∧
        ∀ w, s.ownerCache (s.gateway j) = some w → s.owner = some w
    | .resolved w => s.liveCache (s.gateway j) w = true → s.grpcAlive w = true
    | .dead _ => ∀ w, s.workerLoad.head? = some w → s.grpcAlive w = true
    | _ => True
  | .dies w => ∀ j, (s.phase j).held ≠ some w
  | .expireOwner => s.owner = s.roomWorkers
  | _ => True

/-- At most one message is about to replace the owner, and all others take the room to be where it
is. -/
structure Inv (s : Assignment) : Prop where
  sole : ∀ j j', (s.phase j).Between s.grpcAlive → (s.phase j').Between s.grpcAlive → j = j'
  named : ∀ j w, (s.phase j).named = some w → s.owner = some w
  vouched : ∀ j w, (s.phase j).vouched = some w → s.grpcAlive w = true
  missing : ∀ j, s.phase j = .missing → s.owner = s.roomWorkers
  alone : ∀ j, (s.phase j).Alone → ∀ j', j' ≠ j → (s.phase j').Idle

theorem Inv.agree (h : s.Inv) : s.Agree := fun j j' w w' hj hj' =>
  Option.some.inj ((h.named j w (congrArg JoinPhase.named hj)).symm.trans
    (h.named j' w' (congrArg JoinPhase.named hj')))

/-- Before anybody has joined. -/
theorem Inv.start (h : ∀ j, s.phase j = .start) : s.Inv where
  sole j _ hj := by rw [h j] at hj; exact hj.elim
  named j _ hj := by rw [h j] at hj; cases hj
  vouched j _ hj := by rw [h j] at hj; cases hj
  missing j hj := by rw [h j] at hj; cases hj
  alone j hj := by rw [h j] at hj; exact hj.elim

/-! ## One message -/

/-- **A message moves on.** -/
theorem Inv.move (h : s.Inv) {x : JoinPhase} (hphase : s'.phase = Function.update s.phase j x)
    (halive : s'.grpcAlive = s.grpcAlive)
    (hbetween : x.Between s.grpcAlive → ∀ j', j' ≠ j → ¬ (s.phase j').Between s.grpcAlive)
    (hnamed : ∀ w, x.named = some w → s'.owner = some w)
    (howner : s'.owner = s.owner ∨ ∀ j', j' ≠ j → (s.phase j').Idle)
    (hvouched : ∀ w, x.vouched = some w → s.grpcAlive w = true)
    (hmissing : x = .missing → s'.owner = s'.roomWorkers)
    (hroom : ∀ j', j' ≠ j → s.phase j' = .missing → s'.owner = s'.roomWorkers)
    (halone : x.Alone → ∀ j', j' ≠ j → (s.phase j').Idle)
    (hothers : ∀ j', j' ≠ j → ¬ (s.phase j').Alone) : s'.Inv := by
  have hself : s'.phase j = x := by rw [hphase, Function.update_self]
  have hother : ∀ j', j' ≠ j → s'.phase j' = s.phase j' := fun j' hne => by
    rw [hphase, Function.update_of_ne hne]
  refine ⟨fun i i' hi hi' => ?_, fun i w hi => ?_, fun i w hi => ?_, fun i hi => ?_,
    fun i hi i' hne => ?_⟩
  · rw [halive] at hi hi'
    by_cases hij : i = j <;> by_cases hij' : i' = j
    · rw [hij, hij']
    · rw [hij, hself] at hi
      rw [hother i' hij'] at hi'
      exact absurd hi' (hbetween hi i' hij')
    · rw [hij', hself] at hi'
      rw [hother i hij] at hi
      exact absurd hi (hbetween hi' i hij)
    · rw [hother i hij] at hi
      rw [hother i' hij'] at hi'
      exact h.sole i i' hi hi'
  · by_cases hij : i = j
    · rw [hij, hself] at hi
      exact hnamed w hi
    · rw [hother i hij] at hi
      rcases howner with hsame | hidle
      · rw [hsame]
        exact h.named i w hi
      · exact absurd (hidle i hij) (JoinPhase.not_idle_of_named hi)
  · rw [halive]
    by_cases hij : i = j
    · rw [hij, hself] at hi
      exact hvouched w hi
    · rw [hother i hij] at hi
      exact h.vouched i w hi
  · by_cases hij : i = j
    · rw [hij, hself] at hi
      exact hmissing hi
    · rw [hother i hij] at hi
      exact hroom i hij hi
  · by_cases hij : i = j
    · subst hij
      rw [hself] at hi
      rw [hother i' hne]
      exact halone hi i' hne
    · rw [hother i hij] at hi
      exact absurd hi (hothers i hij)

/-- While a message is about to replace the owner, no other is. -/
theorem Inv.others (h : s.Inv) {x : JoinPhase} (hphase : s.phase j = x)
    (hx : x.Between s.grpcAlive) :
    (∀ j', j' ≠ j → ¬ (s.phase j').Between s.grpcAlive) ∧ ∀ j', j' ≠ j → ¬ (s.phase j').Alone := by
  have hbetween : ∀ j', j' ≠ j → ¬ (s.phase j').Between s.grpcAlive := fun j' hne hj' =>
    hne (h.sole j' j hj' (hphase ▸ hx))
  exact ⟨hbetween, fun j' hne ha => hbetween j' hne (ha.between s.grpcAlive)⟩

/-- The write of `room_workers` does not change the owner. -/
theorem owner_workers (howner : s.owner = some w) : s.roomOwner.or (some w) = some w := by
  rcases Option.or_eq_some_iff.mp howner with hroom | ⟨hroom, -⟩ <;> rw [hroom] <;> rfl

theorem not_missing {x : JoinPhase} {alive : String → Bool} (h : ¬ x.Between alive) :
    x ≠ .missing := by
  rintro rfl
  exact h trivial

/-- A message that knows of no owner, and is not about to make one, has nothing in hand. -/
theorem idle_of_named {x : JoinPhase} {alive : String → Bool} (hn : x.named = none)
    (hb : ¬ x.Between alive) : x.Idle := by
  cases x <;> simp_all [JoinPhase.named, JoinPhase.Between, JoinPhase.Idle]

/-- A message that knows of a dead owner, and is not about to replace it, has nothing in hand. -/
theorem Inv.idle_of_dead (h : s.Inv) (howner : s.owner = some w) (hdead : s.grpcAlive w = false)
    (hb : ¬ (s.phase j).Between s.grpcAlive) : (s.phase j).Idle := by
  have hnamed := h.named j
  have hvouched := h.vouched j
  rw [howner] at hnamed
  cases hphase : s.phase j with
  | start => exact .inl rfl
  | failed => exact .inr rfl
  | resolved w' =>
    rw [hphase] at hnamed hb
    cases hnamed w' rfl
    exact absurd hdead hb
  | routed w' =>
    rw [hphase] at hnamed hvouched
    cases hnamed w' rfl
    rw [hvouched w rfl] at hdead
    cases hdead
  | _ =>
    rw [hphase] at hb
    exact absurd trivial hb

/-- **One command of a message keeps the invariant.** -/
theorem Inv.next (h : s.Inv) (hheed : s.Heeds (.join j)) : (s.next j).Inv := by
  have hmissing : ∀ j', j' ≠ j → s.phase j' = .missing → s.owner = s.roomWorkers :=
    fun j' _ => h.missing j'
  unfold Heeds at hheed
  dsimp only at hheed
  unfold Assignment.next
  cases hphase : s.phase j with
  | start =>
    rw [hphase] at hheed
    obtain ⟨hfree, hcache⟩ := hheed
    have hothers : ∀ j', j' ≠ j → ¬ (s.phase j').Alone := fun j' _ ha =>
      hfree j' (ha.between s.grpcAlive)
    dsimp only
    split
    · rename_i w _ hw
      exact h.move rfl rfl (fun _ j' _ => hfree j') (fun w' hw' => hcache w' (hw.trans hw'))
        (.inl rfl) nofun nofun hmissing nofun hothers
    · rename_i w hw hroom
      refine h.move rfl rfl (fun _ j' _ => hfree j') (fun w' hw' => ?_) (.inl rfl) nofun nofun
        hmissing nofun hothers
      change s.owner = some w'
      unfold owner
      rw [hroom]
      exact hw'
    · rename_i hw hroom
      refine h.move rfl rfl (fun _ j' _ => hfree j') nofun (.inl rfl) nofun (fun _ => ?_)
        hmissing nofun hothers
      change s.owner = s.roomWorkers
      unfold owner
      rw [hroom, Option.none_or]
  | missing =>
    obtain ⟨hbetween, hothers⟩ := h.others hphase trivial
    have howner := h.missing j hphase
    dsimp only
    split
    · rename_i w hw
      exact h.move rfl rfl (fun _ => hbetween) (fun w' hw' => howner.trans (hw.trans hw'))
        (.inl rfl) nofun nofun hmissing nofun hothers
    · rename_i hw
      refine h.move rfl rfl (fun _ => hbetween) nofun (.inl rfl) nofun nofun hmissing
        (fun _ j' hne => ?_) hothers
      refine idle_of_named ?_ (hbetween j' hne)
      cases hn : (s.phase j').named with
      | none => rfl
      | some w' =>
        have hsome := h.named j' w' hn
        rw [howner, hw] at hsome
        cases hsome
  | unowned =>
    obtain ⟨hbetween, hothers⟩ := h.others hphase trivial
    have hidle := h.alone j (by rw [hphase]; trivial)
    cases hhead : s.workerLoad.head? <;> simp only [Option.elim]
    · exact h.move rfl rfl (fun _ => hbetween) nofun (.inl rfl) nofun nofun hmissing nofun hothers
    · exact h.move rfl rfl (fun _ => hbetween) nofun (.inl rfl) nofun nofun hmissing
        (fun _ => hidle) hothers
  | chosen w =>
    obtain ⟨hbetween, hothers⟩ := h.others hphase trivial
    have hidle := h.alone j (by rw [hphase]; trivial)
    refine h.move rfl rfl (fun _ => hbetween) (fun w' hw' => hw') (.inr hidle) nofun nofun
      (fun j' hne hj' => absurd hj' (not_missing (hbetween j' hne))) nofun hothers
  | written w =>
    obtain ⟨hbetween, hothers⟩ := h.others hphase trivial
    have howner := h.named j w (by rw [hphase]; rfl)
    have hkeep := owner_workers howner
    refine h.move rfl rfl (fun _ => hbetween) (fun w' hw' => hkeep.trans hw')
      (.inl (hkeep.trans howner.symm)) nofun nofun
      (fun j' hne hj' => absurd hj' (not_missing (hbetween j' hne))) nofun hothers
  | resolved w =>
    rw [hphase] at hheed
    have hothers : ∀ j', j' ≠ j → ¬ (s.phase j').Alone := fun j' hne ha =>
      JoinPhase.not_idle_of_named (congrArg JoinPhase.named hphase) (h.alone j' ha j hne.symm)
    have howner := h.named j w (by rw [hphase]; rfl)
    dsimp only
    split
    · rename_i hlive
      have halive : s.grpcAlive w = true := by
        rcases (Bool.or_eq_true _ _).mp hlive with hcache | halive
        · exact hheed hcache
        · exact halive
      exact h.move rfl rfl nofun (fun w' hw' => howner.trans hw') (.inl rfl)
        (fun w' hw' => Option.some.inj hw' ▸ halive) nofun hmissing nofun hothers
    · rename_i hlive
      have hdead : s.grpcAlive w = false := by
        unfold isGRPCAlive at hlive
        simp only [Bool.not_eq_true, Bool.or_eq_false_iff] at hlive
        exact hlive.2
      have hbetween := (h.others hphase hdead).1
      exact h.move rfl rfl (fun _ => hbetween) nofun (.inl rfl) nofun nofun hmissing
        (fun _ j' hne => h.idle_of_dead howner hdead (hbetween j' hne)) hothers
  | dead w =>
    rw [hphase] at hheed
    obtain ⟨hbetween, hothers⟩ := h.others hphase trivial
    have hidle := h.alone j (by rw [hphase]; trivial)
    dsimp only
    cases hhead : s.workerLoad.head?.filter (· ≠ w) <;> simp only [Option.elim]
    · exact h.move rfl rfl (fun _ => hbetween) nofun (.inl rfl) nofun nofun hmissing nofun hothers
    · have halive := hheed _ (Option.filter_eq_some_iff.mp hhead).1
      exact h.move rfl rfl (fun _ => hbetween) nofun (.inl rfl)
        (fun w' hw' => Option.some.inj hw' ▸ halive) nofun hmissing (fun _ => hidle) hothers
  | rechosen w =>
    obtain ⟨hbetween, hothers⟩ := h.others hphase trivial
    have hidle := h.alone j (by rw [hphase]; trivial)
    have halive := h.vouched j w (by rw [hphase]; rfl)
    exact h.move rfl rfl (fun _ => hbetween) (fun w' hw' => hw') (.inr hidle)
      (fun w' hw' => Option.some.inj hw' ▸ halive) nofun
      (fun j' hne hj' => absurd hj' (not_missing (hbetween j' hne))) nofun hothers
  | rewritten w =>
    obtain ⟨hbetween, hothers⟩ := h.others hphase trivial
    have halive := h.vouched j w (by rw [hphase]; rfl)
    have howner := h.named j w (by rw [hphase]; rfl)
    have hkeep := owner_workers howner
    exact h.move rfl rfl nofun (fun w' hw' => hkeep.trans hw') (.inl (hkeep.trans howner.symm))
      (fun w' hw' => Option.some.inj hw' ▸ halive) nofun
      (fun j' hne hj' => absurd hj' (not_missing (hbetween j' hne))) nofun hothers
  | routed w => exact h
  | failed => exact h

/-! ## Runs -/

theorem between_of_starts {alive : String → Bool} {x : JoinPhase}
    (h : x.Between (Function.update alive w true)) : x.Between alive := by
  cases x with
  | resolved w' =>
    change Function.update alive w true w' = false at h
    rw [Function.update_apply] at h
    split_ifs at h
    exact h
  | _ => exact h

/-- A worker dies that no message has in hand. -/
theorem Inv.dies (h : s.Inv) (hheld : ∀ j, (s.phase j).held ≠ some w) :
    Inv { s with
      grpcAlive := Function.update s.grpcAlive w false } := by
  have hother : ∀ {j w'}, (s.phase j).held = some w' →
      Function.update s.grpcAlive w false w' = s.grpcAlive w' := fun {j w'} hj =>
    Function.update_of_ne (fun heq => hheld j (hj.trans (congrArg some heq))) _ _
  have hbetween : ∀ j, (s.phase j).Between (Function.update s.grpcAlive w false) →
      (s.phase j).Between s.grpcAlive := fun j hj => by
    cases hphase : s.phase j with
    | resolved w' =>
      rw [hphase] at hj
      change Function.update s.grpcAlive w false w' = false at hj
      rw [hother (j := j) (by rw [hphase]; rfl)] at hj
      exact hj
    | _ =>
      rw [hphase] at hj
      exact hj
  refine ⟨fun j j' hj hj' => h.sole j j' (hbetween j hj) (hbetween j' hj'), h.named,
    fun j w' hw' => ?_, h.missing, h.alone⟩
  refine (hother (j := j) ?_).trans (h.vouched j w' hw')
  cases hphase : s.phase j <;> rw [hphase] at hw' <;> cases hw' <;> rfl

/-- **Every step keeps the invariant.** -/
theorem Inv.step (h : s.Inv) (hstep : Step Heeds s s') : s'.Inv := by
  obtain ⟨a, hpossible, hheed, rfl⟩ := hstep
  cases a with
  | join j => exact h.next hheed
  | expireCache g => exact ⟨h.sole, h.named, h.vouched, h.missing, h.alone⟩
  | expireLive g w => exact ⟨h.sole, h.named, h.vouched, h.missing, h.alone⟩
  | rank l => exact ⟨h.sole, h.named, h.vouched, h.missing, h.alone⟩
  | expireOwner =>
    have howner : s.owner = s.roomWorkers := hheed
    exact ⟨h.sole, fun j w hw => howner.symm.trans (h.named j w hw), h.vouched, fun _ _ => rfl,
      h.alone⟩
  | starts w =>
    refine ⟨fun j j' hj hj' => h.sole j j' (between_of_starts hj)
      (between_of_starts hj'), h.named, fun j w' hw' => ?_, h.missing, h.alone⟩
    change Function.update s.grpcAlive w true w' = true
    rw [Function.update_apply, h.vouched j w' hw']
    exact ite_self _
  | dies w => exact h.dies hheed
  | registers w =>
    obtain ⟨j₀, hj₀⟩ := hpossible
    have howner := h.named j₀ w (by rw [hj₀]; rfl)
    exact ⟨h.sole, fun j w' hw' => howner.symm.trans (h.named j w' hw'), h.vouched, fun _ _ => rfl,
      h.alone⟩

/-- **All messages for the room go to the same worker**, whatever the owner, the caches and the
liveness keys were at first, in a run that heeds who else is about to replace the owner. -/
theorem agree_of_run {s₀ : Assignment} (h : Run Heeds s₀ s) (hstart : ∀ j, s₀.phase j = .start) :
    s.Agree := by
  have hinv : s.Inv := by
    induction h with
    | refl => exact .start hstart
    | tail _ hstep ih => exact ih.step hstep
  exact hinv.agree

theorem next_phase_of_ne {j' : Nat} (hne : j' ≠ j) : (s.next j).phase j' = s.phase j' := by
  unfold next
  repeat' split
  all_goals first | rfl | exact Function.update_of_ne hne _ _

/-- A message goes some commands further. -/
def joins (s : Assignment) (j : Nat) : Nat → Assignment
  | 0 => s
  | n + 1 => (s.next j).joins j n

theorem joins_phase_of_ne {j' : Nat} (hne : j' ≠ j) (s : Assignment) (n : Nat) :
    (s.joins j n).phase j' = s.phase j' := by
  induction n generalizing s with
  | zero => rfl
  | succ n ih => exact (ih (s.next j)).trans (next_phase_of_ne hne)

theorem run_joins {cond : Assignment → Action → Prop} (n : Nat)
    (h : ∀ k < n, cond (s.joins j k) (.join j)) : Run cond s (s.joins j n) := by
  induction n generalizing s with
  | zero => exact .refl
  | succ n ih =>
    exact .head ⟨.join j, trivial, h 0 (Nat.succ_pos n), rfl⟩
      (ih fun k hk => h (k + 1) (Nat.succ_lt_succ hk))

/-- Two workers are there, and the room has no owner. -/
def twoWorkers : Assignment where
  workerLoad := ["w1", "w2"]
  grpcAlive w := w = "w1" || w = "w2"

/-- One message after the other: both go to the worker that the first has chosen. -/
theorem agree_twoWorkers : ((twoWorkers.joins 0 7).joins 1 2).Agree ∧
    ((twoWorkers.joins 0 7).joins 1 2).phase 1 = .routed "w1" := by
  have hfirst : Run Heeds twoWorkers (twoWorkers.joins 0 7) := by
    refine run_joins 7 fun k hk => ?_
    rcases k with _ | _ | _ | _ | _ | _ | _ | k
    · exact ⟨fun j' hj' => hj', fun _ hw => by cases hw⟩
    · trivial
    · trivial
    · trivial
    · trivial
    · intro _
      rfl
    · trivial
    · omega
  have hsecond : Run Heeds (twoWorkers.joins 0 7) ((twoWorkers.joins 0 7).joins 1 2) := by
    refine run_joins 2 fun k hk => ?_
    rcases k with _ | _ | k
    · refine ⟨fun j' => ?_, fun _ hw => by cases hw⟩
      by_cases hj' : j' = 0
      · subst hj'
        exact id
      · rw [joins, joins_phase_of_ne hj']
        exact id
    · intro _
      rfl
    · omega
  exact ⟨agree_of_run (hfirst.trans hsecond) fun _ => rfl, by decide⟩

/-- Two gateways find no owner, and the first adds to the load of the worker that it chooses. -/
theorem agree_split : ¬ ∀ s, Run (fun _ _ => True) twoWorkers s → s.Agree := by
  intro h
  have hread : Run (fun _ _ => True) twoWorkers ((twoWorkers.joins 0 3).joins 1 2) :=
    (run_joins 3 fun _ _ => trivial).trans (run_joins 2 fun _ _ => trivial)
  have hrank := hread.tail ⟨.rank ["w2", "w1"], trivial, trivial, rfl⟩
  have hrouted := (hrank.trans (run_joins (j := 0) 4 fun _ _ => trivial)).trans
    (run_joins (j := 1) 5 fun _ _ => trivial)
  have hsame := h _ hrouted 0 1 "w1" "w2" (by decide) (by decide)
  exact absurd hsame (by decide)

end Assignment

end Skribbl.System
