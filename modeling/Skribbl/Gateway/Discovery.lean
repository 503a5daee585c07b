import Mathlib.Data.Rat.Defs
import Skribbl.Lib.TimedCache

/-!
# Service discovery (`gateway/resolver.go`, `backend/redis_pubsub.py`, `backend/grpc_registry.py`)

The workers keep their addresses and their liveness keys in Redis; the gateways read them through
caches.

* `Keys`, `Command` — what is in Redis about the workers, and the commands on it; a liveness key
  expires.  `reportWorkerLoad` and so on are the commands that a function sends.
* `addresses` — `WorkerResolver`: a call of `Resolve` begins, and if there is no entry under five
  seconds old it reads `worker_addresses` and enters the address; `Evict` and `StartCleanup` remove
  entries.
* `livenessKeys` — `isGRPCAlive` with its cache.

Principal results: `resolve_recent` — an address that `Resolve` returns was registered at most five
seconds before, and the delay of a lookup; `grpcAlive_recent` — a worker that `isGRPCAlive` finds
has beaten not much longer ago than thirty seconds; `cleanup_answers` — `StartCleanup` changes no
answer, if no lookup comes in between.
-/

set_option autoImplicit false

namespace Skribbl.Gateway

open TimedCache

/-! ## Redis -/

/-- `worker_alive:<ID>` and `worker_grpc_alive:<ID>`. -/
inductive LivenessKey where
  | worker
  | grpc
  deriving DecidableEq

/-- The keys about workers, by their ids.  A liveness key has the time when it expires; times are in
milliseconds. -/
structure Keys where
  workerAddresses : String → Option String := fun _ => none
  workerGrpcAddresses : String → Option String := fun _ => none
  workerLoad : String → Option ℚ := fun _ => none
  alive : LivenessKey → String → Option Nat := fun _ _ => none
  workerDraining : String → Option Nat := fun _ => none

/-- The commands. -/
inductive Command where
  | hsetAddress (id address : String)
  | hdelAddress (id : String)
  | hsetGrpcAddress (id address : String)
  | hdelGrpcAddress (id : String)
  | zaddLoad (id : String) (score : ℚ)
  | zremLoad (id : String)
  | setAlive (key : LivenessKey) (id : String)
  | delAlive (key : LivenessKey) (id : String)
  | setDraining (id : String)
  deriving DecidableEq

/-- `_GRPC_ALIVE_TTL`, which is also the time of `worker_alive`. -/
def ALIVE_TTL : Nat := 30000

/-- What a command does at a time. -/
def Command.apply (now : Nat) : Command → Keys → Keys
  | .hsetAddress id address, s =>
    { s with workerAddresses := Function.update s.workerAddresses id (some address) }
  | .hdelAddress id, s => { s with workerAddresses := Function.update s.workerAddresses id none }
  | .hsetGrpcAddress id address, s =>
    { s with workerGrpcAddresses := Function.update s.workerGrpcAddresses id (some address) }
  | .hdelGrpcAddress id, s =>
    { s with workerGrpcAddresses := Function.update s.workerGrpcAddresses id none }
  | .zaddLoad id score, s => { s with workerLoad := Function.update s.workerLoad id (some score) }
  | .zremLoad id, s => { s with workerLoad := Function.update s.workerLoad id none }
  | .setAlive key id, s =>
    { s with
      alive := Function.update s.alive key
        (Function.update (s.alive key) id (some (now + ALIVE_TTL))) }
  | .delAlive key id, s =>
    { s with alive := Function.update s.alive key (Function.update (s.alive key) id none) }
  | .setDraining id, s =>
    { s with workerDraining := Function.update s.workerDraining id (some (now + 60000)) }

/-- `register_worker_address`. -/
def registerWorkerAddress (id address : String) : List Command :=
  [.hsetAddress id address, .setAlive .worker id]

/-- `unregister_worker_address`. -/
def unregisterWorkerAddress (id : String) : List Command := [.hdelAddress id, .delAlive .worker id]

/-- `report_worker_load`, with the number of connections and the jitter as one score. -/
def reportWorkerLoad (id address : String) (score : ℚ) : List Command :=
  [.zaddLoad id score, .hsetAddress id address, .setAlive .worker id]

/-- `set_worker_draining`; the commands are sent concurrently. -/
def setWorkerDraining (id : String) : List Command :=
  unregisterWorkerAddress id ++ [.zremLoad id, .setDraining id]

/-- `register_grpc_worker`. -/
def registerGrpcWorker (id address : String) : List Command :=
  [.hsetGrpcAddress id address, .setAlive .grpc id]

/-- One turn of `_refresh_liveness_loop`. -/
def refreshLiveness (id : String) : List Command := [.setAlive .grpc id]

/-- `unregister_grpc_worker`. -/
def unregisterGrpcWorker (id : String) : List Command := [.hdelGrpcAddress id, .delAlive .grpc id]

/-- The commands of `CleanupDeadWorker`, which evicts the worker too. -/
def cleanupDeadWorker (id : String) : List Command := [.hdelAddress id, .zremLoad id]

/-- `EXISTS` of a liveness key. -/
def Keys.present (s : Keys) (now : Nat) (key : LivenessKey) (id : String) : Bool :=
  (s.alive key id).any fun deadline => now < deadline

/-! ## The caches of a gateway -/

/-- `worker_addresses` behind `WorkerResolver`. -/
def addresses : Source Keys Command String String where
  read s _ id := s.workerAddresses id
  write now c s := c.apply now s

/-- `worker_grpc_alive` behind `liveCache`: only that a worker is alive is cached. -/
def livenessKeys : Source Keys Command String Unit where
  read s now id := if s.present now .grpc id then some () else none
  write now c s := c.apply now s

/-- `WorkerResolver`, with its calls. -/
abbrev WorkerResolver := State Keys String String

/-- The cache of `isGRPCAlive`, with its calls. -/
abbrev LiveCache := State Keys String Unit

/-- `cacheTTL`. -/
def cacheTTL : Nat := 5000

/-- `pruneThreshold`. -/
def pruneThreshold : Nat := 2 * cacheTTL

/-- `liveCacheTTL`. -/
def liveCacheTTL : Nat := 5000

/-! ## Liveness -/

section Liveness

variable {V : Type} {src : Source Keys Command String V} {ttl keep : Nat} {s : State Keys String V}
  {key : LivenessKey} {id : String} {es es₁ es₂ : List (CacheEvent Command String)}
  {e : CacheEvent Command String}

/-- The step is a command about a liveness key. -/
def AboutAlive (key : LivenessKey) (id : String) (e : CacheEvent Command String) : Prop :=
  e = .write (.setAlive key id) ∨ e = .write (.delAlive key id)

/-- The last command about a liveness key in a run set it, at a time. -/
def LastSet (src : Source Keys Command String V) (ttl keep : Nat) (s : State Keys String V)
    (key : LivenessKey) (id : String) (es : List (CacheEvent Command String)) (t : Nat) : Prop :=
  ∃ es₁ es₂, es = es₁ ++ .write (.setAlive key id) :: es₂ ∧ (∀ e ∈ es₂, ¬AboutAlive key id e) ∧
    (s.run src ttl keep es₁).now = t

/-- Only the commands about a liveness key change it. -/
theorem apply_alive {c : Command} {now : Nat} (w : Keys)
    (h : ¬AboutAlive key id (.write c)) : (c.apply now w).alive key id = w.alive key id := by
  cases c with
  | setAlive key' id' | delAlive key' id' =>
    unfold Command.apply
    by_cases hkey : key = key'
    · subst hkey
      have hid : id ≠ id' := fun hid => by
        subst hid
        first
          | exact h (.inl rfl)
          | exact h (.inr rfl)
      simp only [Function.update_self, Function.update_of_ne hid]
    · simp only [Function.update_of_ne hkey]
  | _ => rfl

theorem lastSet_concat (h : ¬AboutAlive key id e) {t : Nat} :
    LastSet src ttl keep s key id (es ++ [e]) t ↔ LastSet src ttl keep s key id es t := by
  constructor
  · rintro ⟨es₁, es₂, heq, hquiet, ht⟩
    rcases List.eq_nil_or_concat es₂ with rfl | ⟨es₃, e', rfl⟩
    · have hlast := (List.append_inj' heq rfl).2
      exact absurd (.inl (List.cons.inj hlast).1) h
    · rw [List.concat_eq_append, ← List.cons_append, ← List.append_assoc] at heq
      refine ⟨es₁, es₃, (List.append_inj' heq rfl).1, fun e he => hquiet e ?_, ht⟩
      rw [List.concat_eq_append]
      exact List.mem_append_left _ he
  · rintro ⟨es₁, es₂, rfl, hquiet, ht⟩
    refine ⟨es₁, es₂ ++ [e], by rw [List.append_assoc, List.cons_append], fun e' he => ?_, ht⟩
    rcases List.mem_append.mp he with he | he
    · exact hquiet e' he
    · rwa [List.mem_singleton.mp he]

theorem lastSet_about (h : AboutAlive key id e) {t : Nat} :
    LastSet src ttl keep s key id (es ++ [e]) t ↔
      e = .write (.setAlive key id) ∧ (s.run src ttl keep es).now = t := by
  constructor
  · rintro ⟨es₁, es₂, heq, hquiet, ht⟩
    rcases List.eq_nil_or_concat es₂ with rfl | ⟨es₃, e', rfl⟩
    · obtain ⟨rfl, hlast⟩ := List.append_inj' heq rfl
      exact ⟨(List.cons.inj hlast).1, ht⟩
    · rw [List.concat_eq_append, ← List.cons_append, ← List.append_assoc] at heq
      have hlast := (List.cons.inj (List.append_inj' heq rfl).2).1
      refine absurd h (hquiet e ?_)
      rw [List.concat_eq_append, hlast]
      exact List.mem_append_right _ List.mem_cons_self
  · rintro ⟨rfl, ht⟩
    exact ⟨es, [], rfl, fun _ he => absurd he List.not_mem_nil, ht⟩

/-- A liveness key expires thirty seconds after it was set last. -/
theorem deadline_iff (hwrite : ∀ now c w, src.write now c w = Command.apply now c w)
    (hnone : s.store.alive key id = none) (es : List (CacheEvent Command String)) (deadline : Nat) :
    (s.run src ttl keep es).store.alive key id = some deadline ↔
      ∃ t, LastSet src ttl keep s key id es t ∧ deadline = t + ALIVE_TTL := by
  induction es using List.reverseRecOn with
  | nil =>
    refine iff_of_false (fun h => ?_) ?_
    · exact absurd (hnone.symm.trans h) (fun h => nomatch h)
    · rintro ⟨t, ⟨es₁, es₂, heq, -⟩, -⟩
      exact absurd heq.symm (List.append_ne_nil_of_right_ne_nil _ (List.cons_ne_nil _ _))
  | append_singleton es e ih =>
    rw [State.run_concat]
    by_cases habout : AboutAlive key id e
    · rcases habout with rfl | rfl
      · have hset :
            ((s.run src ttl keep es).step src ttl keep (.write (.setAlive key id))).1.store.alive
            key id = some ((s.run src ttl keep es).now + ALIVE_TTL) := by
          show (src.write _ _ _).alive key id = _
          rw [hwrite]
          simp only [Command.apply, Function.update_self]
        rw [hset, Option.some_inj]
        constructor
        · rintro rfl
          exact ⟨_, (lastSet_about (.inl rfl)).mpr ⟨rfl, rfl⟩, rfl⟩
        · rintro ⟨t, hlast, rfl⟩
          rw [((lastSet_about (.inl rfl)).mp hlast).2]
      · refine iff_of_false (fun h => ?_) ?_
        · change (src.write _ _ _).alive key id = _ at h
          rw [hwrite] at h
          simp only [Command.apply, Function.update_self] at h
          cases h
        · rintro ⟨t, hlast, -⟩
          exact absurd ((lastSet_about (.inr rfl)).mp hlast).1 (fun h => nomatch h)
    · have hsame : ((s.run src ttl keep es).step src ttl keep e).1.store.alive key id =
          (s.run src ttl keep es).store.alive key id := by
        rcases (s.run src ttl keep es).step_store e with h | ⟨c, rfl, h⟩
        · rw [h]
        · rw [h, hwrite, apply_alive _ habout]
      rw [hsame, ih]
      exact exists_congr fun t => and_congr_left fun _ => (lastSet_concat habout).symm

/-- A liveness key is there for thirty seconds after it was set last. -/
theorem present_iff (hwrite : ∀ now c w, src.write now c w = Command.apply now c w)
    (hnone : s.store.alive key id = none) (es : List (CacheEvent Command String)) :
    (s.run src ttl keep es).store.present (s.run src ttl keep es).now key id = true ↔
      ∃ t, LastSet src ttl keep s key id es t ∧ (s.run src ttl keep es).now < t + ALIVE_TTL := by
  unfold Keys.present
  rw [Option.any_eq_true_iff_get]
  constructor
  · rintro ⟨hsome, hlt⟩
    obtain ⟨deadline, hdeadline⟩ := Option.isSome_iff_exists.mp hsome
    obtain ⟨t, hlast, rfl⟩ := (deadline_iff hwrite hnone es deadline).mp hdeadline
    refine ⟨t, hlast, ?_⟩
    simpa [hdeadline] using hlt
  · rintro ⟨t, hlast, hlt⟩
    have hdeadline : (s.run src ttl keep es).store.alive key id = some (t + ALIVE_TTL) :=
      (deadline_iff hwrite hnone es _).mpr ⟨t, hlast, rfl⟩
    refine ⟨by rw [hdeadline]; rfl, ?_⟩
    simpa [hdeadline] using hlt

end Liveness

/-! ## Addresses -/

section Resolve

variable {w : Keys} {delay : Nat} {id address : String} {es es₁ es₂ :
    List (CacheEvent Command String)}
  {e : CacheEvent Command String}

/-- `WorkerResolver` when the gateway starts. -/
def NewWorkerResolver (w : Keys) : WorkerResolver := { store := w }

/-- It holds nothing. -/
theorem newWorkerResolver_sound (w : Keys) (delay : Nat) :
    (NewWorkerResolver w).Sound delay fun _ _ _ => False :=
  ⟨fun _ _ he => (nomatch he), fun _ _ _ _ hj => (nomatch hj)⟩

/-- **An address that `Resolve` returns was registered** at most five seconds before, and the delay
between reading and entering it. -/
theorem resolve_recent
    (hprompt : (NewWorkerResolver w).AllPrompt addresses cacheTTL pruneThreshold delay (es ++ [e]))
    (hanswer : (((NewWorkerResolver w).run addresses cacheTTL pruneThreshold es).step addresses
      cacheTTL pruneThreshold e).2 = some (id, some address)) :
    ∃ es₁, es₁ <+: es ∧
      ((NewWorkerResolver w).run addresses cacheTTL pruneThreshold es₁).store.workerAddresses id =
        some address ∧
      ((NewWorkerResolver w).run addresses cacheTTL pruneThreshold es).now ≤
        ((NewWorkerResolver w).run addresses cacheTTL pruneThreshold es₁).now + cacheTTL +
        delay := by
  obtain ⟨t, ⟨es₁, hle, rfl, hread⟩, hnow⟩ :=
    State.recent (newWorkerResolver_sound w delay) hprompt hanswer
  exact ⟨es₁, hle, hread, hnow⟩

/-- An address that is not there, and is not registered. -/
theorem unregistered_run {s : WorkerResolver} (hnone : s.store.workerAddresses id = none)
    (hquiet : ∀ address, CacheEvent.write (.hsetAddress id address) ∉ es) :
    (s.run addresses cacheTTL pruneThreshold es).store.workerAddresses id = none := by
  induction es generalizing s with
  | nil => exact hnone
  | cons e es ih =>
    refine ih ?_ fun address hmem => hquiet address (List.mem_cons_of_mem _ hmem)
    have hstore : (s.step addresses cacheTTL pruneThreshold e).1.store = s.store ∨
        ∃ c, e = .write c ∧
          (s.step addresses cacheTTL pruneThreshold e).1.store = c.apply s.now s.store :=
      s.step_store e
    rcases hstore with h | ⟨c, rfl, h⟩
    · rw [h, hnone]
    · rw [h]
      show (c.apply s.now s.store).workerAddresses id = none
      cases c with
      | hsetAddress id' address =>
        have hid : id ≠ id' := fun hid => hquiet address (hid ▸ List.mem_cons_self)
        exact (Function.update_of_ne hid _ _).trans hnone
      | hdelAddress id' =>
        unfold Command.apply
        by_cases hid : id = id'
        · rw [hid]
          exact Function.update_self ..
        · exact (Function.update_of_ne hid _ _).trans hnone
      | _ => exact hnone

/-- **A worker that has taken its address back is not resolved** any more, five seconds later and
the delay of a lookup. -/
theorem unregistered_unresolved
    (hprompt : (NewWorkerResolver w).AllPrompt addresses cacheTTL pruneThreshold delay
      ((es₁ ++ .write (.hdelAddress id) :: es₂) ++ [e]))
    (hquiet : ∀ address, CacheEvent.write (.hsetAddress id address) ∉ es₂)
    (hlate : ((NewWorkerResolver w).run addresses cacheTTL pruneThreshold es₁).now +
    cacheTTL + delay <
      ((NewWorkerResolver w).run addresses cacheTTL pruneThreshold
        (es₁ ++ .write (.hdelAddress id) :: es₂)).now) :
    (((NewWorkerResolver w).run addresses cacheTTL pruneThreshold
      (es₁ ++ .write (.hdelAddress id) :: es₂)).step addresses cacheTTL pruneThreshold e).2 ≠
        some (id, some address) := by
  intro hanswer
  obtain ⟨t, ⟨es₃, hle, rfl, hheld⟩, hnow⟩ :=
    State.recent (newWorkerResolver_sound w delay) hprompt hanswer
  have hdel : es₁ ++ [.write (.hdelAddress id)] <+: es₁ ++ .write (.hdelAddress id) :: es₂ :=
    ⟨es₂, by rw [List.append_assoc, List.singleton_append]⟩
  rcases List.prefix_or_prefix_of_prefix hle hdel with hbefore | hafter
  · have htime :
        ((NewWorkerResolver w).run addresses cacheTTL pruneThreshold es₃).now ≤
          ((NewWorkerResolver w).run addresses cacheTTL pruneThreshold
            (es₁ ++ [.write (.hdelAddress id)])).now :=
      State.now_le_of_prefix hbefore (NewWorkerResolver w)
    rw [State.run_concat] at htime
    exact absurd (Nat.le_trans hnow (Nat.add_le_add_right (Nat.add_le_add_right htime _) _))
      (Nat.not_le_of_lt hlate)
  · obtain ⟨es₄, rfl⟩ := hafter
    have hsub : es₄ <+: es₂ := by
      rw [List.append_assoc, List.singleton_append, List.prefix_append_right_inj,
        List.cons_prefix_cons] at hle
      exact hle.2
    change ((NewWorkerResolver w).run addresses cacheTTL pruneThreshold
      _).store.workerAddresses id =
      some address at hheld
    rw [State.run_append, unregistered_run ?_ fun address hmem =>
      hquiet address (hsub.subset hmem)] at hheld
    · cases hheld
    · rw [State.run_concat]
      exact Function.update_self ..

/-- A worker registers and unregisters; a lookup reads its address before and enters it
afterwards. -/
def overtaken : List (CacheEvent Command String) × List (CacheEvent Command String) :=
  ((registerWorkerAddress "w" "app:8000").map .write ++ [.begin 0 "w", .fetch 0, .tick 20],
    [.write (.delAlive .worker "w"), .tick 10, .enter 0, .tick 5021])

/-- Then the address is returned for another five seconds, but not any longer. -/
theorem overtaken_unresolved :
    (((NewWorkerResolver {}).run addresses cacheTTL pruneThreshold
      (overtaken.1 ++ .write (.hdelAddress "w") :: overtaken.2)).step addresses cacheTTL
        pruneThreshold (.begin 1 "w")).2 ≠ some ("w", some "app:8000") := by
  have hquiet : ∀ address, CacheEvent.write (.hsetAddress "w" address) ∉ overtaken.2 := by
    intro address h
    simp [overtaken] at h
  have hprompt : (NewWorkerResolver {}).AllPrompt addresses cacheTTL pruneThreshold 30
      ((overtaken.1 ++ .write (.hdelAddress "w") :: overtaken.2) ++ [.begin 1 "w"]) := by
    refine ⟨trivial, trivial, trivial, trivial, trivial, trivial, trivial, trivial,
      fun k v t h => ?_,
      trivial, trivial, trivial⟩
    cases h
    decide
  exact unregistered_unresolved hprompt hquiet (by decide)

/-- A lookup of an address that is there. -/
theorem resolve_recent_cached :
    ∃ es₁, es₁ <+: overtaken.1 ++ .write (.hdelAddress "w") :: overtaken.2.take 3 ∧
      ((NewWorkerResolver {}).run addresses cacheTTL pruneThreshold es₁).store.workerAddresses "w" =
        some "app:8000" ∧
      ((NewWorkerResolver {}).run addresses cacheTTL pruneThreshold
          (overtaken.1 ++ .write (.hdelAddress "w") :: overtaken.2.take 3)).now ≤
        ((NewWorkerResolver {}).run addresses cacheTTL pruneThreshold es₁).now + cacheTTL + 30 := by
  refine resolve_recent (e := .begin 1 "w") ?_ rfl
  refine ⟨trivial, trivial, trivial, trivial, trivial, trivial, trivial, trivial, fun k v t h => ?_,
    trivial, trivial⟩
  cases h
  decide

/-- **`StartCleanup` changes no answer**, if no lookup enters an address between its look at the old
entry of the worker and its `Delete`. -/
theorem cleanup_answers (w : Keys) {es : List (CacheEvent Command String)}
    (hcalm : (NewWorkerResolver w).AllCalm addresses cacheTTL pruneThreshold es) :
    (NewWorkerResolver w).answers addresses cacheTTL pruneThreshold es =
      (NewWorkerResolver w).answers addresses cacheTTL pruneThreshold
        (es.filter fun e => !e.isPrune) :=
  State.answers_prune (by decide) rfl hcalm

/-- A lookup enters an address; after eleven seconds `StartCleanup` comes, and the next lookup finds
the new address of the worker. -/
def outdated : List (CacheEvent Command String) :=
  (registerWorkerAddress "w" "app:8000").map .write ++ [.begin 0 "w", .fetch 0, .enter 0,
    .tick 11000, .prune "w", .write (.hsetAddress "w" "app:9000"), .remove, .begin 1 "w", .fetch 1,
    .enter 1]

theorem cleanup_outdated :
    (NewWorkerResolver {}).answers addresses cacheTTL pruneThreshold outdated =
      [("w", some "app:8000"), ("w", some "app:9000")] ∧
    (NewWorkerResolver {}).answers addresses cacheTTL pruneThreshold outdated =
      (NewWorkerResolver {}).answers addresses cacheTTL pruneThreshold
        (outdated.filter fun e => !e.isPrune) := by
  refine ⟨by decide, cleanup_answers {} ?_⟩
  refine ⟨trivial, trivial, trivial, trivial, fun _ _ _ _ => nofun, trivial, trivial, trivial,
    trivial, trivial, trivial, fun _ _ _ _ => nofun, trivial⟩

-- a fresh entry is removed if it comes in between, and Redis may answer otherwise by then
example :
    let es : List (CacheEvent Command String) :=
      (registerWorkerAddress "w" "app:8000").map .write ++
      [.begin 0 "w", .fetch 0, .enter 0, .tick 11000, .begin 0 "w", .fetch 0, .prune "w", .enter 0,
        .remove, .write (.hdelAddress "w"), .begin 1 "w", .fetch 1]
    (NewWorkerResolver {}).answers addresses cacheTTL pruneThreshold es =
        [("w", some "app:8000"), ("w", some "app:8000"), ("w", none)] ∧
      (NewWorkerResolver {}).answers addresses cacheTTL pruneThreshold
          (es.filter fun e => !e.isPrune) =
        [("w", some "app:8000"), ("w", some "app:8000"), ("w", some "app:8000")] := by
  decide

end Resolve

/-! ## Workers with gRPC -/

section Grpc

variable {w : Keys} {delay keep : Nat} {id : String} {es : List (CacheEvent Command String)}
  {e : CacheEvent Command String}

/-- The cache of `isGRPCAlive` when the gateway starts. -/
def NewLiveCache (w : Keys) : LiveCache := { store := w }

/-- **A worker that `isGRPCAlive` finds has set its key** less than thirty seconds before, and five
for the cache and the delay of a lookup. -/
theorem grpcAlive_recent (hnone : w.alive .grpc id = none)
    (hprompt : (NewLiveCache w).AllPrompt livenessKeys liveCacheTTL keep delay (es ++ [e]))
    (hanswer :
    (((NewLiveCache w).run livenessKeys liveCacheTTL keep es).step livenessKeys liveCacheTTL
      keep e).2 = some (id, some ())) :
    ∃ es₁, es₁ ++ [.write (.setAlive .grpc id)] <+: es ∧
      ((NewLiveCache w).run livenessKeys liveCacheTTL keep es).now <
        ((NewLiveCache w).run livenessKeys liveCacheTTL keep es₁).now + ALIVE_TTL + liveCacheTTL +
          delay := by
  have hsound : (NewLiveCache w).Sound delay fun _ _ _ => False :=
    ⟨fun _ _ he => (nomatch he), fun _ _ _ _ hj => (nomatch hj)⟩
  obtain ⟨t, ⟨es₁, hle, rfl, hread⟩, hnow⟩ := State.recent hsound hprompt hanswer
  have hpresent : ((NewLiveCache w).run livenessKeys liveCacheTTL keep es₁).store.present
      ((NewLiveCache w).run livenessKeys liveCacheTTL keep es₁).now .grpc id = true := by
    by_contra hne
    exact absurd ((if_neg hne).symm.trans hread) (fun h => nomatch h)
  obtain ⟨t, ⟨es₂, es₃, rfl, -, rfl⟩, hlt⟩ := (present_iff (fun _ _ _ => rfl) hnone es₁).mp hpresent
  refine ⟨es₂, List.IsPrefix.trans ⟨es₃, ?_⟩ hle, by omega⟩
  rw [List.append_assoc, List.singleton_append]

/-- A worker registers, and 29 seconds later it is looked up. -/
def registeredThen : List (CacheEvent Command String) :=
  (registerGrpcWorker "w" "app:50051").map .write ++ [.tick 29000, .begin 0 "w", .fetch 0]

theorem grpcAlive_registered :
    ∃ es₁, es₁ ++ [.write (.setAlive .grpc "w")] <+: registeredThen ∧
      ((NewLiveCache {}).run livenessKeys liveCacheTTL 0 registeredThen).now <
        ((NewLiveCache {}).run livenessKeys liveCacheTTL 0 es₁).now + ALIVE_TTL +
        liveCacheTTL + 0 := by
  refine grpcAlive_recent (e := .enter 0) rfl ?_ rfl
  refine ⟨trivial, trivial, trivial, trivial, trivial, fun k v t h => ?_, trivial⟩
  cases h
  decide

end Grpc

end Skribbl.Gateway
