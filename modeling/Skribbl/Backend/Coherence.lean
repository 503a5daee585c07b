import Skribbl.Backend.Capacity

/-!
# The indexes of a worker

* `Registry.Coherent` — each room has its players once, `players_by_id` has the same, and
  `_player_to_room` sends the players of each registered room, and for rooms of this worker nobody
  else, to its code.

Principal result: `coherent_of_run` — so it is whenever no coroutine is running.
-/

set_option autoImplicit false
set_option synthInstance.maxSize 100000

namespace Skribbl.Backend

open Coro

/-! ## Coherence -/

namespace Registry

variable {g g' g₀ : Registry} {r r' : RoomId} {p q : PlayerId} {code : String}

/-- The indexes agree with the rooms. -/
structure Coherent (g : Registry) : Prop where
  keys : (g.rooms.map (·.1)).Nodup
  codes : ∀ x ∈ g.rooms, x.2 < g.nextRoom ∧ g.code x.2 = x.1
  nodup : ∀ r, (g.players r).Nodup
  nodupIds : ∀ r, (g.playersById r).Nodup
  byId : ∀ r p, p ∈ g.playersById r ↔ p ∈ g.players r
  known : ∀ r p, p ∈ g.players r → g.Known p
  home : ∀ r r' p, p ∈ g.players r → p ∈ g.players r' → r = r'
  exist : ∀ r, g.nextRoom ≤ r → g.players r = []
  index : ∀ x ∈ g.rooms, ∀ p ∈ g.players x.2, g.playerToRoom p = some x.1
  back : ∀ p code, g.playerToRoom p = some code →
    ∃ r < g.nextRoom, g.code r = code ∧ (p ∈ g.players r ∨ g.isProxy r = true)
  unique : ∀ x ∈ g.rooms, g.isProxy x.2 = false → ∀ r < g.nextRoom, g.code r = x.1 → r = x.2

/-- No player that was known has come into a room, and rooms keep their codes. -/
structure Shrinks (g g' : Registry) : Prop where
  nextRoom : g.nextRoom ≤ g'.nextRoom
  nextUuid : g.nextUuid ≤ g'.nextUuid
  code : ∀ r < g.nextRoom, g'.code r = g.code r
  players : ∀ r p, g.Known p → p ∈ g'.players r → p ∈ g.players r

theorem Shrinks.refl (g : Registry) : g.Shrinks g :=
  ⟨le_rfl, le_rfl, fun _ _ => rfl, fun _ _ _ h => h⟩

theorem Shrinks.trans (h : g₀.Shrinks g) (h' : g.Shrinks g') : g₀.Shrinks g' where
  nextRoom := h.nextRoom.trans h'.nextRoom
  nextUuid := h.nextUuid.trans h'.nextUuid
  code r hr := (h'.code r (hr.trans_le h.nextRoom)).trans (h.code r hr)
  players r p hp hmem := h.players r p hp (h'.players r p (hp.mono h.nextUuid) hmem)

/-- The registered room of a code is unique. -/
theorem Coherent.room_unique {x y : String × RoomId} (h : g.Coherent) (hx : x ∈ g.rooms)
    (hy : y ∈ g.rooms) (hcode : x.1 = y.1) : x = y :=
  List.inj_on_of_nodup_map h.keys hx hy hcode

/-- **The index is right** for the rooms of this worker. -/
theorem Coherent.index_iff (h : g.Coherent) {x : String × RoomId} (hx : x ∈ g.rooms)
    (hown : g.isProxy x.2 = false) : g.playerToRoom p = some x.1 ↔ p ∈ g.players x.2 := by
  refine ⟨fun hp => ?_, h.index x hx p⟩
  obtain ⟨r, hr, hcode, hmem⟩ := h.back p x.1 hp
  obtain rfl : r = x.2 := h.unique x hx hown r hr hcode
  rcases hmem with hmem | hproxy
  · exact hmem
  · simp [hown] at hproxy

/-- The player is in no other room than `r`. -/
structure Home (r : RoomId) (p : PlayerId) (g : Registry) : Prop where
  known : g.Known p
  only : ∀ r', p ∈ g.players r' → r' = r

theorem Coherent.home_of_mem (h : g.Coherent) (hp : p ∈ g.players r) : g.Home r p :=
  ⟨h.known r p hp, fun r' hp' => h.home r' r p hp' hp⟩

/-- So it stays. -/
theorem Home.later (h : Home r p g) (hg : g.Shrinks g') : Home r p g' :=
  ⟨h.known.mono hg.nextUuid, fun r' hp => h.only r' (hg.players r' p h.known hp)⟩

/-- All rooms with the player have the code. -/
structure AtCode (code : String) (p : PlayerId) (g : Registry) : Prop where
  known : g.Known p
  only : ∀ r, p ∈ g.players r → r < g.nextRoom ∧ g.code r = code

/-- So it stays. -/
theorem AtCode.later (h : AtCode code p g) (hg : g.Shrinks g') : AtCode code p g' := by
  refine ⟨h.known.mono hg.nextUuid, fun r hp => ?_⟩
  obtain ⟨hr, hc⟩ := h.only r (hg.players r p h.known hp)
  exact ⟨hr.trans_le hg.nextRoom, (hg.code r hr).trans hc⟩

/-! ### The changes of a registry -/

/-- A room that is not registered yet, without players. -/
def newRoom (g : Registry) (code : String) (isProxy : Bool) : Registry :=
  { g with
    nextRoom := g.nextRoom + 1
    code := Function.update g.code g.nextRoom code
    isProxy := Function.update g.isProxy g.nextRoom isProxy
    players := Function.update g.players g.nextRoom []
    playersById := Function.update g.playersById g.nextRoom []
    roomJoins := Function.update g.roomJoins g.nextRoom []
    roomRoles := Function.update g.roomRoles g.nextRoom [] }

/-- A new player comes into the room `r`. -/
def enroll (g : Registry) (r : RoomId) (code : String) : Registry :=
  { g with
    nextUuid := g.nextUuid + 1
    players := Function.update g.players r (g.players r ++ [.uuid g.nextUuid])
    playersById := Function.update g.playersById r
      ((g.playersById r).filter (· ≠ .uuid g.nextUuid) ++ [.uuid g.nextUuid])
    playerToRoom := Function.update g.playerToRoom (.uuid g.nextUuid) (some code) }

/-- A player goes. -/
def drop (g : Registry) (r : RoomId) (p : PlayerId) : Registry :=
  { g with
    players := Function.update g.players r ((g.players r).filter (· ≠ p))
    playersById := Function.update g.playersById r ((g.playersById r).filter (· ≠ p))
    playerToRoom := Function.update g.playerToRoom p none }

/-- A new id is in no room. -/
theorem Coherent.fresh (h : g.Coherent) (r : RoomId) : Ident.uuid g.nextUuid ∉ g.players r := by
  intro hp
  exact g.not_known (h.known r _ hp)

theorem Coherent.newRoom (h : g.Coherent) (hcode : code ∉ g.rooms.map (·.1)) (isProxy : Bool) :
    (g.newRoom code isProxy).Coherent := by
  have hne : ∀ x ∈ g.rooms, x.2 ≠ g.nextRoom := fun x hx => (h.codes x hx).1.ne
  have hplayers : ∀ r p, p ∈ (g.newRoom code isProxy).players r ↔ p ∈ g.players r := by
    intro r p
    by_cases hr : r = g.nextRoom
    · subst hr
      simp [Registry.newRoom, h.exist _ le_rfl]
    · simp [Registry.newRoom, Function.update_of_ne hr]
  have hids : ∀ r p, p ∈ (g.newRoom code isProxy).playersById r ↔ p ∈ g.playersById r := by
    intro r p
    by_cases hr : r = g.nextRoom
    · subst hr
      simp [Registry.newRoom, h.byId, h.exist _ le_rfl]
    · simp [Registry.newRoom, Function.update_of_ne hr]
  refine ⟨h.keys, fun x hx => ?_, fun r => ?_, fun r => ?_, fun r p => ?_, fun r p hp => ?_,
    fun r r' p hp hp' => ?_, fun r hr => ?_, fun x hx p hp => ?_, fun p c hp => ?_,
    fun x hx hown r hr hc => ?_⟩
  · obtain ⟨hlt, hc⟩ := h.codes x hx
    exact ⟨Nat.lt_succ_of_lt hlt,
      by simpa [Registry.newRoom, Function.update_of_ne (hne x hx)] using hc⟩
  · by_cases hr : r = g.nextRoom
    · simp [Registry.newRoom, hr]
    · simpa [Registry.newRoom, Function.update_of_ne hr] using h.nodup r
  · by_cases hr : r = g.nextRoom
    · simp [Registry.newRoom, hr]
    · simpa [Registry.newRoom, Function.update_of_ne hr] using h.nodupIds r
  · rw [hplayers, hids, h.byId]
  · exact h.known r p ((hplayers r p).mp hp)
  · exact h.home r r' p ((hplayers r p).mp hp) ((hplayers r' p).mp hp')
  · have hr : g.nextRoom + 1 ≤ r := hr
    have hne : r ≠ g.nextRoom := by omega
    simpa [Registry.newRoom, Function.update_of_ne hne] using h.exist r (by omega)
  · exact h.index x hx p ((hplayers x.2 p).mp hp)
  · obtain ⟨r, hr, hc, hmem⟩ := h.back p c hp
    refine ⟨r, Nat.lt_succ_of_lt hr, ?_⟩
    rw [hplayers]
    simpa [Registry.newRoom, Function.update_of_ne hr.ne] using ⟨hc, hmem⟩
  · have hown : g.isProxy x.2 = false := by
      simpa [Registry.newRoom, Function.update_of_ne (hne x hx)] using hown
    by_cases hlast : r = g.nextRoom
    · subst hlast
      have hc : code = x.1 := by simpa [Registry.newRoom] using hc
      exact absurd (List.mem_map_of_mem hx) (hc ▸ hcode)
    · have hc : g.code r = x.1 := by
        simpa [Registry.newRoom, Function.update_of_ne hlast] using hc
      exact h.unique x hx hown r (Nat.lt_of_le_of_ne (Nat.le_of_lt_succ hr) hlast) hc

theorem Coherent.enroll (h : g.Coherent) (hr : r < g.nextRoom) (hcode : g.code r = code) :
    (g.enroll r code).Coherent := by
  have hplayers : ∀ r' p, p ∈ (g.enroll r code).players r' ↔
      p ∈ g.players r' ∨ r' = r ∧ p = .uuid g.nextUuid := by
    intro r' p
    by_cases hne : r' = r
    · subst hne
      simp [Registry.enroll]
    · simp [Registry.enroll, hne]
  have hold : ∀ p, (∃ r, p ∈ g.players r) → p ≠ .uuid g.nextUuid := by
    rintro p ⟨r, hp⟩ rfl
    exact h.fresh r hp
  refine ⟨h.keys, h.codes, fun r' => ?_, fun r' => ?_, fun r' p => ?_, fun r' p hp => ?_,
    fun r₁ r₂ p hp₁ hp₂ => ?_, fun r' hr' => ?_, fun x hx p hp => ?_, fun p c hp => ?_, h.unique⟩
  · by_cases hne : r' = r
    · subst hne
      have hnew := h.fresh r'
      simpa [Registry.enroll] using (h.nodup r').append (List.nodup_singleton _)
          (by simpa using hnew)
    · simpa [Registry.enroll, Function.update_of_ne hne] using h.nodup r'
  · by_cases hne : r' = r
    · subst hne
      simpa [Registry.enroll] using
        ((h.nodupIds r').filter _).append (List.nodup_singleton _) (by simp)
    · simpa [Registry.enroll, Function.update_of_ne hne] using h.nodupIds r'
  · rw [hplayers]
    by_cases hne : r' = r
    · subst hne
      by_cases hp : p = .uuid g.nextUuid
      · simp [Registry.enroll, hp]
      · simp [Registry.enroll, hp, h.byId]
    · simp [Registry.enroll, hne, h.byId]
  · rcases (hplayers r' p).mp hp with hp | ⟨-, rfl⟩
    · exact (h.known r' p hp).mono (Nat.le_succ _)
    · exact ⟨g.nextUuid, Nat.lt_succ_self _, rfl⟩
  · rcases (hplayers r₁ p).mp hp₁ with hp₁ | ⟨h₁, rfl⟩
    · rcases (hplayers r₂ p).mp hp₂ with hp₂ | ⟨-, rfl⟩
      · exact h.home r₁ r₂ p hp₁ hp₂
      · exact absurd rfl (hold _ ⟨r₁, hp₁⟩)
    · rcases (hplayers r₂ _).mp hp₂ with hp₂ | ⟨h₂, -⟩
      · exact absurd rfl (hold _ ⟨r₂, hp₂⟩)
      · rw [h₁, h₂]
  · have hr' : g.nextRoom ≤ r' := hr'
    have hne : r' ≠ r := (Nat.lt_of_lt_of_le hr hr').ne'
    simpa [Registry.enroll, Function.update_of_ne hne] using h.exist r' hr'
  · rcases (hplayers x.2 p).mp hp with hp | ⟨hx', rfl⟩
    · have hne := hold p ⟨_, hp⟩
      simpa [Registry.enroll, Function.update_of_ne hne] using h.index x hx p hp
    · have hc := (h.codes x hx).2
      rw [hx', hcode] at hc
      simp [Registry.enroll, hc]
  · by_cases hnew : p = .uuid g.nextUuid
    · subst hnew
      have hc : code = c := by simpa [Registry.enroll] using hp
      exact ⟨r, hr, hcode.trans hc, .inl ((hplayers r _).mpr (.inr ⟨rfl, rfl⟩))⟩
    · have hp : g.playerToRoom p = some c := by
        simpa [Registry.enroll, Function.update_of_ne hnew] using hp
      obtain ⟨r', hr', hc, hmem⟩ := h.back p c hp
      exact ⟨r', hr', hc, hmem.imp_left fun hmem => (hplayers r' p).mpr (.inl hmem)⟩

theorem Coherent.drop (h : g.Coherent) (hp : ∀ x ∈ g.rooms, p ∈ g.players x.2 → x.2 = r) :
    (g.drop r p).Coherent := by
  have hplayers : ∀ r' q, q ∈ (g.drop r p).players r' ↔ q ∈ g.players r' ∧ (r' = r → q ≠ p) := by
    intro r' q
    by_cases hne : r' = r
    · subst hne
      simp [Registry.drop]
    · simp [Registry.drop, hne]
  refine ⟨h.keys, h.codes, fun r' => ?_, fun r' => ?_, fun r' q => ?_, fun r' q hq => ?_,
    fun r₁ r₂ q hq₁ hq₂ => ?_, fun r' hr' => ?_, fun x hx q hq => ?_, fun q c hq => ?_, h.unique⟩
  · by_cases hne : r' = r
    · subst hne
      simpa [Registry.drop] using (h.nodup r').filter _
    · simpa [Registry.drop, Function.update_of_ne hne] using h.nodup r'
  · by_cases hne : r' = r
    · subst hne
      simpa [Registry.drop] using (h.nodupIds r').filter _
    · simpa [Registry.drop, Function.update_of_ne hne] using h.nodupIds r'
  · rw [hplayers]
    by_cases hne : r' = r
    · subst hne
      simp [Registry.drop, h.byId]
    · simp [Registry.drop, hne, h.byId]
  · exact h.known r' q ((hplayers r' q).mp hq).1
  · exact h.home r₁ r₂ q ((hplayers r₁ q).mp hq₁).1 ((hplayers r₂ q).mp hq₂).1
  · by_cases hne : r' = r
    · subst hne
      simp [Registry.drop, h.exist r' hr']
    · simpa [Registry.drop, Function.update_of_ne hne] using h.exist r' hr'
  · obtain ⟨hmem, hqp⟩ := (hplayers x.2 q).mp hq
    have hne : q ≠ p := fun heq => hqp (hp x hx (heq ▸ hmem)) heq
    simpa [Registry.drop, Function.update_of_ne hne] using h.index x hx q hmem
  · have hne : q ≠ p := by
      rintro rfl
      simp [Registry.drop] at hq
    have hq : g.playerToRoom q = some c := by
      simpa [Registry.drop, Function.update_of_ne hne] using hq
    obtain ⟨r', hr', hc, hmem⟩ := h.back q c hq
    exact ⟨r', hr', hc, hmem.imp_left fun hmem => (hplayers r' q).mpr ⟨hmem, fun _ => hne⟩⟩

/-- A room is registered. -/
theorem Coherent.register (h : g.Coherent) (hr : r < g.nextRoom)
    (hcode : g.code r ∉ g.rooms.map (·.1))
    (hindex : ∀ p ∈ g.players r, g.playerToRoom p = some (g.code r))
    (hunique : g.isProxy r = false → ∀ r' < g.nextRoom, g.code r' = g.code r → r' = r) :
    Coherent { g with rooms := g.rooms ++ [(g.code r, r)] } := by
  have hmem : ∀ x ∈ g.rooms ++ [(g.code r, r)], x ∈ g.rooms ∨ x = (g.code r, r) := by simp
  refine ⟨?_, fun x hx => ?_, h.nodup, h.nodupIds, h.byId, h.known, h.home, h.exist,
    fun x hx => ?_, h.back, fun x hx hown => ?_⟩
  · rw [List.map_append]
    exact h.keys.append (List.nodup_singleton _) (by simpa using hcode)
  · rcases hmem x hx with hx | rfl
    · exact h.codes x hx
    · exact ⟨hr, rfl⟩
  · rcases hmem x hx with hx | rfl
    · exact h.index x hx
    · exact hindex
  · rcases hmem x hx with hx | rfl
    · exact h.unique x hx hown
    · exact hunique hown

/-- Rooms are no longer registered. -/
theorem Coherent.unregister (h : g.Coherent) (f : String × RoomId → Bool) :
    Coherent { g with rooms := g.rooms.filter f } := by
  have hmem : ∀ x ∈ g.rooms.filter f, x ∈ g.rooms := fun x hx => (List.mem_filter.mp hx).1
  exact ⟨h.keys.sublist (List.filter_sublist.map _), fun x hx => h.codes x (hmem x hx), h.nodup,
    h.nodupIds, h.byId, h.known, h.home, h.exist, fun x hx => h.index x (hmem x hx), h.back,
    fun x hx => h.unique x (hmem x hx)⟩

/-- Players of a room that is not registered lose their entry. -/
theorem Coherent.forget (h : g.Coherent) (hp : ∀ x ∈ g.rooms, p ∉ g.players x.2) :
    Coherent { g with playerToRoom := Function.update g.playerToRoom p none } := by
  refine ⟨h.keys, h.codes, h.nodup, h.nodupIds, h.byId, h.known, h.home, h.exist,
    fun x hx q hq => ?_, fun q c hq => ?_, h.unique⟩
  · have hne : q ≠ p := by
      rintro rfl
      exact hp x hx hq
    simpa [Function.update_of_ne hne] using h.index x hx q hq
  · by_cases hne : q = p
    · simp [hne] at hq
    · exact h.back q c (by simpa [Function.update_of_ne hne] using hq)

/-- More ids are made up. -/
theorem Coherent.newUuid (h : g.Coherent) : Coherent { g with nextUuid := g.nextUuid + 1 } :=
  ⟨h.keys, h.codes, h.nodup, h.nodupIds, h.byId,
    fun r p hp => (h.known r p hp).mono (Nat.le_succ _),
    h.home, h.exist, h.index, h.back, h.unique⟩

theorem Shrinks.newRoom (h : g₀.Shrinks g) (code : String) (isProxy : Bool) :
    g₀.Shrinks (g.newRoom code isProxy) := by
  refine ⟨h.nextRoom.trans (Nat.le_succ _), h.nextUuid, fun r hr => ?_, fun r p hp hmem => ?_⟩
  · have hne : r ≠ g.nextRoom := (hr.trans_le h.nextRoom).ne
    simpa [Registry.newRoom, Function.update_of_ne hne] using h.code r hr
  by_cases hr : r = g.nextRoom
  · simp [Registry.newRoom, hr] at hmem
  · exact h.players r p hp (by simpa [Registry.newRoom, Function.update_of_ne hr] using hmem)

theorem Shrinks.enroll (h : g₀.Shrinks g) (r : RoomId) (code : String) :
    g₀.Shrinks (g.enroll r code) := by
  refine ⟨h.nextRoom, h.nextUuid.trans (Nat.le_succ _), h.code, fun r' p hp hmem => ?_⟩
  have hne : p ≠ .uuid g.nextUuid := by
    rintro rfl
    exact g.not_known (hp.mono h.nextUuid)
  by_cases hr : r' = r
  · subst hr
    exact h.players r' p hp (by simpa [Registry.enroll, hne] using hmem)
  · exact h.players r' p hp (by simpa [Registry.enroll, Function.update_of_ne hr] using hmem)

theorem Shrinks.drop (h : g₀.Shrinks g) : g₀.Shrinks (g.drop r p) := by
  refine ⟨h.nextRoom, h.nextUuid, h.code, fun r' q hq hmem => ?_⟩
  by_cases hr : r' = r
  · subst hr
    have hmem : q ∈ g.players r' ∧ q ≠ p := by simpa [Registry.drop] using hmem
    exact h.players r' q hq hmem.1
  · exact h.players r' q hq (by simpa [Registry.drop, Function.update_of_ne hr] using hmem)

end Registry

/-! ## Guarantees about the registry -/

section Lookups

variable {Γ : Guarantee World Mark} {w₀ w w' : World} {r : RoomId} {p : PlayerId} {code : String}

/-- A guarantee about coherent registries. -/
class OnRegistry (Γ : Guarantee World Mark) : Prop where
  inv : ∀ {w w'}, w'.registry = w.registry → Γ.inv w → Γ.inv w'
  rely : ∀ {w₀ w w'}, w'.registry = w.registry → Γ.rely w₀ w → Γ.rely w₀ w'
  change : ∀ w w', Γ.change w w'
  coherent : ∀ {w}, Γ.inv w → w.registry.Coherent

variable [hΓ : OnRegistry Γ]

theorem OnRegistry.holds (hw : w'.registry = w.registry) (h : Γ.Holds w₀ w) : Γ.Holds w₀ w' :=
  ⟨hΓ.inv hw h.inv, hΓ.rely hw h.rely⟩

/-- The lookup of a player: its index is right. -/
theorem guards_getPlayer {Q : Option PlayerId → World → World → Prop} (h : Γ.Holds w₀ w)
    (hsome : p ∈ (w.room r).players → Q (some p) w₀ w)
    (hnone : p ∉ (w.room r).players → Q none w₀ w) : (getPlayer r p).Guards Γ Q w₀ w := by
  have hbyId : p ∈ (w.room r).playersById ↔ p ∈ (w.room r).players :=
    (hΓ.coherent h.inv).byId r p
  unfold getPlayer
  rw [guards_bind, guards_readRoom, guards_ite, guards_ite]
  refine ⟨fun hp => hsome (hbyId.mp hp), fun hp => ⟨fun hmem => ?_, fun hmem => hnone hmem⟩⟩
  exact absurd (hbyId.mpr hmem) hp

/-- The lookup of a room: the scan finds nobody whom the index does not have. -/
theorem guards_findRoomByPlayer {Q : Option RoomId → World → World → Prop} (h : Γ.Holds w₀ w)
    (hQ : Q ((w.playerToRoom p).bind w.roomOf) w₀ w) : (findRoomByPlayer p).Guards Γ Q w₀ w := by
  have hcoherent := hΓ.coherent h.inv
  unfold findRoomByPlayer
  rw [guards_bind, guards_read, guards_elim]
  refine ⟨fun hp => ?_, fun code hp => by simpa [hp] using hQ⟩
  rw [guards_elim]
  refine ⟨fun _ => by simpa [hp] using hQ, fun x hx => ?_⟩
  have hmem := List.mem_of_find?_eq_some hx
  have hfound : p ∈ (w.room x.2).playersById ∨ p ∈ (w.room x.2).players := by
    simpa using List.find?_some hx
  have hplayer : p ∈ (w.room x.2).players :=
    hfound.elim (hcoherent.byId x.2 p).mp fun hp => hp
  have hindex : w.playerToRoom p = some x.1 := hcoherent.index x hmem p hplayer
  rw [hp] at hindex
  cases hindex

instance : Tolerates Γ where
  put u hu := ⟨fun h => ⟨hΓ.change _ _, OnRegistry.holds (u.registry_same hu _) h⟩⟩
  getPlayer _ _ := ⟨fun h => guards_getPlayer h (fun _ => h) fun _ => h⟩
  findRoomByPlayer _ := ⟨fun h => guards_findRoomByPlayer h h⟩

/-- The room that the index gives: nobody else has the player. -/
theorem only_of_found (h : w.registry.Coherent) (hr : (w.playerToRoom p).bind w.roomOf = some r) :
    ∀ x ∈ w.rooms, p ∈ (w.room x.2).players → x.2 = r := by
  intro x hx hp
  obtain ⟨code, hcode, hroom⟩ := Option.bind_eq_some_iff.mp hr
  have hindex : w.playerToRoom p = some x.1 := h.index x hx p hp
  rw [hcode] at hindex
  have heq : (code, r) = x := h.room_unique (mem_rooms_of_roomOf hroom) hx (Option.some.inj hindex)
  rw [← heq]

end Lookups

/-! ## The guarantee of coherence -/

/-- The mark is not that of a room that is restored, nor that of a player who comes into a room of
this worker while another room has the same code, or had it. -/
def Mark.NoReuse (e : Mark) (w : World) : Prop :=
  match e with
  | .restores _ _ _ => False
  | .connects r _ _ => (w.room r).isProxy = false →
    ∀ r' < w.nextRoom, (w.room r').code = (w.room r).code → r' = r
  | _ => True

instance (e : Mark) (w : World) : Decidable (e.NoReuse w) := by
  cases e <;> unfold Mark.NoReuse <;> infer_instance

/-- Registries stay coherent. -/
def coherent : Guarantee World Mark where
  ok := Mark.NoReuse
  inv w := w.registry.Coherent
  change _ _ := True
  rely w w' := w.registry.Shrinks w'.registry
  refl w := .refl w.registry
  trans := .trans

instance : OnRegistry coherent where
  inv {_ w'} hw h := by
    change w'.registry.Coherent
    rw [hw]
    exact h
  rely {w₀ _ w'} hw h := by
    change w₀.registry.Shrinks w'.registry
    rw [hw]
    exact h
  change _ _ := trivial
  coherent h := h

/-- A fact about the registry besides. -/
instance (G : Registry → Prop) : OnRegistry (coherent.and fun w => G w.registry) where
  inv {_ w'} hw h := by
    change w'.registry.Coherent ∧ G w'.registry
    rw [hw]
    exact h
  rely hw h := OnRegistry.rely hw h (Γ := coherent)
  change _ _ := trivial
  coherent h := h.1

section Operations

variable {w₀ w : World} {r : RoomId} {p : PlayerId} {code : String}

/-- An assignment after which the registry is coherent. -/
theorem holds_of {g : Registry} {w' : World} (hw : w'.registry = g) (h : g.Coherent)
    (hrely : w₀.registry.Shrinks g) : coherent.Holds w₀ w' := by
  subst hw
  exact ⟨h, hrely⟩

/-! ### Requests -/

/-- The pending requests are no part of the indexes. -/
theorem holds_requests (h : coherent.Holds w₀ w) {w' :
    World} {joins roomJoins wsJoins roles roomRoles}
    (hw : w'.registry = { w.registry with
      joins := joins, roomJoins := roomJoins, wsJoins := wsJoins, roles := roles,
      roomRoles := roomRoles }) : coherent.Holds w₀ w' := by
  obtain ⟨h, hrely⟩ := h
  refine holds_of hw ?_ ⟨hrely.nextRoom, hrely.nextUuid, hrely.code, hrely.players⟩
  exact ⟨h.keys, h.codes, h.nodup, h.nodupIds, h.byId, h.known, h.home, h.exist, h.index, h.back,
    h.unique⟩

instance (l : List (RequestId × PendingJoinRequest)) :
    Guarded coherent (put (.pendingJoinRequests l)) := ⟨fun h => ⟨trivial, holds_requests h rfl⟩⟩

instance (ws : WsId) (x : Option RequestId) : Guarded coherent (put (.wsToPendingRequest ws x)) :=
  ⟨fun h => ⟨trivial, holds_requests h rfl⟩⟩

instance (r : RoomId) (l : List (RequestId × PendingJoinRequest)) :
    Guarded coherent (put (.room r (.pendingJoinRequests l))) :=
  ⟨fun h => ⟨trivial, holds_requests h (registry_roomJoins _ r l)⟩⟩

instance (l : List (RequestId × PendingSpectatorRoleRequest)) :
    Guarded coherent (put (.pendingSpectatorRoleRequests l)) :=
  ⟨fun h => ⟨trivial, holds_requests h rfl⟩⟩

instance (r : RoomId) (l : List (RequestId × PendingSpectatorRoleRequest)) :
    Guarded coherent (put (.room r (.pendingSpectatorRoleRequests l))) :=
  ⟨fun h => ⟨trivial, holds_requests h (registry_roomRoles _ r l)⟩⟩

instance (kind : TaskKind) (delay : ℚ) : Guarded coherent (createTask kind delay) :=
  ⟨fun h => ⟨trivial, ⟨h.inv, h.rely⟩⟩⟩

instance : Guarded coherent uuid4 where
  out {w₀ w} h := by
    refine ⟨trivial, holds_of (g := { w.registry with nextUuid := w.nextUuid + 1 }) rfl
      h.inv.newUuid ?_⟩
    exact ⟨h.rely.nextRoom, h.rely.nextUuid.trans (Nat.le_succ _), h.rely.code, h.rely.players⟩

instance (r : RoomId) (code name : String) (ws : WsId) (avatar : Option String) :
    Guarded coherent (requestJoin r code name ws avatar) := by
  unfold requestJoin; dsimp only; infer_instance

instance (request : PendingJoinRequest) : Guarded coherent (dropJoinRequest request) := by
  unfold dropJoinRequest; infer_instance

instance (requestId : RequestId) : Guarded coherent (handleJoinRequestTimeout requestId) := by
  unfold handleJoinRequestTimeout; infer_instance

instance (request : PendingJoinRequest) : Guarded coherent (cancelJoinRequest request) := by
  unfold cancelJoinRequest; infer_instance

instance (x : Ident) : Guarded coherent (cancelPendingJoinRequest x) := by
  unfold cancelPendingJoinRequest; infer_instance

instance (ws : WsId) : Guarded coherent (cancelPendingJoinRequestOf ws) := by
  unfold cancelPendingJoinRequestOf; infer_instance

instance (r : RoomId) (requestId : RequestId) : Guarded coherent (dropRoleRequest r requestId) := by
  unfold dropRoleRequest; infer_instance

instance (p : PlayerId) : Guarded coherent (requestBecomePlayer p) := by
  unfold requestBecomePlayer; dsimp only; infer_instance

instance (requestId : RequestId) (r : RoomId) (p : PlayerId) :
    Guarded coherent (expireRoleRequest requestId r p) := by
  unfold expireRoleRequest; infer_instance

instance (p : PlayerId) (requestId : RequestId) (action : String) :
    Guarded coherent (respondSpectatorRoleRequest p requestId action) := by
  unfold respondSpectatorRoleRequest; infer_instance

instance (p : PlayerId) (requestId : Option RequestId) :
    Guarded coherent (cancelSpectatorRoleRequest p requestId) := by
  unfold cancelSpectatorRoleRequest; dsimp only; infer_instance

/-! ### Rooms that go -/

/-- Rooms are no longer registered. -/
theorem holds_unregister (f : String × RoomId → Bool) (h : coherent.Holds w₀ w) :
    coherent.Holds w₀ ((Update.rooms (w.rooms.filter f)).apply w) :=
  holds_of (g := { w.registry with rooms := w.registry.rooms.filter f }) rfl (h.inv.unregister f)
    ⟨h.rely.nextRoom, h.rely.nextUuid, h.rely.code, h.rely.players⟩

instance (code : String) : Guarded coherent (deleteRoom code) where
  out {w₀ w} h := by
    unfold deleteRoom
    rw [guards_bind, guards_read, guards_bind, guards_put]
    refine ⟨trivial, guards_then ?_⟩
    have hfiltered := holds_unregister (fun x => x.1 ≠ code) h
    rw [guards_elim]
    refine ⟨fun _ => hfiltered, fun r hr => ?_⟩
    -- what is left to do: players of a room that is no longer registered
    refine (guards_each (fun l w₁ w' => coherent.Holds w₁ w' ∧
      ∀ p ∈ l, ∀ x ∈ w'.rooms, p ∉ (w'.room x.2).players) ⟨hfiltered, ?_⟩ ?_).mono
      fun _ _ _ h => h.1
    · intro p hp x hx hp'
      obtain ⟨hmem, hne⟩ := List.mem_filter.mp hx
      obtain rfl : r = x.2 := h.inv.home r x.2 p hp hp'
      have hcode : code = x.1 :=
        ((h.inv.codes (code, x.2) (mem_rooms_of_roomOf hr)).2.symm.trans (h.inv.codes x hmem).2)
      simp [hcode] at hne
    · intro p l w₁ w' ⟨h, hl⟩
      refine ⟨trivial, ?_, fun q hq => hl q (List.mem_cons_of_mem _ hq)⟩
      exact holds_of (g := { w'.registry with
        playerToRoom := Function.update w'.registry.playerToRoom p none }) rfl
        (h.inv.forget (hl p List.mem_cons_self)) ⟨h.rely.nextRoom, h.rely.nextUuid, h.rely.code,
          h.rely.players⟩

/-! ### Players who go -/

theorem guards_dropPlayer (h : coherent.Holds w₀ w)
    (hp : ∀ x ∈ w.rooms, p ∈ (w.room x.2).players → x.2 = r) :
    (dropPlayer r p).Guards coherent (fun _ => coherent.Holds) w₀ w := by
  unfold dropPlayer
  simp only [guards_bind, guards_mark, guards_put]
  refine fun _ => ⟨trivial, trivial, holds_of (g := w.registry.drop r p) ?_ (h.inv.drop hp)
    h.rely.drop⟩
  change { ((Update.room r (.removePlayer p)).apply w).registry with
    playerToRoom := Function.update w.playerToRoom p none } = _
  rw [registry_removePlayer]
  rfl

instance (p : PlayerId) : Guarded coherent (removePlayer p) where
  out {w₀ w} h := by
    unfold removePlayer
    refine guards_bind.mpr (guards_findRoomByPlayer h (guards_elim.mpr ⟨fun _ => h,
      fun r hr => ?_⟩))
    exact guards_then (guards_dropPlayer h (only_of_found h.inv hr))

instance (p : PlayerId) : Guarded coherent (permanentlyRemovePlayer p) where
  out {w₀ w} h := by
    unfold permanentlyRemovePlayer
    refine guards_bind.mpr (guards_findRoomByPlayer h (guards_elim.mpr ⟨fun _ => h,
      fun r hr => ?_⟩))
    exact guards_then (guards_dropPlayer h (only_of_found h.inv hr))

instance (p : PlayerId) : Guarded coherent (leaveRoom p) where
  out {w₀ w} h := by
    unfold leaveRoom
    refine guards_bind.mpr (guards_findRoomByPlayer h (guards_elim.mpr ⟨fun _ => h,
      fun r hr => ?_⟩))
    rw [guards_bind, guards_readRoom, guards_ite]
    refine ⟨fun _ => h, fun _ => ?_⟩
    exact guards_then (guards_dropPlayer h (only_of_found h.inv hr))

/-- **Kicked**: the player is sent a message first; meanwhile it comes into no other room. -/
theorem guards_kicked (h : coherent.Holds w₀ w) (hp : p ∈ (w.room r).players) {q : PlayerId}
    {m : Message} {lossy : Bool} {α : Type} {f : Unit → M α} [∀ a, Guarded coherent (f a)] :
    (sendToPlayer r q m lossy >>= fun _ => dropPlayer r p >>= f).Guards coherent
      (fun _ => coherent.Holds) w₀ w := by
  have hstay : ∀ w w' : World, coherent.rely w w' → Registry.Home r p w.registry →
      Registry.Home r p w'.registry := fun _ _ hrely hhome => hhome.later hrely
  have hand : (coherent.and fun w => Registry.Home r p w.registry).Holds w₀ w :=
    ⟨⟨h.inv, h.inv.home_of_mem hp⟩, h.rely⟩
  have hsend := Guards.of_and hstay
    (Guarded.out hand : (sendToPlayer r q m lossy).Guards _ _ w₀ w)
  refine guards_bind.mpr (hsend.mono fun _ w₁ w' h' => guards_then ?_)
  have hholds : coherent.Holds w₁ w' := ⟨h'.inv.1, h'.rely⟩
  exact guards_dropPlayer hholds fun x _ hx => h'.inv.2.only x.2 hx

instance (p q : PlayerId) : Guarded coherent (kickPlayer p q) where
  out {w₀ w} h := by
    unfold kickPlayer
    refine guards_bind.mpr (guards_findRoomByPlayer h (guards_elim.mpr ⟨fun _ => h, fun r _ => ?_⟩))
    rw [guards_bind, guards_readRoom, guards_ite, guards_ite]
    refine ⟨fun _ => h, fun _ => ⟨fun _ => h, fun _ => guards_bind.mpr ?_⟩⟩
    refine guards_getPlayer h (fun hq => ?_) fun _ => h
    change Guards _ (if q = (w.room r).hostId then _ else _) _ _ _
    rw [guards_ite]
    exact ⟨fun _ => h, fun _ => guards_kicked h hq⟩

theorem guards_executeVoteKickPassed (env : Env) (h : coherent.Holds w₀ w)
    (hp : p ∈ (w.room r).players) :
    (executeVoteKickPassed env r p).Guards coherent (fun _ => coherent.Holds) w₀ w := by
  unfold executeVoteKickPassed
  dsimp only
  rw [guards_bind, guards_read]
  exact guards_kicked h hp

instance (env : Env) (r : RoomId) (p : PlayerId) : Guarded coherent (kickTarget env r p) where
  out h := by
    unfold kickTarget
    exact guards_bind.mpr (guards_getPlayer h (fun hp => guards_executeVoteKickPassed env h hp)
      fun _ => h)

instance (env : Env) (p q : PlayerId) : Guarded coherent (startVoteKick env p q) where
  out {w₀ w} h := by
    unfold startVoteKick
    refine guards_bind.mpr (guards_findRoomByPlayer h (guards_elim.mpr ⟨fun _ => h, fun r _ => ?_⟩))
    dsimp only
    rw [guards_bind, guards_read, guards_ite, guards_ite]
    refine ⟨fun _ => h, fun _ => ⟨fun _ => h, fun _ => guards_bind.mpr ?_⟩⟩
    refine guards_getPlayer h (fun hq => guards_elim.mpr ⟨nofun, fun target htarget => ?_⟩)
        fun _ => h
    obtain rfl : q = target := Option.some.inj htarget
    rw [guards_bind, guards_read, guards_ite, guards_ite, guards_ite]
    refine ⟨fun _ => h, fun _ => ⟨fun _ => h, fun _ => ⟨fun _ => h, fun _ => guards_bind.mpr ?_⟩⟩⟩
    refine guards_getPlayer h (fun _ => ?_) fun _ => ?_
    all_goals
      rw [guards_ite]
      exact ⟨fun _ => guards_then (guards_executeVoteKickPassed env h hq), fun _ => Guarded.out h⟩

/-! ### Players who come -/

/-- **A new player comes** into a room with the code. -/
theorem holds_enroll (make : PlayerId → Player) (h : coherent.Holds w₀ w) (hr : r < w.nextRoom)
    (hcode : (w.room r).code = code) :
    coherent.Holds w₀ ((Update.playerToRoom (.uuid w.nextUuid) (some code)).apply
      ((Update.room r (.addPlayer (.uuid w.nextUuid))).apply
        ((Update.newPlayer r make).apply w))) := by
  refine holds_of (g := w.registry.enroll r code) ?_ (h.inv.enroll hr hcode) (h.rely.enroll r code)
  change { ((Update.room r (.addPlayer (.uuid w.nextUuid))).apply
      ((Update.newPlayer r make).apply w)).registry with
    playerToRoom := Function.update w.playerToRoom (.uuid w.nextUuid) (some code) } = _
  rw [registry_addPlayer]
  rfl

theorem coherent_admitPlayer {name : String} {ws : WsId} {avatar : Option String} {b : Bool}
    (h : coherent.Holds w₀ w) (hr : r < w.nextRoom) (hcode : (w.room r).code = code) :
    (admitPlayer r code name ws avatar b).Guards coherent (fun _ => coherent.Holds) w₀ w := by
  unfold admitPlayer
  simp only [guards_bind, guards_newPlayer, guards_mark, guards_put, guards_pure]
  exact ⟨trivial, fun _ => ⟨trivial, trivial, trivial,
    OnRegistry.holds (Update.registry_same _ rfl _) (holds_enroll _ h hr hcode)⟩⟩

theorem coherent_admitRemote {name : String} {avatar : Option String} {b : Bool}
    (h : coherent.Holds w₀ w) (hr : r < w.nextRoom) (hcode : (w.room r).code = code) :
    (admitRemote r code name avatar b).Guards coherent (fun _ => coherent.Holds) w₀ w := by
  unfold admitRemote
  simp only [guards_bind, guards_newPlayer, guards_mark, guards_put, guards_pure]
  exact ⟨trivial, fun _ => ⟨trivial, trivial, holds_enroll _ h hr hcode⟩⟩

/-- A registered room exists, and has the code. -/
theorem room_of_roomOf (h : w.registry.Coherent) (hr : w.roomOf code = some r) :
    r < w.nextRoom ∧ (w.room r).code = code :=
  h.codes (code, r) (mem_rooms_of_roomOf hr)

theorem guards_joinRoomLocal (env : Env) {name : String} {ws : WsId} {avatar : Option String}
    {asSpectator : Bool} {password : Option String} (h : coherent.Holds w₀ w)
    (hr : w.roomOf code = some r) :
    (joinRoomLocal env r code name ws avatar asSpectator password).Guards coherent
      (fun _ => coherent.Holds) w₀ w := by
  obtain ⟨hlt, hcode⟩ := room_of_roomOf h.inv hr
  unfold joinRoomLocal
  rw [guards_bind, guards_read, guards_elim]
  refine ⟨fun _ => ?_, fun _ _ => h⟩
  rw [guards_ite, guards_ite, guards_ite]
  refine ⟨fun _ => Guarded.out h, fun _ => ⟨fun _ => h, fun _ => ⟨fun _ => h, fun _ => ?_⟩⟩⟩
  exact guards_then (coherent_admitPlayer h hlt hcode)

instance (env : Env) (code name : String) (avatar : Option String) (asSpectator : Bool)
    (password : Option String) :
    Guarded coherent (handleRpcJoin env code name avatar asSpectator password) where
  out {w₀ w} h := by
    unfold handleRpcJoin
    rw [guards_bind, guards_read, guards_elim]
    refine ⟨fun _ => h, fun r hr => ?_⟩
    obtain ⟨hlt, hcode⟩ := room_of_roomOf h.inv hr
    rw [guards_elim]
    refine ⟨fun _ => ?_, fun _ _ => h⟩
    rw [guards_ite, guards_ite, guards_ite]
    refine ⟨fun _ => h, fun _ => ⟨fun _ => h, fun _ => ⟨fun _ => h, fun _ => ?_⟩⟩⟩
    exact guards_then (coherent_admitRemote h hlt hcode)

theorem coherent_not_restores (state : RoomState) (i : Nat) (ids : List PlayerId) (w : World) :
    ¬coherent.ok (.restores state i ids) w := id

instance (x : RoomSnapshot) : Guarded coherent (restoreRoom x) :=
  guarded_restoreRoom coherent_not_restores x

instance (env : Env) (name code : String) (ws : WsId) (avatar : Option String) (asSpectator : Bool)
    (password : Option String) (remote : Option Message) :
    Guarded coherent (joinRoom env name code ws avatar asSpectator password remote) :=
  guarded_joinRoom coherent_not_restores (guards_joinRoomLocal env)

theorem coherent_cancel {kind : TaskKind} {n : Option Nat} (h : coherent.Holds w₀ w)
    (hr : r < w.nextRoom) : (cancel kind n).Guards coherent
      (fun _ w₁ w' => coherent.Holds w₁ w' ∧ r < w'.nextRoom) w₀ w := by
  unfold Backend.cancel
  rw [guards_elim]
  exact ⟨fun _ => ⟨h, hr⟩, fun n _ => ⟨trivial,
    OnRegistry.holds (Update.registry_same (.cancel ⟨kind, n⟩) rfl w) h, hr⟩⟩

theorem coherent_dropJoinRequest {request : PendingJoinRequest} (h : coherent.Holds w₀ w)
    (hr : r < w.nextRoom) : (dropJoinRequest request).Guards coherent
      (fun _ w₁ w' => coherent.Holds w₁ w' ∧ r < w'.nextRoom) w₀ w := by
  unfold dropJoinRequest
  simp only [guards_bind, guards_read, guards_put, guards_elim, guards_pure]
  have hdropped : coherent.Holds w₀ ((Update.wsToPendingRequest request.websocket none).apply
      ((Update.pendingJoinRequests
        (w.pendingJoinRequests.filter (·.1 ≠ request.requestId))).apply w)) :=
    holds_requests h rfl
  exact ⟨trivial, trivial, fun _ => ⟨hdropped, hr⟩, fun r' _ =>
    ⟨trivial, holds_requests hdropped (registry_roomJoins _ r' _), hr⟩⟩

instance (hostPlayerId : PlayerId) (requestId : RequestId) (action : String) :
    Guarded coherent (respondJoinRequest hostPlayerId requestId action) where
  out {w₀ w} h := by
    unfold respondJoinRequest
    rw [guards_bind, guards_read, guards_elim]
    refine ⟨fun _ => h, fun request _ => ?_⟩
    rw [guards_elim]
    refine ⟨fun _ => h, fun r hr => ?_⟩
    rw [guards_ite, guards_ite, guards_ite, guards_ite]
    refine ⟨fun _ => h, fun _ => ⟨fun _ => Guarded.out h, fun _ => ⟨fun _ => h, fun _ =>
      ⟨fun _ => h, fun _ => ?_⟩⟩⟩⟩
    have hlt := (room_of_roomOf h.inv hr).1
    unfold admitRequester
    dsimp only
    refine guards_bind.mpr ((coherent_cancel h hlt).mono fun _ w₁ w₂ h₂ => ?_)
    refine guards_bind.mpr ((coherent_dropJoinRequest h₂.1 h₂.2).mono fun _ w₃ w₄ h₄ => ?_)
    rw [guards_bind, guards_readRoom]
    exact guards_then (coherent_admitPlayer h₄.1 h₄.2 rfl)

/-- **A room is created**: it has its host, and is registered under a code that no room has. -/
theorem Registry.Coherent.created {g : Registry} (h : g.Coherent)
    (hcode : code ∉ g.rooms.map (·.1)) (hunique : ∀ r < g.nextRoom, g.code r ≠ code) :
    Registry.Coherent { (g.newRoom code false).enroll g.nextRoom code with
      rooms := g.rooms ++ [(code, g.nextRoom)] } := by
  have hnew : ((g.newRoom code false).enroll g.nextRoom code).Coherent :=
    (h.newRoom hcode false).enroll (Nat.lt_succ_self _) (by simp [Registry.newRoom])
  have hlast : ((g.newRoom code false).enroll g.nextRoom code).code g.nextRoom = code := by
    simp [Registry.enroll, Registry.newRoom]
  have hregistered := hnew.register (r := g.nextRoom) (Nat.lt_succ_self _) ?_ ?_ ?_
  · rw [hlast] at hregistered
    exact hregistered
  · rw [hlast]
    exact hcode
  · intro p hp
    have hp : p = .uuid g.nextUuid := by simpa [Registry.enroll, Registry.newRoom] using hp
    simp [Registry.enroll, Registry.newRoom, hp]
  · intro _ r hr hc
    by_contra hne
    have hr : r < g.nextRoom := Nat.lt_of_le_of_ne (Nat.le_of_lt_succ hr) hne
    rw [hlast] at hc
    exact hunique r hr (by simpa [Registry.enroll, Registry.newRoom,
      Function.update_of_ne hne] using hc)

instance (env : Env) (draws : List String) (name : String) (ws : WsId)
    (avatar password : Option String) (maxPlayers : Option Int) :
    Guarded coherent (createRoom env draws name ws avatar password maxPlayers) where
  out {w₀ w} h := by
    unfold createRoom
    dsimp only
    rw [guards_bind, guards_read, guards_ite, guards_elim, guards_elim]
    refine ⟨fun _ => h, fun _ => ⟨fun _ => ⟨fun _ => h, fun code hdraw => ?_⟩, fun _ _ => h⟩⟩
    have hfree : w.roomOf code = none := by simpa using List.find?_some hdraw
    simp only [guards_bind, guards_newPlayer, guards_mark, guards_put]
    refine fun _ => ⟨trivial, trivial, fun hok => ⟨trivial, trivial, trivial, trivial, ?_⟩⟩
    have hunique : ∀ r < w.nextRoom, (w.room r).code ≠ code := by
      intro r hr hc
      have heq := hok (by simp [Update.apply]) r (Nat.lt_succ_of_lt hr)
        (by simpa [Update.apply, Function.update_of_ne hr.ne] using hc)
      exact hr.ne heq
    refine Guarded.out (holds_of (g := { (w.registry.newRoom code false).enroll w.nextRoom code with
      rooms := w.rooms ++ [(code, w.nextRoom)] }) ?_ (h.inv.created (notMem_of_roomOf hfree)
          hunique)
      ?_)
    · simp [World.registry, Update.apply, RoomUpdate.apply, update_room, Registry.newRoom,
        Registry.enroll]
    · have hrely := (h.rely.newRoom code false).enroll w.nextRoom code
      exact ⟨hrely.nextRoom, hrely.nextUuid, hrely.code, hrely.players⟩

instance : Admits coherent where
  deleteRoom := inferInstance
  createRoom := inferInstance
  restoreRoom := inferInstance
  joinRoom := inferInstance
  removePlayer := inferInstance
  leaveRoom := inferInstance
  kickPlayer := inferInstance
  permanentlyRemovePlayer := inferInstance
  startVoteKick := inferInstance
  kickTarget := inferInstance
  handleJoinRequestTimeout := inferInstance
  cancelPendingJoinRequest := inferInstance
  cancelPendingJoinRequestOf := inferInstance
  respondJoinRequest := inferInstance
  requestBecomePlayer := inferInstance
  respondSpectatorRoleRequest := inferInstance
  cancelSpectatorRoleRequest := inferInstance

/-! ### Proxies -/

theorem guards_proxyRoom {hostId : PlayerId} (h : coherent.Holds w₀ w) :
    (proxyRoom code hostId).Guards coherent
      (fun r w₁ w' => coherent.Holds w₁ w' ∧ r < w'.nextRoom ∧ (w'.room r).code = code) w₀ w := by
  unfold proxyRoom
  rw [guards_bind, guards_read, guards_elim]
  refine ⟨fun hfree => ?_, fun r hr => ⟨h, room_of_roomOf h.inv hr⟩⟩
  simp only [guards_bind, guards_put, guards_pure]
  refine ⟨trivial, trivial, ?_, Nat.lt_succ_self _, by simp [Update.apply]⟩
  have hcode : code ∉ w.registry.rooms.map (·.1) := notMem_of_roomOf hfree
  have hnew := h.inv.newRoom hcode true
  have hlast : (w.registry.newRoom code true).code w.nextRoom = code := by
    simp [Registry.newRoom, World.registry]
  have hregistered := hnew.register (r := w.nextRoom) (Nat.lt_succ_self _) (by rwa [hlast])
    (fun p hp => ?_) (fun hown => ?_)
  · rw [hlast] at hregistered
    refine holds_of ?_ hregistered ?_
    · simp [World.registry, Update.apply, update_room, Registry.newRoom]
    · have hrely := h.rely.newRoom code true
      exact ⟨hrely.nextRoom, hrely.nextUuid, hrely.code, hrely.players⟩
  · simp [Registry.newRoom, World.registry] at hp
  · simp [Registry.newRoom, World.registry] at hown

theorem guards_joinRoomRemote {name : String} {ws : WsId} {avatar : Option String}
    {response : Option Message} (h : coherent.Holds w₀ w) :
    (joinRoomRemote code name ws avatar response).Guards coherent
      (fun o w₁ w' => coherent.Holds w₁ w' ∧ ∀ p, o = some p → w'.registry.AtCode code p) w₀ w := by
  unfold joinRoomRemote
  refine guards_bind.mpr ((Guarded.out h : Guards coherent redisCall _ _ _).mono
    fun _ w₁ w' h => ?_)
  refine guards_bind.mpr ((Guarded.out h : Guards coherent redisCall _ _ _).mono
    fun _ w₁ w' h => ?_)
  refine guards_bind.mpr ((Guarded.out h : Guards coherent suspend _ _ _).mono
    fun _ w₁ w' h => ?_)
  rw [guards_elim]
  refine ⟨fun _ => ?_, fun m _ => ?_⟩
  · exact guards_bind.mpr ((Guarded.out h : Guards coherent redisCall _ _ _).mono
      fun _ w₁ w' h => ⟨h, nofun⟩)
  · refine guards_bind.mpr ((guards_proxyRoom h).mono fun r w₁ w' ⟨h, hr, hcode⟩ => ?_)
    simp only [guards_bind, guards_newPlayer, guards_mark, guards_put, guards_pure]
    refine ⟨trivial, fun _ _ => ⟨trivial, trivial, ?_⟩⟩
    have henroll := holds_enroll (fun p =>
      { id := p, name := name, websocket := some ws, avatar := avatar }) h hr hcode
    refine ⟨henroll, fun p hp => ?_⟩
    obtain rfl : Ident.uuid w'.nextUuid = p := Option.some.inj hp
    refine ⟨⟨w'.nextUuid, Nat.lt_succ_self _, rfl⟩, fun r' hmem => ?_⟩
    obtain rfl : r' = r := henroll.inv.home r' r _ hmem
      (by simp [World.registry, Update.apply, RoomUpdate.apply])
    exact ⟨hr, by simpa [World.registry, Update.apply, RoomUpdate.apply] using hcode⟩

instance (code : String) : Guarded coherent (do
    redisCall
    let w ← read
    put (.rooms (w.rooms.filter (·.1 ≠ code)))) where
  out h := guards_bind.mpr ((Guarded.out h : Guards coherent redisCall _ _ _).mono
    fun _ _ _ h => ⟨trivial, holds_unregister _ h⟩)

theorem guards_proxyClosed (env : Env) (h : coherent.Holds w₀ w) (hp : w.registry.AtCode code p) :
    (proxyClosed env code p).Guards coherent (fun _ => coherent.Holds) w₀ w := by
  have hstay : ∀ w w' : World, coherent.rely w w' → w.registry.AtCode code p →
      w'.registry.AtCode code p := fun _ _ hrely hp => hp.later hrely
  have hcall : ∀ {w₀ w : World}, coherent.Holds w₀ w → w.registry.AtCode code p →
      redisCall.Guards coherent (fun _ w₁ w' => coherent.Holds w₁ w' ∧ w'.registry.AtCode code p)
        w₀ w := by
    intro w₀ w h hp
    have hand : (coherent.and fun w => w.registry.AtCode code p).Holds w₀ w := ⟨⟨h.inv, hp⟩, h.rely⟩
    exact (Guards.of_and hstay (Guarded.out hand : redisCall.Guards _ _ w₀ w)).mono
      fun _ _ _ h => ⟨⟨h.inv.1, h.rely⟩, h.inv.2⟩
  unfold proxyClosed
  rw [guards_bind, guards_read, guards_ite]
  refine ⟨fun _ => ?_, fun _ => Guarded.out h⟩
  refine guards_bind.mpr ((hcall h hp).mono fun _ w₁ w' ⟨h, hp⟩ => ?_)
  refine guards_bind.mpr ((hcall h hp).mono fun _ w₁ w' ⟨h, hp⟩ => ?_)
  rw [guards_bind, guards_read, guards_elim]
  refine ⟨fun _ => h, fun r hr => guards_then (guards_dropPlayer h fun x hx hmem => ?_)⟩
  have hcode : x.1 = code := (h.inv.codes x hx).2.symm.trans (hp.only x.2 hmem).2
  have heq := h.inv.room_unique hx (mem_rooms_of_roomOf hr) hcode
  rw [heq]

instance (env : Env) (code name : String) (ws : WsId) (avatar : Option String)
    (response : Option Message) :
    Guarded coherent (proxyConnection env code name ws avatar response) where
  out h := by
    unfold proxyConnection
    refine guards_bind.mpr ((guards_joinRoomRemote h).mono fun o w₁ w' ⟨h, hp⟩ => ?_)
    rw [guards_elim]
    refine ⟨fun _ => h, fun p ho => ?_⟩
    rw [guards_bind]
    exact ⟨h, fun w'' h'' hrely => guards_proxyClosed env ⟨h'', coherent.refl w''⟩
      ((hp p ho).later hrely)⟩

end Operations

/-! ## Runs -/

instance (env : Env) (o : ClusterOp) : Guarded coherent (o.call env) := by
  cases o with
  | owner o => cases o <;> unfold ClusterOp.call OwnerOp.call <;> dsimp only <;> infer_instance
  | proxyConnection code name ws avatar response => unfold ClusterOp.call; infer_instance

/-- Everything keeps the registry coherent. -/
theorem clustered_coherent (env : Env) : (clustered env).Guards coherent :=
  .of_body (fun o => inferInstanceAs (Guarded coherent (o.call env)))
    (fun t => inferInstanceAs (Guarded coherent (taskBody env t)))
    (fun _ _ _ h => ⟨⟨h.inv, h.rely⟩, trivial⟩) fun _ _ _ h => ⟨⟨h.inv, h.rely⟩, trivial⟩

/-- No room is restored from a snapshot, and codes of rooms of this worker are not used again. -/
def codesNotReused (e : Event Frame Mark) (v : View World Frame Mark) : Prop :=
  match e with
  | .mark e => e.NoReuse v.state
  | _ => True

instance (e : Event Frame Mark) (v : View World Frame Mark) : Decidable (codesNotReused e v) :=
  match e with
  | .mark e => inferInstanceAs (Decidable (e.NoReuse v.state))
  | .suspend _ | .cancel _ => .isTrue trivial

theorem coherent_start (transport : WsId → Transport) (redis : Bool) (oracle : List Nat)
    (snapshots : String → Option RoomSnapshot) :
    (World.start transport redis oracle snapshots).registry.Coherent where
  keys := List.nodup_nil
  codes := nofun
  nodup _ := List.nodup_nil
  nodupIds _ := List.nodup_nil
  byId _ _ := Iff.rfl
  known := nofun
  home := nofun
  exist _ _ := rfl
  index := nofun
  back := nofun
  unique := nofun

/-- In every run in which no room is restored and no code is used again, the registry is coherent
whenever no coroutine is running. -/
theorem registry_coherent {env : Env} {transport : WsId → Transport} {redis : Bool}
    {oracle : List Nat} {snapshots : String → Option RoomSnapshot}
    {c : Config World Frame Mark TaskId}
    (h : (clustered env).Run codesNotReused
      (startConfig (World.start transport redis oracle snapshots)) c)
    (hidle : c.running = none) : c.state.registry.Coherent := by
  have hok : ∀ e v, codesNotReused (.mark e) v → coherent.ok e v.state := fun _ _ he => he
  have hstart :
      Loop.Guarding coherent (startConfig (World.start transport redis oracle snapshots)) :=
    Loop.guarding_of_quiet rfl rfl (coherent_start transport redis oracle snapshots)
  exact ((clustered_coherent env).run hok h hstart).idle hidle

/-- **The indexes are right.**  In every run in which no room is restored and no code is used again,
whenever no coroutine is running, each registered room of this worker has its players once,
`players_by_id` has the same, and `_player_to_room` sends exactly its players to its code. -/
theorem coherent_of_run {env : Env} {transport : WsId → Transport} {redis : Bool}
    {oracle : List Nat} {snapshots : String → Option RoomSnapshot}
    {c : Config World Frame Mark TaskId}
    (h : (clustered env).Run codesNotReused
      (startConfig (World.start transport redis oracle snapshots)) c)
    (hidle : c.running = none) (code : String) (r : RoomId) (hr : c.state.roomOf code = some r)
    (hown : (c.state.room r).isProxy = false) :
    (c.state.room r).players.Nodup ∧ (c.state.room r).playersById.Nodup ∧
      (∀ p, p ∈ (c.state.room r).playersById ↔ p ∈ (c.state.room r).players) ∧
      ∀ p, c.state.playerToRoom p = some code ↔ p ∈ (c.state.room r).players := by
  have hc : c.state.registry.Coherent := registry_coherent h hidle
  exact ⟨hc.nodup r, hc.nodupIds r, hc.byId r, fun p =>
    hc.index_iff (mem_rooms_of_roomOf hr) hown⟩

/-- Somebody joins the room of another worker, and two players come together in a room here; the
host leaves. -/
theorem coherent_sample : ∃ c,
    (clustered sampleEnv).Run codesNotReused (startConfig sampleWorld) c ∧
    c.state.roomOf "ROOM01" = some 1 ∧ (c.state.room 1).players = [.uuid 2] ∧
      ∀ p, c.state.playerToRoom p = some "ROOM01" ↔ p ∈ (c.state.room 1).players := by
  have hplay : ((clustered sampleEnv).play codesNotReused (startConfig sampleWorld)
      [(.call (.proxyConnection "FAR001" "p" 9 none (some .leftRoom)), [false, true]),
        (.call (.owner (.own (.createRoom ["ROOM01"] "p0" 0 none none none))), []),
        (.call (.owner (.rpcJoin "ROOM01" "p1" none false none)), []),
        (.call (.owner (.own (.leaveRoom (.uuid 1) 0))), [])]).any (fun c =>
          c.state.roomOf "ROOM01" = some 1 ∧ (c.state.room 1).players = [.uuid 2] ∧
            (c.state.room 1).isProxy = false) = true := by
    decide +kernel
  obtain ⟨c, hrun, hidle, hc⟩ := Loop.exists_run_of_play rfl hplay
  obtain ⟨hroom, hplayers, hown⟩ := of_decide_eq_true hc
  exact ⟨c, hrun, hroom, hplayers, (coherent_of_run hrun hidle "ROOM01" 1 hroom hown).2.2.2⟩

end Skribbl.Backend
