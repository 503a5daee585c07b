import Skribbl.Gateway.Session
import Skribbl.Lib.TwoLevel

/-!
# The two indices of the session registry (`gateway/session.go`)

* `SessionRegistry` — the registry with the room index as it is, a map of maps, and with the number
  of times that each session's `done` channel has been closed.
* `SessionRegistry.WellIndexed` — the two indices agree with each other and with the sessions, and
  no channel is closed twice.
* `SessionRegistry.Flattens` — the registry whose room index has one key has the same entries.

Principal results: `wellIndexed_run` — so it is after any operations; `flattens_step` — and so it
stays.
-/

set_option autoImplicit false

namespace Skribbl.Gateway

/-- `PlayerSession`, with the number of times that `done` has been closed. -/
structure IndexedSession where
  playerID : String
  roomCode : String
  conn : Nat
  closes : Nat := 0

/-- `SessionRegistry`. -/
structure SessionRegistry where
  heap : SessionId → IndexedSession
  next : SessionId := 0
  sessions : String → Option SessionId := fun _ => none
  byRoom : TwoLevel String String SessionId := fun _ => none

namespace SessionRegistry

/-- `NewSessionRegistry`. -/
def new : SessionRegistry where
  heap _ := ⟨"", "", 0, 0⟩

/-- `close(session.done)`. -/
def closeDone (sr : SessionRegistry) (sid : SessionId) : SessionRegistry :=
  { sr with
    heap := Function.update sr.heap sid
      { sr.heap sid with closes := (sr.heap sid).closes + 1 } }

/-- `removeLocked`. -/
def removeLocked (sr : SessionRegistry) (sid : SessionId) : SessionRegistry :=
  let sr := sr.closeDone sid
  { sr with
    sessions := Function.update sr.sessions (sr.heap sid).playerID none
    byRoom := sr.byRoom.sweep [(sr.heap sid).playerID] }

/-- A session is put into the indices. -/
def insert (sr : SessionRegistry) (playerID roomCode : String) (sid : SessionId) :
    SessionRegistry :=
  { sr with
    sessions := Function.update sr.sessions playerID (some sid)
    byRoom := if roomCode ≠ "" then sr.byRoom.set roomCode playerID sid else sr.byRoom }

/-- A new session. -/
def alloc (sr : SessionRegistry) (playerID roomCode : String) (conn : Nat) : SessionRegistry :=
  { sr with
    heap := Function.update sr.heap sr.next ⟨playerID, roomCode, conn, 0⟩
    next := sr.next + 1 }

/-- `Register`. -/
def register (sr : SessionRegistry) (playerID roomCode : String) (conn : Nat) : SessionRegistry :=
  let sr := (sr.sessions playerID).elim sr sr.removeLocked
  (sr.alloc playerID roomCode conn).insert playerID roomCode sr.next

/-- `Unregister`. -/
def unregister (sr : SessionRegistry) (playerID : String) : SessionRegistry :=
  (sr.sessions playerID).elim sr sr.removeLocked

/-- `Update`. -/
def update (sr : SessionRegistry) (playerID : String) (conn : Nat) : SessionRegistry :=
  (sr.sessions playerID).elim sr fun sid =>
    let sr := sr.closeDone sid
    (sr.alloc playerID (sr.heap sid).roomCode conn).insert playerID (sr.heap sid).roomCode sr.next

/-- `UpdateIdentity`. -/
def updateIdentity (sr : SessionRegistry) (oldPlayerID newPlayerID newRoomCode : String) :
    SessionRegistry :=
  (sr.sessions oldPlayerID).elim sr fun sid =>
    let sr := { sr with
      sessions := Function.update sr.sessions oldPlayerID none
      byRoom := sr.byRoom.sweep [oldPlayerID, newPlayerID] }
    let session := { sr.heap sid with
      playerID := newPlayerID
      roomCode := if newRoomCode ≠ "" then newRoomCode else (sr.heap sid).roomCode }
    { sr with heap := Function.update sr.heap sid session }.insert newPlayerID session.roomCode sid

/-- An operation on the registry. -/
inductive Op where
  | register (playerID roomCode : String) (conn : Nat)
  | unregister (playerID : String)
  | update (playerID : String) (conn : Nat)
  | updateIdentity (oldPlayerID newPlayerID newRoomCode : String)

def step (sr : SessionRegistry) : Op → SessionRegistry
  | .register playerID roomCode conn => sr.register playerID roomCode conn
  | .unregister playerID => sr.unregister playerID
  | .update playerID conn => sr.update playerID conn
  | .updateIdentity oldPlayerID newPlayerID newRoomCode =>
    sr.updateIdentity oldPlayerID newPlayerID newRoomCode

/-- The registry after some operations. -/
def run (sr : SessionRegistry) (ops : List Op) : SessionRegistry := ops.foldl step sr

/-- Every session is stored under its own name; the room index has exactly the stored sessions that
have a room, under that room, and no empty inner map; and no channel is closed twice. -/
structure WellIndexed (sr : SessionRegistry) : Prop where
  named : ∀ p s, sr.sessions p = some s → (sr.heap s).playerID = p
  byRoom : ∀ r p s, sr.byRoom.find r p = some s ↔
    r ≠ "" ∧ sr.sessions p = some s ∧ (sr.heap s).roomCode = r
  noEmpty : sr.byRoom.NoEmpty
  closes : ∀ s, (sr.heap s).closes ≤ 1

/-- Besides, a stored session has been made, and its channel is open. -/
structure Inv (sr : SessionRegistry) : Prop extends WellIndexed sr where
  made : ∀ p s, sr.sessions p = some s → s < sr.next
  isOpen : ∀ p s, sr.sessions p = some s → (sr.heap s).closes = 0

variable {sr : SessionRegistry} {playerID roomCode : String} {sid : SessionId}

/-- A session that is not in the indices changes. -/
theorem Inv.heap (h : sr.Inv) {x : IndexedSession} (hx : x.closes ≤ 1)
    (hnot : ∀ p, sr.sessions p ≠ some sid) :
    Inv { sr with heap := Function.update sr.heap sid x } := by
  have hother : ∀ p s, sr.sessions p = some s → Function.update sr.heap sid x s = sr.heap s := by
    intro p s hs
    refine Function.update_of_ne ?_ _ _
    rintro rfl
    exact hnot p hs
  refine ⟨⟨fun p s hs => ?_, fun r p s => ?_, h.noEmpty, fun s => ?_⟩, h.made, fun p s hs => ?_⟩
  · exact (congrArg IndexedSession.playerID (hother p s hs)).trans (h.named p s hs)
  · refine (h.byRoom r p s).trans (and_congr_right fun _ => and_congr_right fun hs => ?_)
    change _ ↔ (Function.update sr.heap sid x s).roomCode = r
    rw [hother p s hs]
  · change (Function.update sr.heap sid x s).closes ≤ 1
    by_cases hs : s = sid
    · rw [hs, Function.update_self]
      exact hx
    · rw [Function.update_of_ne hs]
      exact h.closes s
  · exact (congrArg IndexedSession.closes (hother p s hs)).trans (h.isOpen p s hs)

/-- Nothing is stored under some names any more. -/
def drop (sr : SessionRegistry) (dead : List String) : SessionRegistry :=
  { sr with
    sessions := fun p => if p ∈ dead then none else sr.sessions p
    byRoom := sr.byRoom.sweep dead }

theorem Inv.drop (h : sr.Inv) (dead : List String) : (sr.drop dead).Inv := by
  have hsessions : ∀ p s, (sr.drop dead).sessions p = some s →
      p ∉ dead ∧ sr.sessions p = some s := by
    intro p s hs
    change (if p ∈ dead then none else sr.sessions p) = some s at hs
    split at hs
    · cases hs
    · rename_i hp
      exact ⟨hp, hs⟩
  refine ⟨⟨fun p s hs => h.named p s (hsessions p s hs).2, fun r p s => ?_, .sweep _ _, h.closes⟩,
    fun p s hs => h.made p s (hsessions p s hs).2, fun p s hs => h.isOpen p s (hsessions p s hs).2⟩
  change (sr.byRoom.sweep dead).find r p = some s ↔ _
  rw [TwoLevel.find_sweep]
  by_cases hp : p ∈ dead
  · rw [if_pos hp]
    exact iff_of_false nofun fun ⟨_, hs, _⟩ => (hsessions p s hs).1 hp
  · rw [if_neg hp, h.byRoom]
    change _ ↔ r ≠ "" ∧ (if p ∈ dead then none else sr.sessions p) = some s ∧ _
    rw [if_neg hp]
    rfl

/-- The sessions after one has been put under a name. -/
theorem insert_sessions (p : String) (s : SessionId) :
    (sr.insert playerID roomCode sid).sessions p = some s ↔
      p = playerID ∧ s = sid ∨ p ≠ playerID ∧ sr.sessions p = some s := by
  change Function.update sr.sessions playerID (some sid) p = some s ↔ _
  rw [Function.update_apply]
  split
  · rename_i hp
    simp only [hp, true_and, ne_eq, not_true_eq_false, false_and, or_false, Option.some.injEq]
    exact eq_comm
  · rename_i hp
    simp [hp]

/-- The index of the rooms after that, if the name was listed in no other room. -/
theorem Inv.find_insert (h : sr.Inv)
    (hold : ∀ r s, sr.byRoom.find r playerID = some s → r = roomCode) (r p : String)
    (s : SessionId) : (sr.insert playerID roomCode sid).byRoom.find r p = some s ↔
      r ≠ "" ∧ r = roomCode ∧ p = playerID ∧ s = sid ∨
        p ≠ playerID ∧ sr.byRoom.find r p = some s := by
  unfold SessionRegistry.insert
  dsimp only
  by_cases hempty : roomCode = ""
  · rw [if_neg (not_not.mpr hempty)]
    refine ⟨fun hs => .inr ⟨?_, hs⟩, fun hs => ?_⟩
    · rintro rfl
      exact ((h.byRoom r p s).mp hs).1 ((hold r s hs).trans hempty)
    · rcases hs with ⟨hr, rfl, -⟩ | ⟨-, hs⟩
      · exact absurd hempty hr
      · exact hs
  · rw [if_pos hempty, TwoLevel.find_set]
    by_cases hp : p = playerID
    · subst hp
      by_cases hr : r = roomCode
      · subst hr
        simp [hempty, eq_comm]
      · have hnone : ∀ s, sr.byRoom.find r p ≠ some s := fun s hs => hr (hold r s hs)
        simp [hr, hnone]
    · simp [hp]

/-- A session that is in no index is put into both under its own name and room, maybe in the place
of another session of that name in the same room. -/
theorem Inv.insert (h : sr.Inv) (hold : ∀ r s, sr.byRoom.find r playerID = some s → r = roomCode)
    (hnot : ∀ p, sr.sessions p ≠ some sid) (hmade : sid < sr.next)
    (hname : (sr.heap sid).playerID = playerID) (hroom : (sr.heap sid).roomCode = roomCode)
    (hopen : (sr.heap sid).closes = 0) : (sr.insert playerID roomCode sid).Inv := by
  refine ⟨⟨fun p s hs => ?_, fun r p s => ?_, ?_, h.closes⟩, fun p s hs => ?_, fun p s hs => ?_⟩
  · rcases (insert_sessions p s).mp hs with ⟨rfl, rfl⟩ | ⟨-, hs⟩
    · exact hname
    · exact h.named p s hs
  · rw [h.find_insert hold, insert_sessions, h.byRoom]
    change _ ↔ _ ∧ _ ∧ (sr.heap s).roomCode = r
    constructor
    · rintro (⟨hr, rfl, rfl, rfl⟩ | ⟨hp, hr, hs, hcode⟩)
      · exact ⟨hr, .inl ⟨rfl, rfl⟩, hroom⟩
      · exact ⟨hr, .inr ⟨hp, hs⟩, hcode⟩
    · rintro ⟨hr, ⟨rfl, rfl⟩ | ⟨hp, hs⟩, hcode⟩
      · exact .inl ⟨hr, hcode.symm.trans hroom, rfl, rfl⟩
      · exact .inr ⟨hp, hr, hs, hcode⟩
  · unfold SessionRegistry.insert
    dsimp only
    split
    · exact h.noEmpty.set _ _ _
    · exact h.noEmpty
  · rcases (insert_sessions p s).mp hs with ⟨-, rfl⟩ | ⟨-, hs⟩
    · exact hmade
    · exact h.made p s hs
  · rcases (insert_sessions p s).mp hs with ⟨-, rfl⟩ | ⟨-, hs⟩
    · exact hopen
    · exact h.isOpen p s hs

/-- A session is made and put into the indices. -/
theorem Inv.add (h : sr.Inv) (hold : ∀ r s, sr.byRoom.find r playerID = some s → r = roomCode)
    (conn : Nat) : ((sr.alloc playerID roomCode conn).insert playerID roomCode sr.next).Inv := by
  have hnot : ∀ p, sr.sessions p ≠ some sr.next := fun p hp => lt_irrefl _ (h.made p _ hp)
  have halloc : (sr.alloc playerID roomCode conn).Inv := by
    have hheap := h.heap (x := ⟨playerID, roomCode, conn, 0⟩) (Nat.zero_le 1) hnot
    exact ⟨⟨hheap.named, hheap.byRoom, hheap.noEmpty, hheap.closes⟩,
      fun p s hs => Nat.lt_succ_of_lt (h.made p s hs), hheap.isOpen⟩
  have hself : (sr.alloc playerID roomCode conn).heap sr.next = ⟨playerID, roomCode, conn, 0⟩ :=
    Function.update_self ..
  exact halloc.insert hold hnot (Nat.lt_succ_self _) (by rw [hself]) (by rw [hself]) (by rw [hself])

/-- `removeLocked` of a stored session. -/
theorem Inv.removeLocked (h : sr.Inv) (hsid : sr.sessions playerID = some sid) :
    (sr.removeLocked sid).Inv ∧ (sr.removeLocked sid).sessions playerID = none := by
  have hname := h.named playerID sid hsid
  have hsessions : Function.update sr.sessions playerID none = (sr.drop [playerID]).sessions := by
    funext p
    simp [SessionRegistry.drop, Function.update_apply]
  have heq : sr.removeLocked sid = { sr.drop [playerID] with
      heap := Function.update sr.heap sid
        { sr.heap sid with closes := (sr.heap sid).closes + 1 } } := by
    unfold SessionRegistry.removeLocked closeDone
    simp only [Function.update_self, hname, hsessions]
    rfl
  have hdropped : ∀ p, (sr.drop [playerID]).sessions p ≠ some sid := fun p hp => by
    change (if p ∈ [playerID] then none else sr.sessions p) = some sid at hp
    split at hp
    · cases hp
    · rename_i hne
      exact hne (List.mem_singleton.mpr ((h.named p sid hp).symm.trans hname))
  rw [heq]
  refine ⟨(h.drop [playerID]).heap ?_ hdropped, ?_⟩
  · rw [h.isOpen playerID sid hsid]
  · exact if_pos (List.mem_singleton_self _)

theorem Inv.unregister (h : sr.Inv) (playerID : String) :
    (sr.unregister playerID).Inv ∧ (sr.unregister playerID).sessions playerID = none := by
  unfold SessionRegistry.unregister
  cases hsid : sr.sessions playerID with
  | none => exact ⟨h, hsid⟩
  | some sid => exact h.removeLocked hsid

/-- What is not stored is in no room. -/
theorem Inv.find_none (h : sr.Inv) (hfree : sr.sessions playerID = none) (r : String)
    (s : SessionId) : sr.byRoom.find r playerID ≠ some s := fun hs => by
  have hstored := ((h.byRoom r playerID s).mp hs).2.1
  rw [hfree] at hstored
  cases hstored

theorem Inv.register (h : sr.Inv) (playerID roomCode : String) (conn : Nat) :
    (sr.register playerID roomCode conn).Inv := by
  obtain ⟨hinv, hfree⟩ := h.unregister playerID
  exact hinv.add (fun r s hs => absurd hs (hinv.find_none hfree r s)) conn

theorem Inv.update (h : sr.Inv) (playerID : String) (conn : Nat) :
    (sr.update playerID conn).Inv := by
  unfold SessionRegistry.update
  cases hsid : sr.sessions playerID with
  | none => exact h
  | some sid =>
    have hlt := h.made playerID sid hsid
    have hadded : ((sr.alloc playerID (sr.heap sid).roomCode conn).insert playerID
        (sr.heap sid).roomCode sr.next).Inv := h.add (fun r s hs => ?_) conn
    · -- the old session is not stored any more, and its channel is closed
      have hnot : ∀ p, ((sr.alloc playerID (sr.heap sid).roomCode conn).insert playerID
          (sr.heap sid).roomCode sr.next).sessions p ≠ some sid := fun p hp => by
        change Function.update sr.sessions playerID (some sr.next) p = some sid at hp
        rw [Function.update_apply] at hp
        split at hp
        · cases hp
          exact lt_irrefl _ hlt
        · rename_i hne
          exact hne ((h.named p sid hp).symm.trans (h.named playerID sid hsid))
      have hclosed := hadded.heap (x := { sr.heap sid with closes := (sr.heap sid).closes + 1 })
        (by rw [h.isOpen playerID sid hsid]) hnot
      have hself : ((sr.closeDone sid).heap sid).roomCode = (sr.heap sid).roomCode := by
        simp [closeDone]
      have hheap : Function.update (sr.closeDone sid).heap sr.next
          ⟨playerID, (sr.heap sid).roomCode, conn, 0⟩ =
          Function.update (Function.update sr.heap sr.next
            ⟨playerID, (sr.heap sid).roomCode, conn, 0⟩) sid
            { sr.heap sid with closes := (sr.heap sid).closes + 1 } :=
        (Function.update_comm (Nat.ne_of_gt hlt) _ _ _).symm
      dsimp only [Option.elim_some]
      rw [hself]
      unfold SessionRegistry.alloc SessionRegistry.insert at hclosed ⊢
      dsimp only at hclosed ⊢
      have hnext : (sr.closeDone sid).next = sr.next := rfl
      rw [hnext, hheap]
      exact hclosed
    · have hstored := (h.byRoom r playerID s).mp hs
      rw [hsid] at hstored
      cases hstored.2.1
      exact hstored.2.2.symm

theorem Inv.updateIdentity (h : sr.Inv) (oldPlayerID newPlayerID newRoomCode : String) :
    (sr.updateIdentity oldPlayerID newPlayerID newRoomCode).Inv := by
  unfold SessionRegistry.updateIdentity
  cases hsid : sr.sessions oldPlayerID with
  | none => exact h
  | some sid =>
    dsimp only [Option.elim_some]
    generalize hroom : (if newRoomCode ≠ "" then newRoomCode else (sr.heap sid).roomCode) = room
    have hinv := h.drop [oldPlayerID, newPlayerID]
    have hnot : ∀ p, (sr.drop [oldPlayerID, newPlayerID]).sessions p ≠ some sid := fun p hp => by
      change (if p ∈ [oldPlayerID, newPlayerID] then none else sr.sessions p) = some sid at hp
      split at hp
      · cases hp
      · rename_i hne
        have hold := (h.named p sid hp).symm.trans (h.named oldPlayerID sid hsid)
        exact hne (hold ▸ List.mem_cons_self)
    have hfree : (sr.drop [oldPlayerID, newPlayerID]).sessions newPlayerID = none :=
      if_pos (by simp)
    have hrenamed := hinv.heap (x := { sr.heap sid with
      playerID := newPlayerID
      roomCode := room }) (h.closes sid) hnot
    have hself : Function.update sr.heap sid { sr.heap sid with
        playerID := newPlayerID
        roomCode := room } sid = { sr.heap sid with
        playerID := newPlayerID
        roomCode := room } := Function.update_self ..
    have hstored : SessionRegistry.Inv (SessionRegistry.insert _ newPlayerID room sid) :=
      hrenamed.insert (fun r s hs => absurd hs (hinv.find_none hfree r s)) hnot
          (h.made oldPlayerID sid hsid)
      (congrArg IndexedSession.playerID hself) (congrArg IndexedSession.roomCode hself)
      ((congrArg IndexedSession.closes hself).trans (h.isOpen oldPlayerID sid hsid))
    -- what was stored under the new name is overwritten
    have hsessions : Function.update (Function.update sr.sessions oldPlayerID none) newPlayerID
        (some sid) = Function.update (sr.drop [oldPlayerID, newPlayerID]).sessions newPlayerID
        (some sid) := by
      funext p
      by_cases hp : p = newPlayerID
      · rw [hp, Function.update_self, Function.update_self]
      · rw [Function.update_of_ne hp, Function.update_of_ne hp]
        simp [SessionRegistry.drop, Function.update_apply, hp]
    unfold SessionRegistry.insert at hstored ⊢
    dsimp only at hstored ⊢
    rw [hsessions]
    exact hstored

/-- **One operation keeps the two indices in agreement.** -/
theorem Inv.step (h : sr.Inv) (op : Op) : (sr.step op).Inv := by
  cases op with
  | register playerID roomCode conn => exact h.register playerID roomCode conn
  | unregister playerID => exact (h.unregister playerID).1
  | update playerID conn => exact h.update playerID conn
  | updateIdentity oldPlayerID newPlayerID newRoomCode => exact h.updateIdentity _ _ _

theorem inv_new : SessionRegistry.new.Inv := by
  refine ⟨⟨nofun, fun r p s => ?_, nofun, fun s => Nat.zero_le 1⟩, nofun, nofun⟩
  exact iff_of_false nofun fun h => nomatch h.2.1

theorem Inv.run (h : sr.Inv) (ops : List Op) : (sr.run ops).Inv := by
  induction ops generalizing sr with
  | nil => exact h
  | cons op ops ih => exact ih (h.step op)

/-- **After any operations** every session is stored under its own name, the room index has exactly
the stored sessions that have a room and no empty inner map, and no channel has been closed
twice. -/
theorem wellIndexed_run (ops : List Op) : (SessionRegistry.new.run ops).WellIndexed :=
  (inv_new.run ops).toWellIndexed

/-! ## The registry with one index -/

section Flat

variable {M : Type} {fr : Registry M}

/-- The sessions are the same. -/
def SameSession (x : IndexedSession) (y : PlayerSession M) : Prop :=
  y.playerID = x.playerID ∧ y.roomCode = x.roomCode ∧ y.conn = x.conn ∧
      (y.done = true ↔ 0 < x.closes)

/-- The registry whose room index has one key has the same entries. -/
structure Flattens (sr : SessionRegistry) (fr : Registry M) : Prop where
  heap : ∀ s, SameSession (sr.heap s) (fr.heap s)
  next : fr.next = sr.next
  sessions : ∀ p, fr.sessions.lookup p = sr.sessions p
  byRoom : ∀ r p, fr.byRoom.lookup (r, p) = sr.byRoom.find r p

theorem Flattens.closeDone (h : sr.Flattens fr) (sid : SessionId) :
    (sr.closeDone sid).Flattens (fr.modify sid fun s => { s with done := true }) where
  heap s := by
    rw [Registry.modify_heap]
    change SameSession (Function.update sr.heap sid _ s) _
    rw [Function.update_apply]
    obtain ⟨hname, hroom, hconn, hdone⟩ := h.heap s
    split
    · rename_i hs
      subst hs
      exact ⟨hname, hroom, hconn, iff_of_true rfl (Nat.succ_pos _)⟩
    · exact ⟨hname, hroom, hconn, hdone⟩
  next := h.next
  sessions := h.sessions
  byRoom := h.byRoom

theorem Flattens.removeLocked (h : sr.Flattens fr) (sid : SessionId) :
    (sr.removeLocked sid).Flattens (fr.removeLocked sid) := by
  have hname := (h.heap sid).1
  have hclosed : ((sr.closeDone sid).heap sid).playerID = (sr.heap sid).playerID := by
    simp [SessionRegistry.closeDone]
  refine ⟨(h.closeDone sid).heap, h.next, fun p => ?_, fun r p => ?_⟩
  · unfold SessionRegistry.removeLocked Registry.removeLocked
    simp only [Registry.modify_sessions, AList.lookup_erase_if, Function.update_apply, hname,
      hclosed, h.sessions]
    rfl
  · unfold SessionRegistry.removeLocked Registry.removeLocked
    simp only [Registry.modify_byRoom, AList.lookup_filterKeys, TwoLevel.find_sweep, hname, hclosed,
      h.byRoom, List.mem_singleton, ne_eq, decide_not, Bool.not_eq_true', decide_eq_false_iff_not]
    by_cases hp : p = (sr.heap sid).playerID
    · simp [hp]
    · simp only [hp, not_false_eq_true, if_true, if_false]
      rfl

/-- Both indices get an entry. -/
theorem Flattens.insert (h : sr.Flattens fr) (playerID roomCode : String) (sid : SessionId) :
    (sr.insert playerID roomCode sid).Flattens
      ({ fr with sessions := fr.sessions.insert playerID sid }.indexRoom roomCode playerID
      sid) := by
  refine ⟨fun s => ?_, ?_, fun p => ?_, fun r p => ?_⟩
  · rw [Registry.indexRoom_heap]
    exact h.heap s
  · rw [Registry.indexRoom_next]
    exact h.next
  · rw [Registry.indexRoom_sessions, AList.lookup_insert_if]
    change _ = Function.update sr.sessions playerID (some sid) p
    rw [Function.update_apply, h.sessions]
  · unfold Registry.indexRoom SessionRegistry.insert
    dsimp only
    split
    · rw [AList.lookup_insert_if, TwoLevel.find_set, h.byRoom]
      simp only [Prod.mk.injEq]
    · exact h.byRoom r p

theorem Flattens.alloc (h : sr.Flattens fr) (playerID roomCode : String) (conn : Nat) :
    (sr.alloc playerID roomCode conn).Flattens
      { fr with
        heap := Function.update fr.heap fr.next ⟨playerID, roomCode, "", conn, [], false⟩
        next := fr.next + 1 } where
  heap s := by
    change SameSession (Function.update sr.heap sr.next _ s) (Function.update fr.heap fr.next _ s)
    rw [h.next, Function.update_apply, Function.update_apply]
    split
    · exact ⟨rfl, rfl, rfl, iff_of_false nofun (lt_irrefl 0)⟩
    · exact h.heap s
  next := congrArg (· + 1) h.next
  sessions := h.sessions
  byRoom := h.byRoom

theorem Flattens.unregister (h : sr.Flattens fr) (playerID : String) :
    (sr.unregister playerID).Flattens (fr.unregister playerID) := by
  unfold SessionRegistry.unregister Registry.unregister
  rw [h.sessions]
  cases sr.sessions playerID with
  | none => exact h
  | some sid => exact h.removeLocked sid

theorem Flattens.register (h : sr.Flattens fr) (playerID roomCode : String) (conn : Nat) :
    (sr.register playerID roomCode conn).Flattens (fr.register playerID roomCode conn) := by
  have hnext : (fr.unregister playerID).next = (sr.unregister playerID).next :=
    (h.unregister playerID).next
  rw [Registry.unregister_next] at hnext
  rw [Registry.register_eq, hnext]
  have hadded := ((h.unregister playerID).alloc playerID roomCode conn).insert playerID roomCode
    (sr.unregister playerID).next
  rw [Registry.unregister_next, hnext] at hadded
  exact hadded

theorem Flattens.update (h : sr.Flattens fr) (playerID : String) (conn : Nat) :
    (sr.update playerID conn).Flattens (fr.update playerID conn) := by
  unfold SessionRegistry.update Registry.update
  rw [h.sessions]
  cases sr.sessions playerID with
  | none => exact h
  | some sid =>
    have hroom : ((sr.closeDone sid).heap sid).roomCode = (fr.heap sid).roomCode := by
      simp [SessionRegistry.closeDone, (h.heap sid).2.1]
    have hnext : fr.next = sr.next := h.next
    dsimp only [Option.elim_some]
    rw [hroom]
    have hadded := ((h.closeDone sid).alloc playerID (fr.heap sid).roomCode conn).insert playerID
      (fr.heap sid).roomCode sr.next
    have hnext' : (fr.modify sid fun s => { s with done := true }).next = sr.next := hnext
    rw [hnext'] at hadded ⊢
    exact hadded

theorem Flattens.updateIdentity (h : sr.Flattens fr) (old new roomCode : String) :
    (sr.updateIdentity old new roomCode).Flattens (fr.updateIdentity old new roomCode) := by
  unfold SessionRegistry.updateIdentity Registry.updateIdentity
  rw [h.sessions]
  cases sr.sessions old with
  | none => exact h
  | some sid =>
    dsimp only [Option.elim_some]
    have hroom : (fr.heap sid).roomCode = (sr.heap sid).roomCode := (h.heap sid).2.1
    have hrenamed : Flattens
        { sr with
          heap := Function.update sr.heap sid { sr.heap sid with
            playerID := new
            roomCode := if roomCode ≠ "" then roomCode else (sr.heap sid).roomCode }
          sessions := Function.update sr.sessions old none
          byRoom := sr.byRoom.sweep [old, new] }
        (Registry.modify { fr with
          sessions := fr.sessions.erase old
          byRoom := fr.byRoom.filterKeys fun k => k.2 ≠ old ∧ k.2 ≠ new } sid fun s =>
            { s with
              playerID := new
              roomCode := if roomCode ≠ "" then roomCode else s.roomCode }) := by
      refine ⟨fun s => ?_, h.next, fun p => ?_, fun r p => ?_⟩
      · rw [Registry.modify_heap]
        change SameSession (Function.update sr.heap sid _ s) _
        rw [Function.update_apply]
        obtain ⟨-, -, hconn, hdone⟩ := h.heap sid
        split
        · exact ⟨rfl, by rw [hroom], hconn, hdone⟩
        · exact h.heap s
      · change (fr.sessions.erase old).lookup p = Function.update sr.sessions old none p
        rw [AList.lookup_erase_if, Function.update_apply, h.sessions]
      · change (fr.byRoom.filterKeys _).lookup (r, p) = (sr.byRoom.sweep [old, new]).find r p
        rw [AList.lookup_filterKeys, TwoLevel.find_sweep, h.byRoom]
        by_cases hp : p = old <;> by_cases hp' : p = new <;> simp [hp, hp']
    have hstored := hrenamed.insert new
      (if roomCode ≠ "" then roomCode else (sr.heap sid).roomCode) sid
    have hself : (Registry.modify { fr with
        sessions := fr.sessions.erase old
        byRoom := fr.byRoom.filterKeys fun k => k.2 ≠ old ∧ k.2 ≠ new } sid fun s =>
          { s with
            playerID := new
            roomCode := if roomCode ≠ "" then roomCode else s.roomCode }).heap sid =
        { fr.heap sid with
          playerID := new
          roomCode := if roomCode ≠ "" then roomCode else (sr.heap sid).roomCode } := by
      rw [Registry.modify_heap, if_pos rfl, hroom]
    rw [hself]
    exact hstored

/-- **The registry with one index does the same**, whatever the operations. -/
theorem flattens_step (h : sr.Flattens fr) (op : Op) : (sr.step op).Flattens (match op with
    | .register playerID roomCode conn => fr.register playerID roomCode conn
    | .unregister playerID => fr.unregister playerID
    | .update playerID conn => fr.update playerID conn
    | .updateIdentity old new roomCode => fr.updateIdentity old new roomCode) := by
  cases op with
  | register playerID roomCode conn => exact h.register playerID roomCode conn
  | unregister playerID => exact h.unregister playerID
  | update playerID conn => exact h.update playerID conn
  | updateIdentity old new roomCode => exact h.updateIdentity old new roomCode

end Flat

end SessionRegistry

end Skribbl.Gateway
