import Skribbl.Gateway.Session

/-!
# A player's second connection at the gateway

A player `p` whose old connection still has its session opens a new connection; the worker
confirms the reconnect and the pending session is re-indexed to `p`.  The old connection's
teardown comes at any time, and everything else the gateway does comes in between.

* `Takeover` — the names: the player, the pending id, the two connections and their sessions.
* `Phase` — how far the two have come; `Phase.next` is the abstract machine and `view_step` its
  simulation.
* `HandedOver` — what the reconnect should leave behind.

Principal result: `handedOver_iff` — the takeover succeeds exactly when the old teardown comes
first and the worker's stream does not take its notice.
-/

set_option autoImplicit false

namespace Skribbl.Gateway

variable {M : Type}

/-- Who takes over from whom: player `p`, pending id `q`, the old and the new connection and
their sessions. -/
structure Takeover where
  p : String
  q : String
  oldConn : Nat
  newConn : Nat
  old : SessionId
  new : SessionId
  p_ne_q : p ≠ q
  p_ne : p ≠ ""
  conn_ne : oldConn ≠ newConn
  session_ne : old ≠ new

namespace Takeover

variable (T : Takeover)

/-- What the registry and the connections hold of the takeover. -/
structure View where
  atP : Option SessionId
  atQ : Option SessionId
  oldOpen : Option SessionId
  newName : String
  oldDone : Bool
  newDone : Bool
  deriving DecidableEq

def view (gw : GatewayState M) : View where
  atP := gw.registry.sessions.lookup T.p
  atQ := gw.registry.sessions.lookup T.q
  oldOpen := gw.session T.oldConn
  newName := (gw.registry.heap T.new).playerID
  oldDone := (gw.registry.heap T.old).done
  newDone := (gw.registry.heap T.new).done

/-- What holds throughout: the player index is keyed by the sessions' own names, and no third
connection has a session of `p` or `q`. -/
structure Tidy (gw : GatewayState M) : Prop where
  keys : ∀ x s, gw.registry.sessions.lookup x = some s →
    (gw.registry.heap s).playerID = x ∧ s < gw.registry.next
  others : ∀ c s, gw.session c = some s → c ≠ T.oldConn → c ≠ T.newConn →
    (gw.registry.heap s).playerID ≠ T.p ∧ (gw.registry.heap s).playerID ≠ T.q ∧
      s < gw.registry.next
  newOpen : gw.session T.newConn = some T.new
  old_lt : T.old < gw.registry.next
  new_lt : T.new < gw.registry.next
  oldName : (gw.registry.heap T.old).playerID = T.p
  oldRoom : (gw.registry.heap T.old).roomCode ≠ ""
  newName : (gw.registry.heap T.new).playerID = T.p ∨ (gw.registry.heap T.new).playerID = T.q

/-! ## The phases -/

inductive Phase where
  /-- Both sessions are registered. -/
  | both
  /-- The old one is gone, the new one still pending. -/
  | torn
  /-- The new one has replaced the old one, whose connection is still open. -/
  | renamed
  /-- The old one was gone when the new one took its name. -/
  | handedOver
  /-- The old connection's teardown has removed the new session. -/
  | lost
  deriving DecidableEq

def Phase.view : Phase → View
  | .both => ⟨some T.old, some T.new, some T.old, T.q, false, false⟩
  | .torn => ⟨none, some T.new, none, T.q, true, false⟩
  | .renamed => ⟨some T.new, none, some T.old, T.p, false, false⟩
  | .handedOver => ⟨some T.new, none, none, T.p, true, false⟩
  | .lost => ⟨none, none, none, T.p, false, true⟩

/-- The old connection's teardown begins. -/
def Phase.tear : Phase → Phase
  | .both => .torn
  | .renamed => .lost
  | ph => ph

/-- The pending session is re-indexed. -/
def Phase.rename : Phase → Phase
  | .both => .renamed
  | .torn => .handedOver
  | ph => ph

def Phase.next (ph : Phase) (e : Event) : Phase :=
  match e with
  | .readError c => if c = T.oldConn then ph.tear else ph
  | .identity q' p' _ => if q' = T.q ∧ p' = T.p then ph.rename else ph
  | _ => ph

/-- What else may happen: the new connection stays open, no other identity response names `p` or
`q`, and no third connection is opened under one of these names. -/
def Allowed : Event → Prop
  | .opened c => c ≠ T.oldConn ∧ c ≠ T.newConn ∧ pendingPlayerID c ≠ T.p ∧ pendingPlayerID c ≠ T.q
  | .identity q' p' _ => q' = T.q ∧ p' = T.p ∨ q' ≠ T.q ∧ q' ≠ T.p ∧ p' ≠ T.p ∧ p' ≠ T.q
  | .readError c => c ≠ T.newConn
  | .joinRoom .. => True
  | .notify .. => True

variable {T}

/-! ## The simulation -/

section

variable {gw : GatewayState M} (ht : T.Tidy gw)
include ht

theorem Tidy.lookup_ne_old {x : String} (hx : x ≠ T.p) :
    gw.registry.sessions.lookup x ≠ some T.old := by
  intro h
  exact hx ((ht.keys _ _ h).1.symm.trans ht.oldName)

theorem Tidy.lookup_ne_new {x : String} (hp : x ≠ T.p) (hq : x ≠ T.q) :
    gw.registry.sessions.lookup x ≠ some T.new := by
  intro h
  have hx := (ht.keys _ _ h).1
  rcases ht.newName with hn | hn
  · exact hp (hx.symm.trans hn)
  · exact hq (hx.symm.trans hn)

/-- Unregistering another name changes nothing of the takeover. -/
theorem Tidy.unregister_heap {x : String} (hp : x ≠ T.p) (hq : x ≠ T.q) :
    (gw.registry.unregister x).heap T.old = gw.registry.heap T.old ∧
      (gw.registry.unregister x).heap T.new = gw.registry.heap T.new := by
  simp only [Registry.unregister_heap, if_neg (ht.lookup_ne_old hp),
    if_neg (ht.lookup_ne_new hp hq), and_self]

omit ht in
theorem unregister_playerID (x : String) (i : SessionId) :
    ((gw.registry.unregister x).heap i).playerID = (gw.registry.heap i).playerID := by
  rw [Registry.unregister_heap]
  split <;> rfl

theorem opened_view {c : Nat} (h : T.Allowed (.opened c)) :
    T.Tidy (gw.opened c) ∧ T.view (gw.opened c) = T.view gw := by
  obtain ⟨hco, hcn, hp, hq⟩ := h
  have hkeys : gw.registry.Keyed := ht.keys
  have hheap : ∀ s, s < gw.registry.next →
      ((gw.opened c).registry.heap s) = (gw.registry.unregister (pendingPlayerID c)).heap s := by
    intro s hs
    simp only [GatewayState.opened, Registry.register_heap, if_neg (Nat.ne_of_lt hs)]
  have hold := (ht.unregister_heap hp hq).1
  have hnew := (ht.unregister_heap hp hq).2
  have hview : T.view (gw.opened c) = T.view gw := by
    simp only [view, hheap _ ht.old_lt, hheap _ ht.new_lt, hold, hnew]
    simp only [GatewayState.opened, Registry.register_sessions hkeys, if_neg hp.symm,
      if_neg hq.symm, Function.update_of_ne hco.symm]
  refine ⟨⟨hkeys.register _ _ _, ?_, ?_, ?_, ?_, ?_, ?_, ?_⟩, hview⟩
  · intro d s hs hdo hdn
    simp only [GatewayState.opened, Function.update_apply, Registry.getByPlayer,
      Registry.register_sessions hkeys, if_true] at hs
    split at hs
    · cases hs
      simp only [GatewayState.opened, Registry.register_heap, if_true, Registry.register_next]
      exact ⟨hp, hq, Nat.lt_succ_self _⟩
    · have hds := ht.others d s hs hdo hdn
      rw [hheap s hds.2.2, unregister_playerID]
      simp only [GatewayState.opened, Registry.register_next]
      exact ⟨hds.1, hds.2.1, Nat.lt_succ_of_lt hds.2.2⟩
  · simp only [GatewayState.opened, Function.update_of_ne hcn.symm, ht.newOpen]
  · simp only [GatewayState.opened, Registry.register_next]
    exact Nat.lt_succ_of_lt ht.old_lt
  · simp only [GatewayState.opened, Registry.register_next]
    exact Nat.lt_succ_of_lt ht.new_lt
  · rw [hheap _ ht.old_lt, hold]; exact ht.oldName
  · rw [hheap _ ht.old_lt, hold]; exact ht.oldRoom
  · rw [hheap _ ht.new_lt, hnew]; exact ht.newName

/-- A join changes room codes and workers only. -/
theorem joinRoom_frame (c : Nat) (roomCode workerID : String) (ok : Bool) :
    gw.registry.SameNames (gw.joinRoom c roomCode workerID ok).registry ∧
      (gw.joinRoom c roomCode workerID ok).session = gw.session := by
  unfold GatewayState.joinRoom
  split
  · exact ⟨.refl _, rfl⟩
  rename_i sid _
  split
  · exact ⟨.refl _, rfl⟩
  rename_i hroom
  have hr : roomCode ≠ "" := fun h => hroom (.inr h)
  have hid := Registry.SameNames.updateIdentity ht.keys (gw.registry.heap sid).playerID hr
  cases ok with
  | false => exact ⟨hid, rfl⟩
  | true => exact ⟨hid.trans (.modify _ sid workerID hr), rfl⟩

theorem joinRoom_view (c : Nat) (roomCode workerID : String) (ok : Bool) :
    T.Tidy (gw.joinRoom c roomCode workerID ok) ∧
      T.view (gw.joinRoom c roomCode workerID ok) = T.view gw := by
  obtain ⟨hs, hc⟩ := joinRoom_frame ht c roomCode workerID ok
  refine ⟨⟨?_, ?_, ?_, ?_, ?_, ?_, ?_, ?_⟩, ?_⟩
  · intro x s hx
    rw [hs.sessions] at hx
    rw [hs.playerID, hs.next]
    exact ht.keys x s hx
  · intro d s hd hdo hdn
    rw [hc] at hd
    rw [hs.playerID, hs.next]
    exact ht.others d s hd hdo hdn
  · rw [hc]; exact ht.newOpen
  · rw [hs.next]; exact ht.old_lt
  · rw [hs.next]; exact ht.new_lt
  · rw [hs.playerID]; exact ht.oldName
  · exact hs.roomCode _ ht.oldRoom
  · rw [hs.playerID]; exact ht.newName
  · simp only [view, hs.sessions, hc, hs.playerID, hs.done]

/-- Re-indexing a session keeps the books in order, as long as the new name is not taken. -/
theorem Tidy.updateIdentity {x : String} {s : SessionId}
    (hx : gw.registry.sessions.lookup x = some s) {y : String} (roomCode : String)
    (hy : s = T.new ∧ y = T.p ∨ x ≠ T.p ∧ x ≠ T.q ∧ y ≠ T.p ∧ y ≠ T.q) :
    T.Tidy { gw with registry := gw.registry.updateIdentity x y roomCode } := by
  have hname := (ht.keys _ _ hx).1
  have hold : s ≠ T.old := by
    rintro rfl
    rcases hy with ⟨h, -⟩ | ⟨h, -⟩
    · exact T.session_ne h
    · exact ht.lookup_ne_old h hx
  have hheap := Registry.updateIdentity_heap hx y roomCode
  have hnext := Registry.updateIdentity_next hx y roomCode
  refine ⟨Registry.Keyed.updateIdentity hx _ _ ht.keys, ?_, ht.newOpen, ?_, ?_, ?_, ?_, ?_⟩
  · intro d s' hd hdo hdn
    have hds := ht.others d s' hd hdo hdn
    simp only [hheap, hnext]
    split
    · rename_i h
      subst h
      rcases hy with ⟨rfl, -⟩ | ⟨-, -, hp, hq⟩
      · rcases ht.newName with hn | hn
        · exact absurd hn hds.1
        · exact absurd hn hds.2.1
      · exact ⟨hp, hq, hds.2.2⟩
    · exact hds
  · simp only [hnext]; exact ht.old_lt
  · simp only [hnext]; exact ht.new_lt
  · simp only [hheap, if_neg hold.symm]; exact ht.oldName
  · simp only [hheap, if_neg hold.symm]; exact ht.oldRoom
  · simp only [hheap]
    split
    · rename_i h
      rcases hy with ⟨-, rfl⟩ | ⟨hp, hq, -⟩
      · exact .inl rfl
      · rw [← h] at hx; exact absurd hx (ht.lookup_ne_new hp hq)
    · exact ht.newName

theorem identity_view {ph : Phase} (hv : T.view gw = ph.view T) {x y : String} (roomCode : String)
    (h : T.Allowed (.identity x y roomCode)) :
    T.Tidy (gw.identity x y roomCode) ∧
      T.view (gw.identity x y roomCode) = (ph.next T (.identity x y roomCode)).view T := by
  simp only [Allowed] at h
  simp only [Phase.next, GatewayState.identity, Registry.getByPlayer]
  have hatQ : gw.registry.sessions.lookup T.q = (ph.view T).atQ := by rw [← hv]; rfl
  rcases h with ⟨rfl, rfl⟩ | ⟨hxq, hxp, hyp, hyq⟩
  · rw [if_neg (show ¬(T.p = "" ∧ roomCode = "") from fun h => T.p_ne h.1),
      if_pos (show T.q = T.q ∧ T.p = T.p from ⟨rfl, rfl⟩)]
    cases hl : gw.registry.sessions.lookup T.q with
    | none =>
      refine ⟨ht, ?_⟩
      rw [hl] at hatQ
      cases ph <;> first | exact hv | cases hatQ
    | some s =>
      simp only [if_neg T.p_ne, T.p_ne_q, ne_eq, not_false_eq_true, true_or, if_true]
      have hs : s = T.new := by
        rw [hl] at hatQ
        cases ph <;> simp [Phase.view] at hatQ <;> exact hatQ
      refine ⟨ht.updateIdentity hl _ (.inl ⟨hs, rfl⟩), ?_⟩
      simp only [view, Registry.updateIdentity_sessions hl, Registry.updateIdentity_heap hl,
        if_true, if_neg T.p_ne_q.symm, hs, if_neg T.session_ne]
      have hold := congrArg View.oldOpen hv
      have hod := congrArg View.oldDone hv
      have hnd := congrArg View.newDone hv
      simp only [view] at hold hod hnd
      rw [hl] at hatQ
      rw [hold, hod, hnd]
      cases ph <;> first | rfl | cases hatQ
  · rw [if_neg (show ¬(x = T.q ∧ y = T.p) from fun h => hxq h.1)]
    split
    · exact ⟨ht, hv⟩
    split
    · exact ⟨ht, hv⟩
    rename_i s hl
    have hyp' : (if y = "" then x else y) ≠ T.p := by split <;> assumption
    have hyq' : (if y = "" then x else y) ≠ T.q := by split <;> assumption
    generalize (if y = "" then x else y) = z at hyp' hyq' ⊢
    generalize (if roomCode = "" then (gw.registry.heap s).roomCode else roomCode) = r
    split
    swap
    · exact ⟨ht, hv⟩
    refine ⟨ht.updateIdentity hl _ (.inr ⟨hxp, hxq, hyp', hyq'⟩), ?_⟩
    have hsold : T.old ≠ s := fun h => ht.lookup_ne_old hxp (h ▸ hl)
    have hsnew : T.new ≠ s := fun h => ht.lookup_ne_new hxp hxq (h ▸ hl)
    rw [← hv]
    simp only [view, Registry.updateIdentity_sessions hl, Registry.updateIdentity_heap hl,
      if_neg hyp'.symm, if_neg hyq'.symm, if_neg hxp.symm, if_neg hxq.symm, if_neg hsold,
      if_neg hsnew]

/-- A teardown that unregisters another name, or the player's, leaves the books in order. -/
theorem Tidy.closeConn {c : Nat} (hc : c ≠ T.newConn) (x : String)
    (closing : Nat → Option Notice) :
    T.Tidy { gw with
      registry := gw.registry.unregister x
      session := Function.update gw.session c none
      closing := closing } := by
  have hk : gw.registry.Keyed := ht.keys
  have hroom : ∀ i, ((gw.registry.unregister x).heap i).roomCode =
      (gw.registry.heap i).roomCode := by
    intro i
    rw [Registry.unregister_heap]
    split <;> rfl
  refine ⟨hk.unregister x, ?_, ?_, ?_, ?_, ?_, ?_, ?_⟩
  · intro d s hd hdo hdn
    simp only [Function.update_apply] at hd
    split at hd
    · cases hd
    · simp only [unregister_playerID, Registry.unregister_next]
      exact ht.others d s hd hdo hdn
  · simp only [Function.update_of_ne hc.symm, ht.newOpen]
  · simp only [Registry.unregister_next]; exact ht.old_lt
  · simp only [Registry.unregister_next]; exact ht.new_lt
  · simp only [unregister_playerID]; exact ht.oldName
  · simp only [hroom]; exact ht.oldRoom
  · simp only [unregister_playerID]; exact ht.newName

omit ht in
/-- What a read error of an open connection comes to. -/
theorem readError_eq {c : Nat} {s : SessionId} (hs : gw.session c = some s) :
    ∃ closing, gw.readError c = { gw with
      registry := gw.registry.unregister (gw.registry.heap s).playerID
      session := Function.update gw.session c none
      closing := closing } := by
  simp only [GatewayState.readError, hs]
  split
  · exact ⟨_, rfl⟩
  · exact ⟨_, rfl⟩

theorem readError_view {ph : Phase} (hv : T.view gw = ph.view T) {c : Nat}
    (hc : c ≠ T.newConn) :
    T.Tidy (gw.readError c) ∧
      T.view (gw.readError c) = (ph.next T (.readError c)).view T := by
  have hk : gw.registry.Keyed := ht.keys
  simp only [Phase.next]
  have hatP : gw.registry.sessions.lookup T.p = (ph.view T).atP := by rw [← hv]; rfl
  have hatQ : gw.registry.sessions.lookup T.q = (ph.view T).atQ := by rw [← hv]; rfl
  have hopen : gw.session T.oldConn = (ph.view T).oldOpen := by rw [← hv]; rfl
  have hname : (gw.registry.heap T.new).playerID = (ph.view T).newName := by rw [← hv]; rfl
  have hod : (gw.registry.heap T.old).done = (ph.view T).oldDone := by rw [← hv]; rfl
  have hnd : (gw.registry.heap T.new).done = (ph.view T).newDone := by rw [← hv]; rfl
  cases hs : gw.session c with
  | none =>
    have : gw.readError c = gw := by simp only [GatewayState.readError, hs]
    rw [this]
    refine ⟨ht, ?_⟩
    split
    · rename_i hco
      rw [← hco, hs] at hopen
      cases ph <;> first | exact hv | cases hopen
    · exact hv
  | some s =>
    obtain ⟨closing, heq⟩ := readError_eq hs
    rw [heq]
    refine ⟨ht.closeConn hc _ _, ?_⟩
    split
    · rename_i hco
      subst hco
      rw [hs] at hopen
      have hsold : s = T.old := by
        cases ph <;> simp [Phase.view] at hopen <;> exact hopen
      subst hsold
      simp only [view, Registry.unregister_sessions hk, ht.oldName, if_true,
        if_neg T.p_ne_q.symm, Function.update_self, Registry.unregister_heap, hatP, hatQ]
      -- the old session is removed when it is still registered, else the new one is
      cases ph with
      | both => simp [Phase.view, Phase.tear, hname, hnd, T.session_ne]
      | renamed => simp [Phase.view, Phase.tear, hname, hod, T.session_ne.symm]
      | torn => cases hopen
      | handedOver => cases hopen
      | lost => cases hopen
    · rename_i hco
      have hx := ht.others c s hs hco hc
      rw [← hv]
      simp only [view, Registry.unregister_sessions hk, if_neg hx.1.symm, if_neg hx.2.1.symm,
        (ht.unregister_heap hx.1 hx.2.1).1, (ht.unregister_heap hx.1 hx.2.1).2,
        Function.update_of_ne (Ne.symm hco)]

omit ht in
theorem notify_frame (gw : GatewayState M) (c : Nat) (ok : Bool) :
    (gw.notify c ok).registry = gw.registry ∧ (gw.notify c ok).session = gw.session := by
  unfold GatewayState.notify
  split <;> exact ⟨rfl, rfl⟩

/-- **Step.** Whatever happens, the books stay in order and the view follows the phase. -/
theorem view_step {ph : Phase} (hv : T.view gw = ph.view T) {e : Event} (he : T.Allowed e) :
    T.Tidy (gw.step e) ∧ T.view (gw.step e) = (ph.next T e).view T := by
  cases e with
  | opened c =>
    obtain ⟨h, h'⟩ := opened_view ht he
    exact ⟨h, h'.trans hv⟩
  | joinRoom c roomCode workerID ok =>
    obtain ⟨h, h'⟩ := joinRoom_view ht c roomCode workerID ok
    exact ⟨h, h'.trans hv⟩
  | identity x y roomCode => exact identity_view ht hv roomCode he
  | readError c => exact readError_view ht hv he
  | notify c ok =>
    obtain ⟨hr, hs⟩ := notify_frame gw c ok
    refine ⟨?_, ?_⟩
    · constructor <;> simp only [GatewayState.step, hr, hs]
      · exact ht.keys
      · exact ht.others
      · exact ht.newOpen
      · exact ht.old_lt
      · exact ht.new_lt
      · exact ht.oldName
      · exact ht.oldRoom
      · exact ht.newName
    · show _ = ph.view T
      rw [← hv]
      simp only [GatewayState.step, view, hr, hs]

/-- **Run.** -/
theorem view_run {ph : Phase} (hv : T.view gw = ph.view T) {es : List Event}
    (hes : ∀ e ∈ es, T.Allowed e) :
    T.Tidy (gw.run es) ∧ T.view (gw.run es) = (es.foldl (Phase.next T) ph).view T := by
  induction es generalizing gw ph with
  | nil => exact ⟨ht, hv⟩
  | cons e es ih =>
    rw [List.forall_mem_cons] at hes
    obtain ⟨ht', hv'⟩ := view_step ht hv hes.1
    exact ih ht' hv' hes.2

end

/-! ## Which phase a run ends in -/

variable (T) in
/-- The old connection's teardown comes before the first re-indexing. -/
def TearsFirst (es : List Event) : Prop :=
  ∃ pre post, es = pre ++ .readError T.oldConn :: post ∧
    ∀ roomCode, .identity T.q T.p roomCode ∉ pre

theorem tearsFirst_cons {e : Event} {es : List Event} (he : e ≠ .readError T.oldConn)
    (hi : ∀ roomCode, e ≠ .identity T.q T.p roomCode) :
    T.TearsFirst (e :: es) ↔ T.TearsFirst es := by
  constructor
  · rintro ⟨pre, post, heq, hpre⟩
    cases pre with
    | nil =>
      simp only [List.nil_append, List.cons.injEq] at heq
      exact absurd heq.1 he
    | cons e' pre =>
      simp only [List.cons_append, List.cons.injEq] at heq
      exact ⟨pre, post, heq.2, fun r h => hpre r (List.mem_cons_of_mem _ h)⟩
  · rintro ⟨pre, post, rfl, hpre⟩
    refine ⟨e :: pre, post, rfl, fun r h => ?_⟩
    rcases List.mem_cons.mp h with h | h
    · exact hi r h.symm
    · exact hpre r h

theorem next_of_ne {e : Event} (he : e ≠ .readError T.oldConn)
    (hi : ∀ roomCode, e ≠ .identity T.q T.p roomCode) (ph : Phase) : ph.next T e = ph := by
  cases e with
  | readError c => exact if_neg fun h => he (by rw [h])
  | identity x y r => exact if_neg fun h => hi r (by rw [h.1, h.2])
  | _ => rfl

/-- Where the phases end, whatever comes. -/
theorem fold_lost (es : List Event) : es.foldl (Phase.next T) .lost = .lost := by
  induction es with
  | nil => rfl
  | cons e es ih =>
    have : Phase.next T .lost e = .lost := by
      cases e <;> simp only [Phase.next, Phase.tear, Phase.rename, ite_self]
    rw [List.foldl_cons, this, ih]

theorem fold_handedOver (es : List Event) :
    es.foldl (Phase.next T) .handedOver = .handedOver := by
  induction es with
  | nil => rfl
  | cons e es ih =>
    have : Phase.next T .handedOver e = .handedOver := by
      cases e <;> simp only [Phase.next, Phase.tear, Phase.rename, ite_self]
    rw [List.foldl_cons, this, ih]

theorem fold_torn {es : List Event} (h : ∃ roomCode, .identity T.q T.p roomCode ∈ es) :
    es.foldl (Phase.next T) .torn = .handedOver := by
  induction es with
  | nil => obtain ⟨r, h⟩ := h; cases h
  | cons e es ih =>
    by_cases hi : ∃ r, e = .identity T.q T.p r
    · obtain ⟨r, rfl⟩ := hi
      have : Phase.next T .torn (.identity T.q T.p r) = .handedOver := by
        simp [Phase.next, Phase.rename]
      rw [List.foldl_cons, this, fold_handedOver]
    · have : Phase.next T .torn e = .torn := by
        by_cases he : e = .readError T.oldConn
        · subst he; simp [Phase.next, Phase.tear]
        · exact next_of_ne he (fun r hr => hi ⟨r, hr⟩) _
      rw [List.foldl_cons, this]
      obtain ⟨r, hr⟩ := h
      rcases List.mem_cons.mp hr with hr | hr
      · exact absurd ⟨r, hr.symm⟩ hi
      · exact ih ⟨r, hr⟩

theorem fold_renamed {es : List Event} (h : .readError T.oldConn ∈ es) :
    es.foldl (Phase.next T) .renamed = .lost := by
  induction es with
  | nil => cases h
  | cons e es ih =>
    by_cases he : e = .readError T.oldConn
    · subst he
      have : Phase.next T .renamed (.readError T.oldConn) = .lost := by
        simp [Phase.next, Phase.tear]
      rw [List.foldl_cons, this, fold_lost]
    · have : Phase.next T .renamed e = .renamed := by
        cases e with
        | readError c => exact if_neg fun h => he (by rw [h])
        | identity x y r => simp only [Phase.next, Phase.rename, ite_self]
        | _ => rfl
      rw [List.foldl_cons, this]
      rcases List.mem_cons.mp h with h | h
      · exact absurd h.symm he
      · exact ih h

/-- The order of the teardown and the re-indexing decides. -/
theorem fold_both {es : List Event} (hr : .readError T.oldConn ∈ es)
    (hi : ∃ roomCode, .identity T.q T.p roomCode ∈ es) :
    T.TearsFirst es ∧ es.foldl (Phase.next T) .both = .handedOver ∨
      ¬T.TearsFirst es ∧ es.foldl (Phase.next T) .both = .lost := by
  induction es with
  | nil => cases hr
  | cons e es ih =>
    obtain ⟨r, hi⟩ := hi
    by_cases he : e = .readError T.oldConn
    · subst he
      have hnext : Phase.next T .both (.readError T.oldConn) = .torn := by
        simp [Phase.next, Phase.tear]
      have hi' : .identity T.q T.p r ∈ es := by
        rcases List.mem_cons.mp hi with h | h
        · cases h
        · exact h
      rw [List.foldl_cons, hnext, fold_torn ⟨r, hi'⟩]
      exact .inl ⟨⟨[], es, rfl, fun _ => List.not_mem_nil⟩, rfl⟩
    by_cases hid : ∃ r', e = .identity T.q T.p r'
    · obtain ⟨r', rfl⟩ := hid
      have hnext : Phase.next T .both (.identity T.q T.p r') = .renamed := by
        simp [Phase.next, Phase.rename]
      have hr' : .readError T.oldConn ∈ es := by
        rcases List.mem_cons.mp hr with h | h
        · cases h
        · exact h
      rw [List.foldl_cons, hnext, fold_renamed hr']
      refine .inr ⟨?_, rfl⟩
      rintro ⟨pre, post, heq, hpre⟩
      cases pre with
      | nil => simp at heq
      | cons e' pre =>
        simp only [List.cons_append, List.cons.injEq] at heq
        exact hpre r' (by rw [heq.1]; exact List.mem_cons_self)
    · have hid' : ∀ r', e ≠ .identity T.q T.p r' := fun r' h => hid ⟨r', h⟩
      rw [List.foldl_cons, next_of_ne he hid', tearsFirst_cons he hid']
      refine ih ?_ ⟨r, ?_⟩
      · rcases List.mem_cons.mp hr with h | h
        · exact absurd h.symm he
        · exact h
      · rcases List.mem_cons.mp hi with h | h
        · exact absurd h.symm (hid' r)
        · exact h

/-! ## The notice to the worker -/

variable (T) in
/-- The old connection's teardown has sent nothing. -/
def Silent (gw : GatewayState M) : Prop := ∀ n, (T.oldConn, n) ∉ gw.sent

/-- Only the old connection's own teardown touches its notice. -/
theorem step_quiet (gw : GatewayState M) {e : Event} (he : T.Allowed e)
    (hr : e ≠ .readError T.oldConn) (hn : ∀ ok, e ≠ .notify T.oldConn ok) :
    (gw.step e).session T.oldConn = gw.session T.oldConn ∧
      (gw.step e).closing T.oldConn = gw.closing T.oldConn ∧
      (T.Silent (gw.step e) ↔ T.Silent gw) := by
  cases e with
  | opened c =>
    exact ⟨by simp only [GatewayState.step, GatewayState.opened, Function.update_of_ne he.1.symm],
      rfl, .rfl⟩
  | joinRoom c roomCode workerID ok =>
    obtain ⟨registry, heq⟩ := gw.joinRoom_registry c roomCode workerID ok
    simp only [GatewayState.step, heq]
    exact ⟨trivial, trivial, .rfl⟩
  | identity x y roomCode =>
    obtain ⟨registry, heq⟩ := gw.identity_registry x y roomCode
    simp only [GatewayState.step, heq]
    exact ⟨trivial, trivial, .rfl⟩
  | readError c =>
    have hc : T.oldConn ≠ c := fun h => hr (by rw [h])
    simp only [GatewayState.step, GatewayState.readError]
    split
    · exact ⟨rfl, rfl, .rfl⟩
    · split <;> simp only [Function.update_of_ne hc, true_and] <;> exact .rfl
  | notify c ok =>
    have hc : T.oldConn ≠ c := fun h => hn ok (by rw [h])
    simp only [GatewayState.step, GatewayState.notify]
    split
    · exact ⟨rfl, rfl, .rfl⟩
    · refine ⟨rfl, by simp only [Function.update_of_ne hc], ?_⟩
      cases ok with
      | false => exact .rfl
      | true =>
        simp only [Silent, if_true, List.mem_append, List.mem_singleton, Prod.mk.injEq, hc,
          false_and, or_false]

/-- A teardown that is over sends nothing more. -/
theorem settled_run {gw : GatewayState M} (hs : gw.session T.oldConn = none)
    (hc : gw.closing T.oldConn = none) {es : List Event} (hes : ∀ e ∈ es, T.Allowed e) :
    T.Silent (gw.run es) ↔ T.Silent gw := by
  induction es generalizing gw with
  | nil => exact .rfl
  | cons e es ih =>
    rw [List.forall_mem_cons] at hes
    have hstep : (gw.step e).session T.oldConn = none ∧ (gw.step e).closing T.oldConn = none ∧
        (T.Silent (gw.step e) ↔ T.Silent gw) := by
      by_cases hr : e = .readError T.oldConn
      · subst hr
        simp only [GatewayState.step, GatewayState.readError, hs]
        exact ⟨trivial, hc, trivial⟩
      by_cases hn : ∃ ok, e = .notify T.oldConn ok
      · obtain ⟨ok, rfl⟩ := hn
        simp only [GatewayState.step, GatewayState.notify, hc]
        exact ⟨hs, trivial, trivial⟩
      · obtain ⟨h1, h2, h3⟩ := step_quiet gw hes.1 hr fun ok h => hn ⟨ok, h⟩
        exact ⟨h1.trans hs, h2.trans hc, h3⟩
    exact (ih hstep.1 hstep.2.1 hes.2).trans hstep.2.2

/-- A teardown that has yet to notify does so. -/
theorem due_run {gw : GatewayState M} (hs : gw.session T.oldConn = none) {n : Notice}
    (hc : gw.closing T.oldConn = some n) (hsil : T.Silent gw) {es : List Event}
    (hes : ∀ e ∈ es, T.Allowed e) {ok : Bool} (hn : ∃ b, .notify T.oldConn b ∈ es)
    (hok : ∀ b, .notify T.oldConn b ∈ es → b = ok) :
    T.Silent (gw.run es) ↔ ok = false := by
  induction es generalizing gw with
  | nil => obtain ⟨b, h⟩ := hn; cases h
  | cons e es ih =>
    rw [List.forall_mem_cons] at hes
    by_cases he : ∃ b, e = .notify T.oldConn b
    · obtain ⟨b, rfl⟩ := he
      obtain rfl : b = ok := hok b List.mem_cons_self
      have hstep : gw.step (.notify T.oldConn b) = { gw with
          closing := Function.update gw.closing T.oldConn none
          sent := if b then gw.sent ++ [(T.oldConn, n)] else gw.sent } := by
        simp only [GatewayState.step, GatewayState.notify, hc]
      show T.Silent ((gw.step _).run es) ↔ _
      rw [hstep]
      refine (settled_run ?_ ?_ hes.2).trans ?_
      · exact hs
      · exact Function.update_self _ _ _
      cases b with
      | false => exact ⟨fun _ => rfl, fun _ => hsil⟩
      | true =>
        refine ⟨fun h => ?_, fun h => Bool.noConfusion h⟩
        exact absurd (List.mem_append_right _ List.mem_cons_self) (h n)
    have he' : ∀ b, e ≠ .notify T.oldConn b := fun b h => he ⟨b, h⟩
    have hn' : ∃ b, .notify T.oldConn b ∈ es := by
      obtain ⟨b, hb⟩ := hn
      rcases List.mem_cons.mp hb with h | h
      · exact absurd h.symm (he' b)
      · exact ⟨b, h⟩
    have hok' : ∀ b, .notify T.oldConn b ∈ es → b = ok :=
      fun b hb => hok b (List.mem_cons_of_mem _ hb)
    by_cases hr : e = .readError T.oldConn
    · subst hr
      have hstep : gw.step (.readError T.oldConn) = gw := by
        simp only [GatewayState.step, GatewayState.readError, hs]
      show T.Silent ((gw.step _).run es) ↔ _
      rw [hstep]
      exact ih hs hc hsil hes.2 hn' hok'
    · obtain ⟨h1, h2, h3⟩ := step_quiet gw hes.1 hr he'
      exact ih (h1.trans hs) (h2.trans hc) (h3.mpr hsil) hes.2 hn' hok'

variable (T) in
/-- The old connection's teardown runs to its end, and the stream's answer to its notice is
`ok`. -/
def TornDown (es : List Event) (ok : Bool) : Prop :=
  (∃ pre post, es = pre ++ .readError T.oldConn :: post ∧ ∃ b, .notify T.oldConn b ∈ post) ∧
    ∀ b, .notify T.oldConn b ∈ es → b = ok

theorem open_run {gw : GatewayState M} (ht : T.Tidy gw) {ph : Phase} (hv : T.view gw = ph.view T)
    (hs : gw.session T.oldConn = some T.old) (hc : gw.closing T.oldConn = none)
    (hsil : T.Silent gw) {es : List Event} (hes : ∀ e ∈ es, T.Allowed e) {ok : Bool}
    (htd : T.TornDown es ok) : T.Silent (gw.run es) ↔ ok = false := by
  induction es generalizing gw ph with
  | nil => obtain ⟨⟨pre, post, h, -⟩, -⟩ := htd; simp at h
  | cons e es ih =>
    obtain ⟨⟨pre, post, heq, hn⟩, hok⟩ := htd
    rw [List.forall_mem_cons] at hes
    have hok' : ∀ b, .notify T.oldConn b ∈ es → b = ok :=
      fun b hb => hok b (List.mem_cons_of_mem _ hb)
    by_cases hr : e = .readError T.oldConn
    · subst hr
      have hstep : (gw.step (.readError T.oldConn)).session T.oldConn = none ∧
          (gw.step (.readError T.oldConn)).closing T.oldConn =
            some ⟨(gw.registry.heap T.old).workerID, T.p, (gw.registry.heap T.old).roomCode⟩ ∧
          T.Silent (gw.step (.readError T.oldConn)) := by
        have hne : ¬(T.p = "" ∨ (gw.registry.heap T.old).roomCode = "") :=
          fun h => h.elim T.p_ne ht.oldRoom
        simp only [GatewayState.step, GatewayState.readError, hs, ht.oldName, if_neg hne,
          Function.update_self]
        exact ⟨trivial, trivial, hsil⟩
      have hn' : ∃ b, .notify T.oldConn b ∈ es := by
        cases pre with
        | nil =>
          simp only [List.nil_append, List.cons.injEq, true_and] at heq
          rw [heq]; exact hn
        | cons e' pre =>
          simp only [List.cons_append, List.cons.injEq] at heq
          obtain ⟨b, hb⟩ := hn
          rw [heq.2]
          exact ⟨b, List.mem_append_right _ (List.mem_cons_of_mem _ hb)⟩
      exact due_run hstep.1 hstep.2.1 hstep.2.2 hes.2 hn' hok'
    · have htd' : T.TornDown es ok := by
        refine ⟨?_, hok'⟩
        cases pre with
        | nil =>
          simp only [List.nil_append, List.cons.injEq] at heq
          exact absurd heq.1 hr
        | cons e' pre =>
          simp only [List.cons_append, List.cons.injEq] at heq
          exact ⟨pre, post, heq.2, hn⟩
      obtain ⟨ht', hv'⟩ := view_step ht hv hes.1
      have hstep : (gw.step e).session T.oldConn = some T.old ∧
          (gw.step e).closing T.oldConn = none ∧ T.Silent (gw.step e) := by
        by_cases he : ∃ b, e = .notify T.oldConn b
        · obtain ⟨b, rfl⟩ := he
          simp only [GatewayState.step, GatewayState.notify, hc]
          exact ⟨hs, trivial, hsil⟩
        · obtain ⟨h1, h2, h3⟩ := step_quiet gw hes.1 hr fun b h => he ⟨b, h⟩
          exact ⟨h1.trans hs, h2.trans hc, h3.mpr hsil⟩
      exact ih ht' hv' hstep.1 hstep.2.1 hstep.2.2 hes.2 htd'

/-! ## The takeover -/

variable (T)

/-- The state a takeover starts from: the old session registered under `p` with its connection
open and nothing of its teardown done, the new one registered under its pending id. -/
structure Begins (gw : GatewayState M) : Prop where
  tidy : T.Tidy gw
  both : T.view gw = Phase.both.view T
  closing : gw.closing T.oldConn = none
  silent : T.Silent gw

/-- What the reconnect should leave behind. -/
structure HandedOver (gw : GatewayState M) : Prop where
  registered : gw.registry.sessions.lookup T.p = some T.new
  pumping : (gw.registry.heap T.new).done = false
  stopped : (gw.registry.heap T.old).done = true
  silent : T.Silent gw

/-- **The takeover succeeds exactly when the old connection's teardown comes before the
re-indexing and the worker's stream does not take its notice.** -/
theorem handedOver_iff {gw : GatewayState M} (hb : T.Begins gw) {es : List Event} {ok : Bool}
    (hes : ∀ e ∈ es, T.Allowed e) (hid : ∃ roomCode, .identity T.q T.p roomCode ∈ es)
    (htd : T.TornDown es ok) :
    T.HandedOver (gw.run es) ↔ T.TearsFirst es ∧ ok = false := by
  have hopen : gw.session T.oldConn = some T.old := congrArg View.oldOpen hb.both
  have hsil := open_run hb.tidy hb.both hopen hb.closing hb.silent hes htd
  have hr : .readError T.oldConn ∈ es := by
    obtain ⟨⟨pre, post, heq, -⟩, -⟩ := htd
    rw [heq]
    exact List.mem_append_right _ List.mem_cons_self
  obtain ⟨-, hv⟩ := view_run hb.tidy hb.both hes
  rcases fold_both hr hid with ⟨hfirst, hph⟩ | ⟨hfirst, hph⟩
  · rw [hph] at hv
    constructor
    · intro h
      exact ⟨hfirst, hsil.mp h.silent⟩
    · rintro ⟨-, hok⟩
      exact ⟨congrArg View.atP hv, congrArg View.newDone hv, congrArg View.oldDone hv,
        hsil.mpr hok⟩
  · rw [hph] at hv
    constructor
    · intro h
      have hp : (T.view (gw.run es)).atP = some T.new := h.registered
      rw [hv] at hp
      cases hp
    · rintro ⟨h, -⟩
      exact absurd h hfirst

/-- Player `p` reloads the page: connection 2 takes over from connection 1. -/
def reload : Takeover where
  p := "p"
  q := "pending_2"
  oldConn := 1
  newConn := 2
  old := 0
  new := 1
  p_ne_q := by decide
  p_ne := by decide
  conn_ne := by decide
  session_ne := by decide

/-- Connection 2 sends its `reconnect`, which the worker has yet to confirm. -/
def beforeReload : List Event :=
  [.opened 1, .joinRoom 1 "ROOM01" "w1" true, .identity "pending_1" "p" "ROOM01", .opened 2,
    .joinRoom 2 "ROOM01" "w1" true]

def reloading : GatewayState Unit := GatewayState.new.run beforeReload

theorem reload_begins : reload.Begins reloading := by
  have hclosing : reloading.closing = (fun _ => none) ∧ reloading.sent = [] :=
    GatewayState.closing_run rfl (by simp [beforeReload])
  refine ⟨⟨GatewayState.keyed_run _, ?_, ?_, ?_, ?_, ?_, ?_, ?_⟩, ?_, ?_, ?_⟩
  · intro c s hs h1 h2
    have : reloading.session c = none :=
      GatewayState.session_run rfl (by simpa [beforeReload] using ⟨h1, h2⟩)
    rw [this] at hs
    cases hs
  · decide +kernel
  · decide +kernel
  · decide +kernel
  · decide +kernel
  · decide +kernel
  · decide +kernel
  · decide +kernel
  · exact congrFun hclosing.1 _
  · intro n hn
    rw [hclosing.2] at hn
    cases hn

/-- The worker confirms before the gateway sees that the old connection has gone. -/
theorem reload_loses_session :
    reload.Begins reloading ∧
      ¬reload.HandedOver (reloading.run
        [.identity "pending_2" "p" "ROOM01", .readError 1, .notify 1 true]) := by
  refine ⟨reload_begins, fun h => ?_⟩
  have := h.registered
  revert this
  decide +kernel

theorem reload_after_teardown :
    reload.HandedOver (reloading.run
      [.readError 1, .notify 1 false, .identity "pending_2" "p" "ROOM01"]) := by
  refine (reload.handedOver_iff reload_begins ?_ ⟨"ROOM01", ?_⟩ ⟨?_, ?_⟩).mpr
    ⟨⟨[], _, rfl, ?_⟩, rfl⟩
  · intro e he
    simp only [List.mem_cons, List.not_mem_nil, or_false] at he
    rcases he with rfl | rfl | rfl
    · exact show 1 ≠ 2 by decide
    · trivial
    · exact .inl ⟨rfl, rfl⟩
  · decide
  · exact ⟨[], _, rfl, false, by decide⟩
  · intro b hb
    simpa [reload] using hb
  · exact fun _ => List.not_mem_nil

end Takeover

end Skribbl.Gateway
