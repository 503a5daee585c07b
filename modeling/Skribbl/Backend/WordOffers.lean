import Skribbl.Lib.Sampling
import Skribbl.Backend.WordPacks
import Skribbl.Backend.Settings

/-!
# Word offers (`draw_word_pack_choices`)

* `offered` — the packs that are offered, as a function of the room and the random numbers.
* `FairOffer` — three packs, with words that belong to them, and unused ones if there are enough.
* `AcceptsWord` — `handle_word_selection` makes a turn of the word.

Principal result: `wordOffers_iff` — an offer is always fair and what is accepted is what was
offered; but its words are distinct iff "cookie", which the food pack has twice, is used and the
food pack has still three unused words.
-/

set_option autoImplicit false

namespace Skribbl.Backend

open Coro Sampling

variable {env : Env} {r : RoomId} {w : World} {room : Room} {o : List Nat}

/-! ## The packs that are drawn -/

/-- The words of a pack that are not used. -/
def unusedWords (room : Room) (words : List String) : List String :=
  words.filter (· ∉ room.usedWords)

/-- The words that are sampled: the unused ones if there are three. -/
def available (room : Room) (words : List String) : List String :=
  if (unusedWords room words).length < 3 then words else unusedWords room words

/-- A pack with the words that are sampled of it. -/
def drawn (room : Room) (o : List Nat) (pack : Pack) : Pack :=
  ⟨pack.theme, pick o (available room pack.words) (min 3 (available room pack.words).length)⟩

/-- How many random numbers a pack takes. -/
def spent (room : Room) (pack : Pack) : Nat := min 3 (available room pack.words).length

/-- The packs, drawn one after another. -/
def drawnPacks (room : Room) : List Nat → List Pack → List Pack
  | _, [] => []
  | o, pack :: packs => drawn room o pack :: drawnPacks room (o.drop (spent room pack)) packs

/-- The custom pack of a room. -/
def customPacks (room : Room) : List Pack :=
  if room.config.customWords = [] then [] else [⟨customTheme, room.config.customWords⟩]

/-- The packs of an offer. -/
def offered (env : Env) (room : Room) (o : List Nat) : List Pack :=
  let custom := customPacks room
  let o' := o.drop (custom.map (spent room)).sum
  let n := min (3 - custom.length) env.wordPacks.length
  drawnPacks room o custom ++ drawnPacks room (o'.drop n) (pick o' env.wordPacks n)

@[simp] theorem length_drawnPacks (packs : List Pack) :
    (drawnPacks room o packs).length = packs.length := by
  induction packs generalizing o with
  | nil => rfl
  | cons pack packs ih => rw [drawnPacks, List.length_cons, List.length_cons, ih]

/-- The state after `k` random numbers. -/
def World.spend (w : World) (k : Nat) : World := (Update.oracle (w.oracle.drop k)).apply w

@[simp] theorem World.spend_room (w : World) (k : Nat) : (w.spend k).room = w.room := rfl
@[simp] theorem World.spend_oracle (w : World) (k : Nat) :
    (w.spend k).oracle = w.oracle.drop k := rfl

theorem World.spend_spend (w : World) (i k : Nat) : (w.spend i).spend k = w.spend (i + k) := by
  change (Update.oracle ((w.oracle.drop i).drop k)).apply w = _
  rw [List.drop_drop]
  rfl

theorem sample_exec {α : Type} {l : List α} {k : Nat} (hk : k ≤ l.length) :
    (sample l k).exec w = (.ok (pick w.oracle l k), w.spend k) := by
  induction k generalizing l w with
  | zero =>
    unfold sample
    rfl
  | succ k ih =>
    cases l with
    | nil => exact absurd hk (by simp)
    | cons a l =>
      have hi : w.oracle.headD 0 % (l.length + 1) < (a :: l).length :=
        Nat.mod_lt _ l.length.succ_pos
      have hlen : k ≤ ((a :: l).eraseIdx (w.oracle.headD 0 % (l.length + 1))).length := by
        rw [List.length_eraseIdx_of_lt hi]
        simpa using hk
      have hrandom : (randrange (l.length + 1)).exec w =
          (.ok (w.oracle.headD 0 % (l.length + 1)), w.spend 1) := by
        unfold World.spend
        rw [List.drop_one]
        rfl
      have hrest := ih (w := w.spend 1) hlen
      rw [World.spend_spend, Nat.add_comm 1 k] at hrest
      unfold sample
      rw [exec_bind hrandom, exec_bind hrest, World.spend_oracle, List.drop_one]
      rfl

theorem drawFromPack_exec (pack : Pack) :
    (drawFromPack r pack.theme pack.words).exec w =
      (.ok (drawn (w.room r) w.oracle pack), w.spend (spent (w.room r) pack)) := by
  change (sample (available (w.room r) pack.words) (spent (w.room r) pack) >>= fun selected =>
    (return ⟨pack.theme, selected⟩ : M Pack)).exec w = _
  have hsample : (sample (available (w.room r) pack.words) (spent (w.room r) pack)).exec w = _ :=
    sample_exec (Nat.min_le_right _ _)
  rw [exec_bind hsample]
  rfl

theorem drawFromPacks_exec (packs : List Pack) :
    (drawFromPacks r packs).exec w = (.ok (drawnPacks (w.room r) w.oracle packs),
      w.spend (packs.map (spent (w.room r))).sum) := by
  induction packs generalizing w with
  | nil => rfl
  | cons pack packs ih =>
    have hrest := ih (w := w.spend (spent (w.room r) pack))
    rw [World.spend_spend, World.spend_room] at hrest
    unfold drawFromPacks
    rw [exec_bind (drawFromPack_exec pack), exec_bind hrest, List.map_cons, List.sum_cons]
    rfl

theorem drawCustomPack_exec : (drawCustomPack r).exec w =
    (.ok (drawnPacks (w.room r) w.oracle (customPacks (w.room r))),
      w.spend ((customPacks (w.room r)).map (spent (w.room r))).sum) := by
  change (if (w.room r).config.customWords = [] then _ else _ : M (List Pack)).exec w = _
  unfold customPacks
  split
  · rfl
  · exact drawFromPacks_exec _

/-- `draw_word_pack_choices` never raises, and offers these packs. -/
theorem drawWordPackChoices_exec (env : Env) (r : RoomId) (w : World) :
    ∃ k, (drawWordPackChoices env r).exec w =
      (.ok (offered env (w.room r) w.oracle), w.spend k) := by
  unfold drawWordPackChoices
  rw [exec_bind drawCustomPack_exec, exec_bind (sample_exec (Nat.min_le_right _ _)),
    exec_bind (drawFromPacks_exec _)]
  simp only [World.spend_spend, World.spend_oracle, World.spend_room, length_drawnPacks, offered,
    List.drop_drop]
  exact ⟨_, rfl⟩

/-! ## What is always so -/

/-- The packs that may be on offer in a room. -/
def packsFor (env : Env) (room : Room) : List Pack := customPacks room ++ env.wordPacks

/-- The words of a drawn pack are the pack's, and unused ones if it has three of these. -/
structure DrawnFrom (room : Room) (pack source : Pack) : Prop where
  theme : pack.theme = source.theme
  nonempty : pack.words ≠ []
  belong : ∀ word ∈ pack.words, word ∈ source.words
  unused : 3 ≤ (unusedWords room source.words).length →
    ∀ word ∈ pack.words, word ∉ room.usedWords

/-- Three packs with different ids, drawn from those of the room. -/
structure FairOffer (env : Env) (room : Room) (packs : List Pack) : Prop where
  three : packs.length = 3
  ids : (packs.map (·.theme.id)).Nodup
  drawn : ∀ pack ∈ packs, ∃ source ∈ packsFor env room, DrawnFrom room pack source

theorem available_subset (room : Room) (words : List String) {word : String}
    (h : word ∈ available room words) : word ∈ words := by
  unfold available at h
  split at h
  · exact h
  · exact List.mem_of_mem_filter h

theorem available_ne_nil {words : List String} (h : words ≠ []) : available room words ≠ [] := by
  unfold available
  split
  · exact h
  · rintro hnil
    simp_all

theorem drawn_drawnFrom {pack : Pack} (h : pack.words ≠ []) :
    DrawnFrom room (drawn room o pack) pack := by
  have hlen : min 3 (available room pack.words).length ≤ (available room pack.words).length :=
    Nat.min_le_right _ _
  refine ⟨rfl, fun hnil => ?_, fun word hw => ?_, fun hthree word hw => ?_⟩
  · have hpick := length_pick (o := o) hlen
    have hpos : 0 < (available room pack.words).length :=
      List.length_pos_iff.mpr (available_ne_nil h)
    change pick o _ _ = [] at hnil
    rw [hnil, List.length_nil] at hpick
    omega
  · exact available_subset room _ (mem_of_mem_pick hlen hw)
  · have hmem := mem_of_mem_pick hlen hw
    rw [available, if_neg (Nat.not_lt.mpr hthree)] at hmem
    simpa using (List.mem_filter.mp hmem).2

theorem drawnPacks_drawnFrom {packs : List Pack} (h : ∀ pack ∈ packs, pack.words ≠ []) :
    ∀ pack ∈ drawnPacks room o packs, ∃ source ∈ packs, DrawnFrom room pack source := by
  induction packs generalizing o with
  | nil => exact List.forall_mem_nil _
  | cons source packs ih =>
    intro pack hpack
    rcases List.mem_cons.mp hpack with rfl | hpack
    · exact ⟨source, List.mem_cons_self, drawn_drawnFrom (h source List.mem_cons_self)⟩
    · obtain ⟨source', hmem, hdrawn⟩ := ih (fun p hp => h p (List.mem_cons_of_mem _ hp)) pack hpack
      exact ⟨source', List.mem_cons_of_mem _ hmem, hdrawn⟩

theorem themes_drawnPacks (packs : List Pack) :
    (drawnPacks room o packs).map (·.theme.id) = packs.map (·.theme.id) := by
  induction packs generalizing o with
  | nil => rfl
  | cons pack packs ih => rw [drawnPacks, List.map_cons, List.map_cons, ih]; rfl

theorem length_customPacks_le (room : Room) : (customPacks room).length ≤ 1 := by
  unfold customPacks
  split <;> simp

theorem words_customPacks (room : Room) : ∀ pack ∈ customPacks room, pack.words ≠ [] := by
  unfold customPacks
  split
  · exact List.forall_mem_nil _
  · simpa using ‹room.config.customWords ≠ []›

theorem id_customPacks (room : Room) : ∀ pack ∈ customPacks room, pack.theme.id = "custom" := by
  unfold customPacks
  split
  · exact List.forall_mem_nil _
  · simp [customTheme]

theorem offered_drawn (room : Room) (o : List Nat) : ∀ pack ∈ offered env room o,
    ∃ source ∈ packsFor env room, DrawnFrom room pack source := by
  intro pack hpack
  have hle : min (3 - (customPacks room).length) env.wordPacks.length ≤ env.wordPacks.length :=
    Nat.min_le_right _ _
  rcases List.mem_append.mp hpack with hpack | hpack
  · obtain ⟨source, hmem, hdrawn⟩ := drawnPacks_drawnFrom (words_customPacks room) pack hpack
    exact ⟨source, List.mem_append_left _ hmem, hdrawn⟩
  · obtain ⟨source, hmem, hdrawn⟩ := drawnPacks_drawnFrom
      (fun p hp => env.words_ne p (mem_of_mem_pick hle hp)) pack hpack
    exact ⟨source, List.mem_append_right _ (mem_of_mem_pick hle hmem), hdrawn⟩

/-- With packs of different ids, none of them "custom", an offer is fair. -/
theorem offered_fair (hthree : 3 ≤ env.wordPacks.length)
    (hids : (env.wordPacks.map (·.theme.id)).Nodup)
    (hcustom : "custom" ∉ env.wordPacks.map (·.theme.id)) (room : Room) (o : List Nat) :
    FairOffer env room (offered env room o) := by
  have hone := length_customPacks_le room
  have hle : min (3 - (customPacks room).length) env.wordPacks.length ≤ env.wordPacks.length :=
    Nat.min_le_right _ _
  constructor
  · rw [offered, List.length_append, length_drawnPacks, length_drawnPacks, length_pick hle]
    omega
  · rw [offered, List.map_append, themes_drawnPacks, themes_drawnPacks]
    obtain ⟨t, ht⟩ := pick_perm (o := o.drop ((customPacks room).map (spent room)).sum) hle
    have hpicked := (ht.map (·.theme.id)).nodup_iff.mpr hids
    rw [List.map_append] at hpicked
    refine List.nodup_append'.mpr ⟨?_, hpicked.of_append_left, fun id hid hmem => ?_⟩
    · unfold customPacks
      split <;> simp
    · obtain ⟨pack, hpack, rfl⟩ := List.mem_map.mp hid
      obtain ⟨source, hsource, heq⟩ := List.mem_map.mp hmem
      rw [id_customPacks room pack hpack] at heq
      exact hcustom (List.mem_map.mpr ⟨source, mem_of_mem_pick hle hsource, heq⟩)
  · exact offered_drawn room o

/-! ## The selection -/

/-- `handle_word_selection` makes a turn of the word, and goes on to announce it. -/
def AcceptsWord (env : Env) (r : RoomId) (d : PlayerId) (word : String) (w : World) : Prop :=
  ∃ turn w₁, turn.word = word ∧ turn.drawerId = d ∧ (w₁.room r).turn = some turn ∧
    (w₁.room r).state = .playing ∧ (handleWordSelection env r d word).exec w =
      (announceTurn r (w.room r) turn).exec w₁

/-- `handle_word_selection` does nothing. -/
def IgnoresWord (env : Env) (r : RoomId) (d : PlayerId) (word : String) (w : World) : Prop :=
  (handleWordSelection env r d word).exec w = (.ok (), w)

variable {d : PlayerId} {words : List String}

theorem beginTurn_makes (env : Env) (r : RoomId) (d : PlayerId) (word : String) (w : World) :
    (beginTurn env r d word).wp .atomic 0 (fun turn v' => turn.word = word ∧ turn.drawerId = d ∧
      (v'.state.room r).turn = some turn ∧ (v'.state.room r).state = .playing) ⟨w, 0, []⟩ := by
  have hcancel : (cancelAutoSelect r).wp .atomic 0 (fun _ _ => True)
      (⟨w, 0, []⟩ : View World Frame Mark) := by
    unfold cancelAutoSelect
    simp only [wp_bind, wp_read, wp_put, wp_elim, wp_when, wp_cancel, wp_pure]
    exact ⟨fun _ => trivial, fun _ _ => ⟨fun _ => trivial, fun _ => trivial⟩⟩
  unfold beginTurn
  rw [wp_bind]
  refine wp_mono hcancel fun _ v _ => ?_
  simp only [wp_bind, wp_read, wp_put, wp_pure]
  refine wp_mono (wp_each (fun _ (v' : View World Frame Mark) => (v'.state.room r).turn =
    some (makeTurn env v.state r d word v.state.nextTurn) ∧
      (v'.state.room r).state = .playing) (fun _ _ _ h => ?_) ⟨?_, ?_⟩) fun _ v' h => ⟨rfl, rfl, ?_⟩
  · exact h
  · simp [Update.apply, RoomUpdate.apply]
  · simp [Update.apply, RoomUpdate.apply]
  · simpa [Update.apply, RoomUpdate.apply] using h

theorem handleWordSelection_accepts {word : String}
    (hdrawer : (w.room r).players[(w.room r).drawerIndex]? = some d)
    (hpending : (w.room r).pendingWordChoices = some words) :
    (word ∈ words → AcceptsWord env r d word w) ∧ (word ∉ words → IgnoresWord env r d word w) := by
  have hcall : (handleWordSelection env r d word).exec w =
      (if word ∉ words then return () else do
        let turn ← beginTurn env r d word
        announceTurn r (w.room r) turn : M Unit).exec w := by
    change (Option.elim (w.room r).players[(w.room r).drawerIndex]? _ _ : M Unit).exec w = _
    rw [hdrawer]
    change (if d ≠ d then _ else if word ∉ (w.room r).pendingWordChoices.getD [] then _ else _ :
      M Unit).exec w = _
    rw [hpending, if_neg (by simp)]
    rfl
  refine ⟨fun hword => ?_, fun hword => ?_⟩
  · rw [if_neg (by simpa using hword)] at hcall
    have hends : (beginTurn env r d word).Ends Eq w _ _ := ends_exec _ w
    obtain ⟨turn, tr, hok, hword, hdr, hturn, hstate⟩ :=
      Ends.of_atomic (beginTurn_makes env r d word w) hends
    refine ⟨turn, ((beginTurn env r d word).exec w).2, hword, hdr, hturn, hstate, ?_⟩
    rw [hcall]
    exact exec_bind (Prod.ext hok rfl)
  · rw [if_pos hword] at hcall
    exact hcall

/-- The rest of `start_turn`, after the words are stored. -/
def announceOffer (r : RoomId) (drawerId : PlayerId) (code : String) (packs : List Pack) :
    M Unit := do
  sendToPlayer r drawerId (.wordChoices (packs.filterMap (·.words.head?)) packs) false
  put (.room r (.state .wordSelection))
  let drawer ← readPlayer r drawerId
  broadcast code (.drawerSelecting drawerId drawer.name)
  let t ← createTask (.autoSelect r drawerId) 15
  put (.room r (.autoSelectTask (some (drawerId, t))))

instance (r : RoomId) (drawerId : PlayerId) (code : String) (packs : List Pack) :
    Coro.Within (fp [.state, .autoSelect]) (announceOffer r drawerId code packs) := by
  unfold announceOffer; infer_instance

/-- `start_turn` stores what is offered, for the drawer. -/
theorem startTurn_stores (env : Env) (hr : r < w.nextRoom)
    (hdrawer : (w.room r).players[(w.room r).drawerIndex]? = some d) :
    let v := ((startTurn env r).exec w).2
    (v.room r).players[(v.room r).drawerIndex]? = some d ∧ (v.room r).pendingWordChoices =
      some ((offered env (w.room r) w.oracle).flatMap (·.words)) := by
  obtain ⟨k, hdraw⟩ := drawWordPackChoices_exec env r w
  have hcall : (startTurn env r).exec w = (announceOffer r d (w.room r).code
      (offered env (w.room r) w.oracle)).exec ((Update.room r (.pendingWordChoices
        (some (offered env (w.room r) w.oracle)))).apply (w.spend k)) := by
    change (Option.elim (w.room r).players[(w.room r).drawerIndex]? _ _ : M Unit).exec w = _
    rw [hdrawer]
    exact exec_bind hdraw
  intro v
  have hends : (announceOffer r d (w.room r).code (offered env (w.room r) w.oracle)).Ends Eq
      ((Update.room r (.pendingWordChoices
        (some (offered env (w.room r) w.oracle)))).apply (w.spend k)) _ _ :=
    ends_exec _ _
  rw [← hcall] at hends
  refine (Ends.within (P := fp [.state, .autoSelect]) (G := fun v => r < v.nextRoom ∧
    (v.room r).players[(v.room r).drawerIndex]? = some d ∧ (v.room r).pendingWordChoices =
      some ((offered env (w.room r) w.oracle).flatMap (·.words))) inferInstance
    (fun v v' h hv => ⟨hv.1.trans_le h.1.nextRoom, ?_, ?_⟩)
    (fun v v' h hv => by subst h; exact hv) hends ?_).2
  · have hmembers := (same_of_fp h .members).room r hv.1
    have hschedule := (same_of_fp h .schedule).room r hv.1
    rw [hmembers, hschedule.1]
    exact hv.2.1
  · exact ((same_of_fp h .pending).room r hv.1).trans hv.2.2
  · refine ⟨hr, ?_, ?_⟩
    · simpa [Update.apply, RoomUpdate.apply] using hdrawer
    · simp [Update.apply, RoomUpdate.apply]

/-! ## Distinct words -/

/-- What is sampled has no word twice. -/
def Distinct (room : Room) (pack : Pack) : Prop := (available room pack.words).Nodup

theorem nodup_available {words : List String} (h : words.Nodup) : (available room words).Nodup := by
  unfold available
  split
  · exact h
  · exact h.filter _

theorem distinct_drawnPacks {packs : List Pack} (h : ∀ pack ∈ packs, Distinct room pack) :
    ∀ pack ∈ drawnPacks room o packs, pack.words.Nodup := by
  induction packs generalizing o with
  | nil => exact List.forall_mem_nil _
  | cons source packs ih =>
    intro pack hpack
    rcases List.mem_cons.mp hpack with rfl | hpack
    · exact nodup_pick (Nat.min_le_right _ _) (h source List.mem_cons_self)
    · exact ih (fun p hp => h p (List.mem_cons_of_mem _ hp)) pack hpack

/-- A pack with a word twice may be drawn so, and only its own random numbers count. -/
theorem exists_drawn_twice {pack : Pack} (h : ¬Distinct room pack) :
    ∃ o : List Nat, ∀ o', ¬(drawn room (o ++ o') pack).words.Nodup := by
  have hlen : 2 ≤ (available room pack.words).length := by
    obtain ⟨a, ha⟩ := List.exists_duplicate_iff_not_nodup.mpr h
    exact (List.duplicate_iff_sublist.mp ha).length_le
  obtain ⟨o, ho, htwice⟩ := exists_pick_twice h (k := min 3 (available room pack.words).length)
    (by omega) (Nat.min_le_right _ _)
  refine ⟨o, fun o' => ?_⟩
  change ¬(pick (o ++ o') _ _).Nodup
  rwa [pick_append ho]

/-! ## The packs of `WORD_PACKS` -/

theorem length_wordPacks : wordPacks.length = 8 := rfl

theorem ids_wordPacks : (wordPacks.map (·.theme.id)).Nodup := by decide +kernel

theorem custom_not_mem_wordPacks : "custom" ∉ wordPacks.map (·.theme.id) := by decide +kernel

/-- The food pack is the only one with a word twice. -/
theorem nodup_wordPacks : ∀ pack ∈ wordPacks, pack ≠ foodPack → pack.words.Nodup := by
  decide +kernel

/-- The word that the food pack has twice is the only one. -/
theorem nodup_food : (foodPack.words.filter (· ≠ "cookie")).Nodup := by decide +kernel

theorem cookie_twice : foodPack.words.count "cookie" = 2 := by decide +kernel

/-- The food pack is sampled distinctly iff "cookie" is used and three other words are not. -/
theorem distinct_food : Distinct room foodPack ↔
    "cookie" ∈ room.usedWords ∧ 3 ≤ (unusedWords room foodPack.words).length := by
  unfold Distinct available
  split
  · rename_i hfew
    refine ⟨fun h => ?_, fun h => absurd hfew (Nat.not_lt.mpr h.2)⟩
    have hcount := List.nodup_iff_count_le_one.mp h "cookie"
    rw [cookie_twice] at hcount
    exact absurd hcount (by decide)
  · rename_i hfew
    refine ⟨fun h => ⟨?_, Nat.not_lt.mp hfew⟩, fun h => ?_⟩
    · by_contra hused
      have hcount := List.nodup_iff_count_le_one.mp h "cookie"
      rw [unusedWords, List.count_filter (by simpa using hused), cookie_twice] at hcount
      exact absurd hcount (by decide)
    · have hfilter : unusedWords room foodPack.words =
          (foodPack.words.filter (· ≠ "cookie")).filter (· ∉ room.usedWords) := by
        rw [List.filter_filter]
        refine List.filter_congr fun word _ => ?_
        by_cases hword : word = "cookie"
        · simp [hword, h.1]
        · simp [hword]
      rw [hfilter]
      exact nodup_food.filter _

/-- Some random numbers choose the food pack first. -/
theorem exists_food_first {n : Nat} (hn : 0 < n) (hle : n ≤ 3) : ∃ o : List Nat, o.length = n ∧
    ∀ o', ∃ packs, pick (o ++ o') wordPacks n = foodPack :: packs := by
  obtain rfl | rfl | rfl : n = 1 ∨ n = 2 ∨ n = 3 := by omega
  · exact ⟨[1], rfl, fun _ => ⟨_, rfl⟩⟩
  · exact ⟨[1, 0], rfl, fun _ => ⟨_, rfl⟩⟩
  · exact ⟨[1, 0, 0], rfl, fun _ => ⟨_, rfl⟩⟩

/-- The packs of a room are sampled distinctly: "cookie" is used, three other food words are not,
and the custom words on offer are distinct. -/
structure DistinctOffers (room : Room) : Prop where
  custom : ∀ pack ∈ customPacks room, Distinct room pack
  cookie : "cookie" ∈ room.usedWords
  food : 3 ≤ (unusedWords room foodPack.words).length

theorem DistinctOffers.packs (h : DistinctOffers room) :
    ∀ pack ∈ wordPacks, Distinct room pack := by
  intro pack hpack
  by_cases hfood : pack = foodPack
  · subst hfood
    exact distinct_food.mpr ⟨h.cookie, h.food⟩
  · exact nodup_available (nodup_wordPacks pack hpack hfood)

theorem distinct_offered_iff (henv : env.wordPacks = wordPacks) :
    (∀ o, ∀ pack ∈ offered env room o, pack.words.Nodup) ↔ DistinctOffers room := by
  have hone := length_customPacks_le room
  constructor
  · intro h
    have hcustom : ∀ pack ∈ customPacks room, Distinct room pack := by
      intro pack hpack
      by_contra hnot
      obtain ⟨o, ho⟩ := exists_drawn_twice hnot
      have hsingle : customPacks room = [pack] := by
        obtain ⟨source, hsource⟩ := List.length_eq_one_iff.mp
          (le_antisymm hone (List.length_pos_of_mem hpack))
        rw [hsource] at hpack ⊢
        rw [List.mem_singleton.mp hpack]
      have hmem : drawn room (o ++ []) pack ∈ offered env room (o ++ []) := by
        unfold offered
        rw [hsingle]
        exact List.mem_append_left _ List.mem_cons_self
      exact ho [] (h _ _ hmem)
    have hfood : Distinct room foodPack := by
      by_contra hnot
      obtain ⟨o, ho⟩ := exists_drawn_twice hnot
      obtain ⟨first, hlen, hfirst⟩ := exists_food_first (n := min (3 - (customPacks room).length) 8)
        (by omega) (by omega)
      -- the random numbers of the custom pack, of the choice of the packs and of the food pack
      have hmem : drawn room (o ++ []) foodPack ∈ offered env room
          (List.replicate ((customPacks room).map (spent room)).sum 0 ++ (first ++ o)) := by
        unfold offered
        dsimp only
        rw [henv, length_wordPacks, List.drop_left' List.length_replicate,
          List.drop_left' hlen]
        obtain ⟨packs, hpacks⟩ := hfirst o
        simp only [hpacks]
        rw [List.append_nil]
        exact List.mem_append_right _ List.mem_cons_self
      exact ho [] (h _ _ hmem)
    exact ⟨hcustom, (distinct_food.mp hfood).1, (distinct_food.mp hfood).2⟩
  · intro h o pack hpack
    rcases List.mem_append.mp hpack with hpack | hpack
    · exact distinct_drawnPacks h.custom pack hpack
    · refine distinct_drawnPacks (fun source hsource => ?_) pack hpack
      exact h.packs source (henv ▸ mem_of_mem_pick (Nat.min_le_right _ _) hsource)

/-! ## Every offer -/

/-- With the random numbers `o`: the draw does not raise and is fair, and the drawer's selection is
accepted iff it was offered. -/
structure Offers (env : Env) (r : RoomId) (w : World) (packs : List Pack) : Prop where
  drawn : ((drawWordPackChoices env r).exec w).1 = .ok packs
  fair : FairOffer env (w.room r) packs
  selection : ∀ d, (w.room r).players[(w.room r).drawerIndex]? = some d → ∀ word,
    let v := ((startTurn env r).exec w).2
    (word ∈ packs.flatMap (·.words) → AcceptsWord env r d word v) ∧
      (word ∉ packs.flatMap (·.words) → IgnoresWord env r d word v)

theorem offers_of_draw (henv : env.wordPacks = wordPacks) (hr : r < w.nextRoom) :
    Offers env r w (offered env (w.room r) w.oracle) := by
  obtain ⟨k, hdraw⟩ := drawWordPackChoices_exec env r w
  refine ⟨by rw [hdraw], ?_, fun d hd word => ?_⟩
  · exact offered_fair (by rw [henv, length_wordPacks]; decide) (henv ▸ ids_wordPacks)
      (henv ▸ custom_not_mem_wordPacks) _ _
  · obtain ⟨hdrawer, hpending⟩ := startTurn_stores env hr hd
    exact handleWordSelection_accepts hdrawer hpending

/-- The state with other random numbers to come. -/
def World.withOracle (w : World) (o : List Nat) : World := (Update.oracle o).apply w

/-- **Every offer is as it should be, whatever the random numbers; but its packs never have a word
twice iff** "cookie" is used, three other food words are not, and the custom words are distinct. -/
theorem wordOffers_iff (henv : env.wordPacks = wordPacks) (hr : r < w.nextRoom) :
    (∀ o, ∃ packs, Offers env r (w.withOracle o) packs) ∧
      ((∀ o, ∃ packs, Offers env r (w.withOracle o) packs ∧ ∀ pack ∈ packs, pack.words.Nodup) ↔
        DistinctOffers (w.room r)) := by
  have hoffers : ∀ o, Offers env r (w.withOracle o) (offered env (w.room r) o) :=
    fun o => offers_of_draw (w := w.withOracle o) henv hr
  refine ⟨fun o => ⟨_, hoffers o⟩, Iff.trans ⟨fun h o => ?_, fun h o => ⟨_, hoffers o, h o⟩⟩
    (distinct_offered_iff henv)⟩
  obtain ⟨packs, hpacks, hnodup⟩ := h o
  have heq := (hoffers o).drawn.symm.trans hpacks.drawn
  cases heq
  exact hnodup

/-- The sample environment with the packs of `backend/words.py`. -/
def packsEnv : Env :=
  { sampleEnv with
    wordPacks := wordPacks
    wordPacks_ne := by decide
    words_ne := by decide +kernel }

/-- The lobby of three players, after a game in which "cookie" was drawn. -/
def cookieWorld : World := (Update.room 0 (.selectWord "cookie")).apply trioWorld

theorem wordOffers_cookie : ∃ packs,
    Offers packsEnv 0 (cookieWorld.withOracle [1, 0, 0, 26, 57]) packs ∧
      ∀ pack ∈ packs, pack.words.Nodup :=
  (wordOffers_iff rfl (by decide)).2.mpr
    ⟨List.forall_mem_nil _, by decide +kernel, by decide +kernel⟩ _

/-- At the start of a game, both cookies may be sampled. -/
theorem cookie_offered_twice : ¬∃ packs,
    Offers packsEnv 0 (trioWorld.withOracle [1, 0, 0, 26, 57]) packs ∧
      ∀ pack ∈ packs, pack.words.Nodup := by
  rintro ⟨packs, hoffers, hnodup⟩
  obtain ⟨k, hdraw⟩ := drawWordPackChoices_exec packsEnv 0 (trioWorld.withOracle [1, 0, 0, 26, 57])
  have heq := (congrArg Prod.fst hdraw).symm.trans hoffers.drawn
  have hpacks : packs = offered packsEnv (trioWorld.room 0) [1, 0, 0, 26, 57] :=
    (Except.ok.inj heq).symm
  have htwice : (⟨foodPack.theme, ["cookie", "cookie", "apple"]⟩ : Pack) ∈ packs := by
    rw [hpacks]
    decide +kernel
  exact absurd (hnodup _ htwice) (by decide)

end Skribbl.Backend
