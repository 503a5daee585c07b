import Mathlib.Data.Finset.Card
import Mathlib.Data.Finset.Range
import Mathlib.Logic.Relation
import Mathlib.Tactic.Linarith
import Skribbl.Frontend.HexColour

/-!
# Flood fill (`frontend/src/hooks/useCanvas.ts`)

* `ImageData` — the bytes of the canvas, four for each pixel.
* `visit` / `fillLoop` / `floodFill` — the search from the start point.
* `Connected` — reached from the start by pixels within the tolerance.

Principal result: `floodFill_eq` — exactly the connected pixels take the fill colour.
-/

set_option autoImplicit false

namespace Skribbl.FloodFill

open BinaryDrawing

/-! ## Pixels -/

/-- `imageData.data`. -/
abbrev ImageData := Nat → UInt8

/-- The red, green, blue and alpha bytes of a pixel. -/
structure Pixel where
  r : UInt8
  g : UInt8
  b : UInt8
  a : UInt8
  deriving DecidableEq

/-- The bytes from `idx`. -/
def pixelAt (data : ImageData) (idx : Nat) : Pixel :=
  ⟨data idx, data (idx + 1), data (idx + 2), data (idx + 3)⟩

/-- A number as the clamped array stores it; `none` is `NaN`. -/
def clampByte : Option Int → UInt8
  | none => 0
  | some n => UInt8.ofNat (max 0 (min 255 n)).toNat

/-- The numbers of a colour. -/
structure RGBA where
  r : Option Int
  g : Option Int
  b : Option Int
  a : Option Int

/-- `hexToRGBA`. -/
def hexToRGBA (hex : Colour) : RGBA :=
  let clean := hex.erase '#'
  ⟨parseInt16 (clean.take 2), parseInt16 ((clean.drop 2).take 2),
    parseInt16 ((clean.drop 4).take 2), some 255⟩

/-- The bytes of a colour. -/
def RGBA.pixel (c : RGBA) : Pixel := ⟨clampByte c.r, clampByte c.g, clampByte c.b, clampByte c.a⟩

/-- The pixel has exactly the numbers of the colour. -/
def RGBA.Same (c : RGBA) (p : Pixel) : Prop :=
  some (p.r.toNat : Int) = c.r ∧ some (p.g.toNat : Int) = c.g ∧ some (p.b.toNat : Int) = c.b ∧
    some (p.a.toNat : Int) = c.a

instance (c : RGBA) (p : Pixel) : Decidable (c.Same p) := by unfold RGBA.Same; infer_instance

/-- `Math.abs(x - y) <= tolerance`. -/
def near (x y : UInt8) : Prop := ((x.toNat : Int) - y.toNat).natAbs ≤ 10

instance (x y : UInt8) : Decidable (near x y) := by unfold near; infer_instance

/-- `matchesTarget`. -/
def matchesTarget (target p : Pixel) : Prop :=
  near p.r target.r ∧ near p.g target.g ∧ near p.b target.b ∧ near p.a target.a

instance (target p : Pixel) : Decidable (matchesTarget target p) := by
  unfold matchesTarget; infer_instance

/-- `setPixel`. -/
def setPixel (data : ImageData) (idx : Nat) (c : Pixel) : ImageData := fun i =>
  if i = idx then c.r else if i = idx + 1 then c.g else if i = idx + 2 then c.b
  else if i = idx + 3 then c.a else data i

/-! ## The search -/

abbrev Point := Int × Int

/-- The number of the pixel at a point. -/
def index (width : Nat) (p : Point) : Nat := (p.2 * width + p.1).toNat

def Inside (width height : Nat) (p : Point) : Prop :=
  0 ≤ p.1 ∧ p.1 < width ∧ 0 ≤ p.2 ∧ p.2 < height

instance (width height : Nat) (p : Point) : Decidable (Inside width height p) := by
  unfold Inside; infer_instance

/-- `neighbors`. -/
def neighbors (c : Point) : List Point :=
  [(c.1 - 1, c.2), (c.1 + 1, c.2), (c.1, c.2 - 1), (c.1, c.2 + 1)]

/-- The queue, and the points that were put in it. -/
structure Search where
  queue : List Point
  visited : Nat → Bool

/-- One round of the loop over the neighbours. -/
def visit (width height : Nat) (s : Search) (n : Point) : Search :=
  if Inside width height n ∧ s.visited (index width n) = false then
    ⟨s.queue ++ [n], Function.update s.visited (index width n) true⟩
  else s

/-- The pixels that were not put in the queue. -/
def unvisited (size : Nat) (visited : Nat → Bool) : Finset Nat :=
  (Finset.range size).filter fun i => visited i = false

section Index

variable {width height : Nat} {p q : Point}

theorem index_cast (h : Inside width height p) : (index width p : Int) = p.2 * width + p.1 := by
  obtain ⟨hx, -, hy, -⟩ := h
  exact Int.toNat_of_nonneg (by positivity)

theorem index_lt (h : Inside width height p) : index width p < width * height := by
  have hcast := index_cast h
  obtain ⟨hx, hx', hy, hy'⟩ := h
  have hrow : (p.2 + 1) * width ≤ height * width :=
    mul_le_mul_of_nonneg_right (by omega) (by omega)
  zify
  nlinarith

theorem index_inj (hp : Inside width height p) (hq : Inside width height q)
    (h : index width p = index width q) : p = q := by
  have hcast : p.2 * width + p.1 = q.2 * (width : Int) + q.1 := by
    rw [← index_cast hp, ← index_cast hq, h]
  obtain ⟨hx, hx', hy, hy'⟩ := hp
  obtain ⟨hqx, hqx', hqy, hqy'⟩ := hq
  have hfst : p.1 = q.1 := by
    have hmod := congrArg (· % (width : Int)) hcast
    simpa [Int.add_emod, Int.emod_eq_of_lt hx hx', Int.emod_eq_of_lt hqx hqx'] using hmod
  have hsnd : p.2 = q.2 := by
    have hmul : p.2 * (width : Int) = q.2 * width := by omega
    exact mul_right_cancel₀ (by omega) hmul
  exact Prod.ext hfst hsnd

end Index

theorem card_visit (width height : Nat) (s : Search) (n : Point) :
    (visit width height s n).queue.length +
        (unvisited (width * height) (visit width height s n).visited).card =
      s.queue.length + (unvisited (width * height) s.visited).card := by
  unfold visit
  split
  · rename_i h
    have hmem : index width n ∈ unvisited (width * height) s.visited :=
      Finset.mem_filter.mpr ⟨Finset.mem_range.mpr (index_lt h.1), h.2⟩
    have herase : unvisited (width * height) (Function.update s.visited (index width n) true) =
        (unvisited (width * height) s.visited).erase (index width n) := by
      ext i
      by_cases hi : i = index width n
      · simp [unvisited, hi]
      · simp [unvisited, hi]
    rw [herase, List.length_append, List.length_singleton, Finset.card_erase_of_mem hmem]
    have hpos := Finset.card_pos.mpr ⟨_, hmem⟩
    omega
  · rfl

theorem card_visits (width height : Nat) (s : Search) (ns : List Point) :
    (ns.foldl (visit width height) s).queue.length +
        (unvisited (width * height) (ns.foldl (visit width height) s).visited).card =
      s.queue.length + (unvisited (width * height) s.visited).card := by
  induction ns generalizing s with
  | nil => rfl
  | cons n ns ih => rw [List.foldl_cons, ih, card_visit]

/-- The `while (queue.length > 0)` loop.  Every round takes one point off the queue, and a point is
put in it once. -/
def fillLoop (width height : Nat) (target fill : Pixel) (s : Search) (data : ImageData) :
    ImageData :=
  match hq : s.queue with
  | [] => data
  | c :: queue =>
    let idx := index width c * 4
    if matchesTarget target (pixelAt data idx) then
      fillLoop width height target fill
        ((neighbors c).foldl (visit width height) ⟨queue, s.visited⟩) (setPixel data idx fill)
    else fillLoop width height target fill ⟨queue, s.visited⟩ data
termination_by s.queue.length + (unvisited (width * height) s.visited).card
decreasing_by
  · have h := card_visits width height ⟨queue, s.visited⟩ (neighbors c)
    rw [hq, List.length_cons]
    dsimp only at h
    omega
  · simp [hq]

/-- `floodFill`, on the canvas's image data; a canvas without pixels has no start inside. -/
def floodFill (width height : Nat) (data : ImageData) (startX startY : ℚ) (fillColor : Colour) :
    ImageData :=
  let fillRGBA := hexToRGBA fillColor
  let start : Point := (⌊startX⌋, ⌊startY⌋)
  if ¬Inside width height start then data
  else
    let target := pixelAt data (index width start * 4)
    if fillRGBA.Same target then data
    else
      fillLoop width height target fillRGBA.pixel
        ⟨[start], Function.update (fun _ => false) (index width start) true⟩ data

/-! ## What is to be filled -/

/-- Two points with an edge in common. -/
def Adjacent (p q : Point) : Prop := (p.1 - q.1).natAbs + (p.2 - q.2).natAbs = 1

theorem mem_neighbors {p q : Point} : q ∈ neighbors p ↔ Adjacent p q := by
  obtain ⟨x, y⟩ := p
  obtain ⟨x', y'⟩ := q
  simp only [neighbors, Adjacent, List.mem_cons, Prod.mk.injEq, List.not_mem_nil, or_false]
  omega

section Region

variable (width height : Nat) (data : ImageData)

/-- The pixel at a point. -/
def pixel (p : Point) : Pixel := pixelAt data (index width p * 4)

/-- A pixel within the tolerance of the start's colour. -/
def Alike (start p : Point) : Prop :=
  Inside width height p ∧ matchesTarget (pixel width data start) (pixel width data p)

/-- Reached from the start through edges between such pixels. -/
def Connected (start : Point) : Point → Prop :=
  Relation.ReflTransGen (fun p q => Adjacent p q ∧ Alike width height data start q) start

end Region

variable {width height : Nat} {data₀ data : ImageData} {start : Point} {target fill : Pixel}
  {s : Search}

theorem near_refl (x : UInt8) : near x x := by simp [near]

theorem matchesTarget_refl (p : Pixel) : matchesTarget p p :=
  ⟨near_refl _, near_refl _, near_refl _, near_refl _⟩

theorem Connected.alike (hstart : Inside width height start) {p : Point}
    (h : Connected width height data₀ start p) : Alike width height data₀ start p := by
  cases h with
  | refl => exact ⟨hstart, matchesTarget_refl _⟩
  | tail _ h => exact h.2

theorem setPixel_apart {data : ImageData} {idx i : Nat} {c : Pixel}
    (h : i < idx ∨ idx + 3 < i) : setPixel data idx c i = data i := by
  unfold setPixel
  rw [if_neg (by omega), if_neg (by omega), if_neg (by omega), if_neg (by omega)]

/-- A pixel takes the colour it is set to, and the others stay. -/
theorem pixelAt_setPixel (data : ImageData) (i j : Nat) (c : Pixel) :
    pixelAt (setPixel data (i * 4) c) (j * 4) = if j = i then c else pixelAt data (j * 4) := by
  split
  · rename_i h
    subst h
    simp [pixelAt, setPixel]
  · unfold pixelAt
    rw [setPixel_apart (by omega), setPixel_apart (by omega), setPixel_apart (by omega),
      setPixel_apart (by omega)]

/-! ## The rounds of the loop -/

/-- What the loop over some neighbours does. -/
structure Visits (width height : Nat) (ns : List Point) (s s' : Search) : Prop where
  kept : ∀ i, s.visited i = true → s'.visited i = true
  queue : ∃ new, s'.queue = s.queue ++ new ∧ new.Nodup ∧
    (∀ p ∈ new, p ∈ ns ∧ Inside width height p ∧ s.visited (index width p) = false ∧
      s'.visited (index width p) = true) ∧
    ∀ p, Inside width height p → s'.visited (index width p) = true →
      s.visited (index width p) = true ∨ p ∈ new
  all : ∀ p ∈ ns, Inside width height p → s'.visited (index width p) = true

/-- A point that is not put in the queue is outside, or was put in it before. -/
theorem visits_nil (width height : Nat) (s : Search) : Visits width height [] s s where
  kept _ h := h
  queue := ⟨[], (List.append_nil _).symm, .nil, fun _ h => (List.not_mem_nil h).elim,
    fun _ _ h => .inl h⟩
  all _ h := (List.not_mem_nil h).elim

theorem visits_visit (width height : Nat) (n : Point) (s : Search) :
    Visits width height [n] s (visit width height s n) := by
  unfold visit
  split
  · rename_i h
    have hself : Function.update s.visited (index width n) true (index width n) = true :=
      Function.update_self _ _ _
    refine ⟨fun i hi => ?_, ⟨[n], rfl, List.nodup_singleton n, fun p hp => ?_, fun p hp hvis => ?_⟩,
      fun p hp _ => ?_⟩
    · by_cases hi' : i = index width n
      · rw [hi']
        exact hself
      · exact (Function.update_of_ne hi' _ _).trans hi
    · rw [List.mem_singleton.mp hp]
      exact ⟨List.mem_singleton_self n, h.1, h.2, hself⟩
    · by_cases heq : index width p = index width n
      · exact .inr (List.mem_singleton.mpr (index_inj hp h.1 heq))
      · exact .inl ((Function.update_of_ne heq _ _).symm.trans hvis)
    · rw [List.mem_singleton.mp hp]
      exact hself
  · rename_i h
    refine ⟨fun _ hi => hi, ⟨[], (List.append_nil _).symm, .nil, fun _ hp => ?_,
      fun _ _ hvis => .inl hvis⟩, fun p hp hin => ?_⟩
    · exact (List.not_mem_nil hp).elim
    · obtain rfl := List.mem_singleton.mp hp
      rw [← Bool.not_eq_false]
      exact fun hfalse => h ⟨hin, hfalse⟩

theorem Visits.trans {ns ns' : List Point} {s s' s'' : Search} (h : Visits width height ns s s')
    (h' : Visits width height ns' s' s'') : Visits width height (ns ++ ns') s s'' := by
  obtain ⟨new, hqueue, hnodup, hnew, hall⟩ := h.queue
  obtain ⟨new', hqueue', hnodup', hnew', hall'⟩ := h'.queue
  refine ⟨fun i hi => h'.kept i (h.kept i hi), ⟨new ++ new', ?_, ?_, fun p hp => ?_,
    fun p hp hvis => ?_⟩, fun p hp hin => ?_⟩
  · rw [hqueue', hqueue, List.append_assoc]
  · -- what is put in the queue second was not visited by then
    refine List.Nodup.append hnodup hnodup' fun p hp hp' => ?_
    have hvisited := (hnew p hp).2.2.2
    rw [(hnew' p hp').2.2.1] at hvisited
    cases hvisited
  · rcases List.mem_append.mp hp with hp | hp
    · obtain ⟨hmem, hin, hfresh, hvis⟩ := hnew p hp
      exact ⟨List.mem_append_left _ hmem, hin, hfresh, h'.kept _ hvis⟩
    · obtain ⟨hmem, hin, hfresh, hvis⟩ := hnew' p hp
      refine ⟨List.mem_append_right _ hmem, hin, ?_, hvis⟩
      rw [← Bool.not_eq_true]
      intro hvis'
      rw [h.kept _ hvis'] at hfresh
      cases hfresh
  · rcases hall' p hp hvis with hvis | hp'
    · exact (hall p hp hvis).imp_right (List.mem_append_left _)
    · exact .inr (List.mem_append_right _ hp')
  · rcases List.mem_append.mp hp with hp | hp
    · exact h'.kept _ (h.all p hp hin)
    · exact h'.all p hp hin

theorem visits (width height : Nat) (ns : List Point) (s : Search) :
    Visits width height ns s (ns.foldl (visit width height) s) := by
  induction ns generalizing s with
  | nil => exact visits_nil width height s
  | cons n ns ih => exact (visits_visit width height n s).trans (ih _)

/-- The loop has filled what it has taken off the queue, and nothing else. -/
structure Inv (width height : Nat) (data₀ : ImageData) (start : Point) (fill : Pixel) (s : Search)
    (data : ImageData) : Prop where
  queued : ∀ p ∈ s.queue, Inside width height p ∧ s.visited (index width p) = true
  nodup : s.queue.Nodup
  started : s.visited (index width start) = true
  reached : ∀ p, Inside width height p → s.visited (index width p) = true →
    p = start ∨ ∃ q, Connected width height data₀ start q ∧ Adjacent q p
  filled : ∀ p, Alike width height data₀ start p → s.visited (index width p) = true →
    p ∉ s.queue → pixel width data p = fill
  same : ∀ p, Inside width height p →
    (s.visited (index width p) = false ∨ p ∈ s.queue ∨ ¬Alike width height data₀ start p) →
    pixel width data p = pixel width data₀ p
  closed : ∀ p, Alike width height data₀ start p → s.visited (index width p) = true →
    p ∉ s.queue → ∀ q, Adjacent p q → Inside width height q → s.visited (index width q) = true

variable {c : Point} {queue : List Point} {visited : Nat → Bool}

/-- What is taken off the queue still has its original colour. -/
theorem Inv.matches_iff (h : Inv width height data₀ start fill ⟨c :: queue, visited⟩ data) :
    matchesTarget (pixel width data₀ start) (pixel width data c) ↔
      Alike width height data₀ start c := by
  have hin := (h.queued c List.mem_cons_self).1
  rw [h.same c hin (.inr (.inl List.mem_cons_self))]
  exact ⟨fun hm => ⟨hin, hm⟩, fun ha => ha.2⟩

/-- A point that is not alike is passed over. -/
theorem Inv.skip (h : Inv width height data₀ start fill ⟨c :: queue, visited⟩ data)
    (hc : ¬Alike width height data₀ start c) :
    Inv width height data₀ start fill ⟨queue, visited⟩ data := by
  have hrest : ∀ p, Alike width height data₀ start p → p ∉ queue → p ∉ c :: queue :=
    fun p hp hq hmem => (List.mem_cons.mp hmem).elim (fun heq => hc (heq ▸ hp)) hq
  constructor
  · exact fun p hp => h.queued p (List.mem_cons_of_mem _ hp)
  · exact (List.nodup_cons.mp h.nodup).2
  · exact h.started
  · exact h.reached
  · exact fun p hp hvis hq => h.filled p hp hvis (hrest p hp hq)
  · exact fun p hp hor => h.same p hp (hor.imp_right (Or.imp_left (List.mem_cons_of_mem _)))
  · exact fun p hp hvis hq => h.closed p hp hvis (hrest p hp hq)

/-- A point that is alike is filled, and its neighbours are put in the queue. -/
theorem Inv.paint (h : Inv width height data₀ start fill ⟨c :: queue, visited⟩ data)
    (hstart : Inside width height start) (hc : Alike width height data₀ start c) {s' : Search}
    (hs : Visits width height (neighbors c) ⟨queue, visited⟩ s') :
    Inv width height data₀ start fill s' (setPixel data (index width c * 4) fill) := by
  obtain ⟨hcin, hcvis⟩ := h.queued c List.mem_cons_self
  obtain ⟨hcq, hnodup⟩ := List.nodup_cons.mp h.nodup
  obtain ⟨new, hqueue, hnew, hmem, hall⟩ := hs.queue
  dsimp only at hcvis hqueue hmem hall
  have hcnew : c ∉ new := fun hcn => by
    have hfresh := (hmem c hcn).2.2.1
    rw [hcvis] at hfresh
    cases hfresh
  have hconn : Connected width height data₀ start c := by
    rcases h.reached c hcin hcvis with rfl | ⟨q, hq, hadj⟩
    · exact .refl
    · exact hq.tail ⟨hadj, hc⟩
  have hpixel : ∀ p, Inside width height p →
      pixel width (setPixel data (index width c * 4) fill) p =
        if p = c then fill else pixel width data p := by
    intro p hp
    rw [pixel, pixelAt_setPixel]
    by_cases heq : p = c
    · rw [heq, if_pos rfl, if_pos rfl]
    · rw [if_neg (fun hidx => heq (index_inj hp hcin hidx)), if_neg heq]
      rfl
  have hbefore : ∀ p, Inside width height p → s'.visited (index width p) = true → p ∉ s'.queue →
      visited (index width p) = true ∧ p ∉ queue := by
    intro p hp hvis hq
    rw [hqueue, List.mem_append, not_or] at hq
    exact ⟨(hall p hp hvis).resolve_right hq.2, hq.1⟩
  constructor
  · intro p hp
    rw [hqueue] at hp
    rcases List.mem_append.mp hp with hp | hp
    · obtain ⟨hin, hvis⟩ := h.queued p (List.mem_cons_of_mem _ hp)
      exact ⟨hin, hs.kept _ hvis⟩
    · exact ⟨(hmem p hp).2.1, (hmem p hp).2.2.2⟩
  · rw [hqueue]
    refine List.Nodup.append hnodup hnew fun p hp hp' => ?_
    have hvis : visited (index width p) = true := (h.queued p (List.mem_cons_of_mem _ hp)).2
    have hfresh : visited (index width p) = false := (hmem p hp').2.2.1
    rw [hvis] at hfresh
    cases hfresh
  · exact hs.kept _ h.started
  · intro p hp hvis
    rcases hall p hp hvis with hvis | hp'
    · exact h.reached p hp hvis
    · exact .inr ⟨c, hconn, mem_neighbors.mp (hmem p hp').1⟩
  · intro p hp hvis hq
    obtain ⟨hvis, hq⟩ := hbefore p hp.1 hvis hq
    rw [hpixel p hp.1]
    split
    · rfl
    · rename_i heq
      exact h.filled p hp hvis fun hmem => (List.mem_cons.mp hmem).elim heq hq
  · intro p hp hor
    have heq : p ≠ c := by
      rintro rfl
      rcases hor with hfalse | hq | hnot
      · rw [hs.kept _ hcvis] at hfalse
        cases hfalse
      · rw [hqueue] at hq
        exact (List.mem_append.mp hq).elim hcq hcnew
      · exact hnot hc
    rw [hpixel p hp, if_neg heq]
    apply h.same p hp
    rcases hor with hfalse | hq | hnot
    · refine .inl ?_
      rw [← Bool.not_eq_true]
      intro hvis
      rw [hs.kept _ hvis] at hfalse
      cases hfalse
    · rw [hqueue] at hq
      rcases List.mem_append.mp hq with hq | hq
      · exact .inr (.inl (List.mem_cons_of_mem _ hq))
      · exact .inl (hmem p hq).2.2.1
    · exact .inr (.inr hnot)
  · intro p hp hvis hq q hadj hin
    by_cases heq : p = c
    · subst heq
      exact hs.all q (mem_neighbors.mpr hadj) hin
    · obtain ⟨hvis, hq⟩ := hbefore p hp.1 hvis hq
      exact hs.kept _ (h.closed p hp hvis
        (fun hmem => (List.mem_cons.mp hmem).elim heq hq) q hadj hin)

/-- When the queue is empty, exactly the connected pixels are filled. -/
theorem Inv.finished (h : Inv width height data₀ start fill s data) (hs : s.queue = [])
    (hstart : Inside width height start) {p : Point} (hp : Inside width height p) :
    (Connected width height data₀ start p → pixel width data p = fill) ∧
      (¬Connected width height data₀ start p → pixel width data p = pixel width data₀ p) := by
  have hnil : ∀ q, q ∉ s.queue := fun q hq => by
    rw [hs] at hq
    cases hq
  have hvisited : ∀ q, Connected width height data₀ start q → s.visited (index width q) = true := by
    intro q hq
    induction hq with
    | refl => exact h.started
    | tail hr hadj ih =>
      exact h.closed _ (Connected.alike hstart hr) ih (hnil _) _ hadj.1 hadj.2.1
  constructor
  · intro hconn
    exact h.filled p (hconn.alike hstart) (hvisited p hconn) (hnil p)
  · intro hconn
    apply h.same p hp
    by_cases hvis : s.visited (index width p) = true
    · refine .inr (.inr fun halike => hconn ?_)
      rcases h.reached p hp hvis with rfl | ⟨q, hq, hadj⟩
      · exact .refl
      · exact hq.tail ⟨hadj, halike⟩
    · exact .inl (Bool.not_eq_true _ ▸ hvis)

/-- **The loop fills exactly the connected pixels.** -/
theorem Inv.fillLoop (h : Inv width height data₀ start fill s data)
    (hstart : Inside width height start) {p : Point} (hp : Inside width height p) :
    (Connected width height data₀ start p →
        pixel width (FloodFill.fillLoop width height (pixel width data₀ start) fill s data) p =
          fill) ∧
      (¬Connected width height data₀ start p →
        pixel width (FloodFill.fillLoop width height (pixel width data₀ start) fill s data) p =
          pixel width data₀ p) := by
  induction s, data using FloodFill.fillLoop.induct width height (pixel width data₀ start) fill with
  | case1 s data hs =>
    rw [FloodFill.fillLoop, hs]
    exact h.finished hs hstart hp
  | case2 s data c queue hs idx hm ih =>
    have h' : Inv width height data₀ start fill ⟨c :: queue, s.visited⟩ data := by
      rw [← hs]
      exact h
    rw [FloodFill.fillLoop, hs]
    dsimp only
    rw [if_pos hm]
    exact ih (h'.paint hstart (h'.matches_iff.mp hm) (visits width height _ _))
  | case3 s data c queue hs idx hm ih =>
    have h' : Inv width height data₀ start fill ⟨c :: queue, s.visited⟩ data := by
      rw [← hs]
      exact h
    rw [FloodFill.fillLoop, hs]
    dsimp only
    rw [if_neg hm]
    exact ih (h'.skip fun halike => hm (h'.matches_iff.mpr halike))

/-- The search starts with the start point in the queue. -/
theorem inv_start (hstart : Inside width height start) (fill : Pixel) :
    Inv width height data₀ start fill
      ⟨[start], Function.update (fun _ => false) (index width start) true⟩ data₀ := by
  have honly : ∀ p, Inside width height p →
      Function.update (fun _ => false) (index width start) true (index width p) = true →
      p = start := by
    intro p hp hvis
    by_contra hne
    rw [Function.update_of_ne fun hidx => hne (index_inj hp hstart hidx)] at hvis
    cases hvis
  have hself :
      Function.update (fun _ => false) (index width start) true (index width start) = true :=
    Function.update_self _ _ _
  constructor
  · intro p hp
    rw [List.mem_singleton.mp hp]
    exact ⟨hstart, hself⟩
  · exact List.nodup_singleton start
  · exact hself
  · exact fun p hp hvis => .inl (honly p hp hvis)
  · exact fun p hp hvis hq => absurd (List.mem_singleton.mpr (honly p hp.1 hvis)) hq
  · exact fun _ _ _ => rfl
  · exact fun p hp hvis hq => absurd (List.mem_singleton.mpr (honly p hp.1 hvis)) hq

/-! ## Fill colours -/

/-- The byte of two hexadecimal digits. -/
def hexByte (a b : Char) : UInt8 := UInt8.ofNat ((hexVal a).getD 0 * 16 + (hexVal b).getD 0)

/-- Six hexadecimal digits, with or without the hash. -/
def SixDigit (color : Colour) (a b c d e f : Char) : Prop :=
  (∀ x ∈ [a, b, c, d, e, f], (hexVal x).isSome) ∧
    (color = ['#', a, b, c, d, e, f] ∨ color = [a, b, c, d, e, f])

/-- The pixel of a fill colour. -/
def fillPixel (a b c d e f : Char) : Pixel := ⟨hexByte a b, hexByte c d, hexByte e f, 255⟩

/-- The number of a channel and the byte that it is stored as. -/
theorem channel_of_digits {a b : Char} (ha : (hexVal a).isSome) (hb : (hexVal b).isSome) :
    parseInt16 [a, b] = some ((hexByte a b).toNat : Int) := by
  obtain ⟨x, hx⟩ := Option.isSome_iff_exists.mp ha
  obtain ⟨y, hy⟩ := Option.isSome_iff_exists.mp hb
  have hxlt := hexVal_lt hx
  have hylt := hexVal_lt hy
  have hdigits : ∀ c ∈ [a, b], (hexVal c).isSome := by simp [ha, hb]
  have hbyte : (hexByte a b).toNat = x * 16 + y := by
    simp only [hexByte, hx, hy, Option.getD_some, UInt8.toNat_ofNat']
    omega
  rw [parseInt16_digits hdigits, hbyte]
  simp [hexPrefix, hx, hy]

theorem clampByte_toNat (x : UInt8) : clampByte (some (x.toNat : Int)) = x := by
  have hlt := x.toNat_lt
  have hclamp : (max 0 (min 255 (x.toNat : Int))).toNat = x.toNat := by omega
  rw [clampByte, hclamp, UInt8.ofNat_toNat]

/-- The numbers of a fill colour. -/
theorem hexToRGBA_eq {color : Colour} {a b c d e f : Char} (h : SixDigit color a b c d e f) :
    hexToRGBA color = ⟨some ((hexByte a b).toNat : Int), some ((hexByte c d).toNat : Int),
      some ((hexByte e f).toNat : Int), some 255⟩ := by
  obtain ⟨hdigits, hcolor⟩ := h
  have hclean : color.erase '#' = [a, b, c, d, e, f] := by
    rcases hcolor with rfl | rfl
    · exact List.erase_cons_head _ _
    · apply List.erase_of_not_mem
      intro hmem
      exact absurd (hdigits _ hmem) (by decide)
  simp only [List.mem_cons, List.not_mem_nil, or_false, forall_eq_or_imp, forall_eq] at hdigits
  obtain ⟨ha, hb, hc, hd, he, hf⟩ := hdigits
  unfold hexToRGBA
  dsimp only
  rw [hclean, ← channel_of_digits ha hb, ← channel_of_digits hc hd, ← channel_of_digits he hf]
  rfl

theorem same_iff {color : Colour} {a b c d e f : Char} (h : SixDigit color a b c d e f)
    (p : Pixel) :
    (hexToRGBA color).Same p ↔ p = fillPixel a b c d e f := by
  have hbyte : ∀ x y : UInt8, some (x.toNat : Int) = some (y.toNat : Int) ↔ x = y := fun x y => by
    rw [Option.some_inj, Nat.cast_inj, UInt8.toNat_inj]
  have hopaque : some (p.a.toNat : Int) = some 255 ↔ p.a = 255 := hbyte p.a 255
  rw [hexToRGBA_eq h]
  unfold RGBA.Same
  dsimp only
  rw [hbyte, hbyte, hbyte, hopaque]
  cases p
  simp [fillPixel]

theorem hexToRGBA_pixel {color : Colour} {a b c d e f : Char} (h : SixDigit color a b c d e f) :
    (hexToRGBA color).pixel = fillPixel a b c d e f := by
  rw [hexToRGBA_eq h]
  unfold RGBA.pixel
  dsimp only
  rw [clampByte_toNat, clampByte_toNat, clampByte_toNat]
  rfl

/-- **The fill colours exactly the connected pixels.**  It changes nothing if the start is outside
or has the fill colour already. -/
theorem floodFill_eq (width height : Nat) (data : ImageData) (startX startY : ℚ) {color : Colour}
    {a b c d e f : Char} (hcolor : SixDigit color a b c d e f) :
    let start : Point := (⌊startX⌋, ⌊startY⌋)
    let filled := floodFill width height data startX startY color
    (¬Inside width height start ∨ pixel width data start = fillPixel a b c d e f →
      filled = data) ∧
    (Inside width height start → pixel width data start ≠ fillPixel a b c d e f →
      ∀ p, Inside width height p →
        (Connected width height data start p → pixel width filled p = fillPixel a b c d e f) ∧
        (¬Connected width height data start p → pixel width filled p = pixel width data p)) := by
  dsimp only
  refine ⟨fun hnothing => ?_, fun hstart hne p hp => ?_⟩
  · unfold floodFill
    dsimp only
    split
    · rfl
    rename_i hstart
    exact if_pos ((same_iff hcolor _).mpr (hnothing.resolve_left hstart))
  · have hsame : ¬(hexToRGBA color).Same
        (pixelAt data (index width (⌊startX⌋, ⌊startY⌋) * 4)) :=
      fun hs => hne ((same_iff hcolor _).mp hs)
    unfold floodFill
    dsimp only
    rw [if_neg (not_not.mpr hstart), if_neg hsame, hexToRGBA_pixel hcolor]
    exact (inv_start hstart _).fillLoop hstart hp

/-- A row of four pixels: white, white, black, white. -/
def barred : ImageData := fun i => if 8 ≤ i ∧ i < 11 then 0 else 255

/-- What the black pixel separates from the first is not connected to it. -/
theorem connected_barred {p : Point} (h : Connected 4 1 barred (0, 0) p) :
    p = (0, 0) ∨ p = (1, 0) := by
  induction h with
  | refl => exact .inl rfl
  | @tail p q _ hstep ih =>
    obtain ⟨hadjacent, ⟨hleft, -, htop, hbottom⟩, hmatch⟩ := hstep
    obtain ⟨x, y⟩ := q
    obtain rfl : y = 0 := by
      change 0 ≤ y at htop
      change y < (1 : Nat) at hbottom
      omega
    have hblack : x ≠ 2 := by
      rintro rfl
      exact absurd hmatch (by decide)
    change 0 ≤ x at hleft
    unfold Adjacent at hadjacent
    simp only [Prod.mk.injEq, and_true]
    rcases ih with rfl | rfl <;> dsimp only at hadjacent <;> omega

/-- The fill passes to the white neighbour and stops at the black pixel. -/
theorem floodFill_red :
    pixel 4 (floodFill 4 1 barred (1 / 2) 0 "#ff0000".toList) (1, 0) = ⟨255, 0, 0, 255⟩ ∧
      pixel 4 (floodFill 4 1 barred (1 / 2) 0 "#ff0000".toList) (3, 0) =
        ⟨255, 255, 255, 255⟩ := by
  have hcolor : SixDigit "#ff0000".toList 'f' 'f' '0' '0' '0' '0' :=
    ⟨List.all_eq_true.mp rfl, .inl rfl⟩
  have hfloor : (⌊(1 / 2 : ℚ)⌋, ⌊(0 : ℚ)⌋) = ((0, 0) : Point) := by norm_num
  have h := (floodFill_eq 4 1 barred (1 / 2) 0 hcolor).2
  rw [hfloor] at h
  have hneighbour : Connected 4 1 barred (0, 0) (1, 0) :=
    .single ⟨by unfold Adjacent; decide, by decide, by decide⟩
  have hapart : ¬Connected 4 1 barred (0, 0) (3, 0) := fun hconnected =>
    (connected_barred hconnected).elim (by decide) (by decide)
  exact ⟨(h (by decide) (by decide) (1, 0) (by decide)).1 hneighbour,
    (h (by decide) (by decide) (3, 0) (by decide)).2 hapart⟩

end Skribbl.FloodFill
