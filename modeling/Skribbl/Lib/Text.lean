import Mathlib.Data.List.Infix

/-!
# Words, masks and occurrences in a text

Texts are lists over an alphabet with a test for whitespace and a case folding.

* `Text.words` — the text cut at its runs of whitespace; `Text.Word` — a nonempty text without
  whitespace.
* `Text.Occurs` — a word occurs in a text, up to case.
* `Text.mask` — the occurrences of a word replaced, leftmost first.
* `Text.censor` — each word of a text replaced by stars or left alone.

Principal results: `not_occurs_of_mask` — no part of a masked text without a star is the word;
`row_of_infix` — what can be read in the censored words of a text, joined by single spaces, can be
read in a row of words that were left alone.
-/

set_option autoImplicit false

namespace Text

variable {α : Type}

/-! ## Cutting a text at its whitespace -/

section Words

variable (isspace : α → Bool)

/-- The words of a text: a run of whitespace counts as one separator. -/
def words : List α → List (List α)
  | [] => []
  | c :: l =>
    if isspace c then words l
    else if l.head?.all isspace then [c] :: words l
    else (words l).modifyHead (c :: ·)

/-- A nonempty text without whitespace. -/
def Word (t : List α) : Prop := t ≠ [] ∧ ∀ c ∈ t, isspace c = false

variable {isspace}

theorem words_cons_space {c : α} {l : List α} (hc : isspace c = true) :
    words isspace (c :: l) = words isspace l := by
  simp [words, hc]

/-- A word at the front of a text ends where whitespace begins. -/
theorem words_append {t l : List α} (ht : Word isspace t) (hl : l.head?.all isspace = true) :
    words isspace (t ++ l) = t :: words isspace l := by
  obtain ⟨hne, ht⟩ := ht
  induction t with
  | nil => exact absurd rfl hne
  | cons c t ih =>
    have hc : isspace c = false := ht c List.mem_cons_self
    cases t with
    | nil => simp [words, hc, hl]
    | cons d t =>
      have hd : isspace d = false := ht d (by simp)
      have hrest := ih (by simp) fun x hx => ht x (List.mem_cons_of_mem _ hx)
      rw [List.cons_append, words, if_neg (by simp [hc]), if_neg (by simp [hd]), hrest]
      rfl

/-- A text that does not start with whitespace starts with a word. -/
theorem exists_word {c : α} (l : List α) (hc : isspace c = false) :
    ∃ t rest, c :: l = t ++ rest ∧ Word isspace t ∧ rest.head?.all isspace = true := by
  refine ⟨(c :: l).takeWhile (fun d => !isspace d), (c :: l).dropWhile (fun d => !isspace d),
    (List.takeWhile_append_dropWhile ..).symm, ⟨by simp [hc], fun d hd => ?_⟩, ?_⟩
  · have hall := List.all_eq_true.mp (List.all_takeWhile (p := fun d => !isspace d) (l := c :: l))
    simpa using hall d hd
  · cases h : ((c :: l).dropWhile fun d => !isspace d) with
    | nil => rfl
    | cons d rest =>
      have hd := List.head_dropWhile_not (fun d => !isspace d) (l := c :: l) (by simp [h])
      simpa [h] using hd

/-- The words of a text are words, and parts of it. -/
theorem mem_words {l : List α} {t : List α} (h : t ∈ words isspace l) :
    Word isspace t ∧ t <:+: l := by
  induction hn : l.length using Nat.strong_induction_on generalizing l with
  | _ n ih =>
    subst hn
    cases l with
    | nil => simp [words] at h
    | cons c l =>
      by_cases hc : isspace c = true
      · rw [words_cons_space hc] at h
        obtain ⟨hword, hinfix⟩ := ih l.length (by simp) h rfl
        exact ⟨hword, hinfix.trans (List.suffix_cons c l).isInfix⟩
      · obtain ⟨u, rest, heq, hu, hrest⟩ := exists_word l (by simpa using hc)
        rw [heq] at h ⊢
        rw [words_append hu hrest] at h
        rcases List.mem_cons.mp h with rfl | h
        · exact ⟨hu, List.infix_append_left⟩
        · have hlt : rest.length < (c :: l).length := by
            have hpos := List.length_pos_iff.mpr hu.1
            rw [heq, List.length_append]
            omega
          obtain ⟨hword, hinfix⟩ := ih rest.length hlt h rfl
          exact ⟨hword, hinfix.trans (List.suffix_append u rest).isInfix⟩

end Words

/-! ## Joining words -/

/-- What follows the first word when words are joined. -/
theorem intercalate_cons (sep : α) (t : List α) (ts : List (List α)) :
    [sep].intercalate (t :: ts) = t ++ ts.flatMap (sep :: ·) := by
  induction ts generalizing t with
  | nil => simp
  | cons u ts ih => rw [List.intercalate_cons_cons, ih]; simp

/-- The words of joined words. -/
theorem words_intercalate {isspace : α → Bool} {sep : α} {ts : List (List α)}
    (hsep : isspace sep = true) (hts : ∀ t ∈ ts, Word isspace t) :
    words isspace ([sep].intercalate ts) = ts := by
  induction ts with
  | nil => rfl
  | cons t ts ih =>
    have ht := hts t List.mem_cons_self
    have ih := ih fun u hu => hts u (List.mem_cons_of_mem _ hu)
    cases ts with
    | nil =>
      have h := words_append (l := []) ht rfl
      rw [List.append_nil] at h
      rw [List.intercalate_singleton, h]
      rfl
    | cons u us =>
      rw [List.intercalate_cons_cons, List.append_assoc,
        words_append ht (by simpa using hsep), List.singleton_append, words_cons_space hsep, ih]

/-- What is read in joined words and has no separator is read in one of them. -/
theorem mem_of_infix_intercalate {sep : α} {x : List α} {ts : List (List α)} (hx : x ≠ [])
    (hsep : sep ∉ x) (h : x <:+: [sep].intercalate ts) : ∃ t ∈ ts, x <:+: t := by
  induction ts with
  | nil => exact absurd (List.infix_nil.mp h) hx
  | cons t ts ih =>
    have hstart : ∀ y, y ≠ [] → sep ∉ y → ¬y <+: ts.flatMap (sep :: ·) := by
      intro y hy hsep' hstart
      obtain ⟨c, y, rfl⟩ := List.exists_cons_of_ne_nil hy
      cases ts with
      | nil => simp at hstart
      | cons u us =>
        rw [List.flatMap_cons, List.cons_append, List.cons_prefix_cons] at hstart
        exact hsep' (by simp [hstart.1])
    rw [intercalate_cons, List.infix_append_iff_ne_nil] at h
    rcases h with h | h | ⟨x₁, x₂, -, hx₂, rfl, -, h⟩
    · exact ⟨t, List.mem_cons_self, h⟩
    · cases ts with
      | nil => exact absurd (List.infix_nil.mp h) hx
      | cons u us =>
        rw [List.flatMap_cons, List.cons_append, List.infix_cons_iff] at h
        rcases h with h | h
        · exact absurd (by simpa using h) (hstart x hx hsep)
        · rw [← intercalate_cons] at h
          obtain ⟨t', ht', hinfix⟩ := ih h
          exact ⟨t', List.mem_cons_of_mem _ ht', hinfix⟩
    · exact absurd h (hstart x₂ hx₂ fun hmem => hsep (List.mem_append_right _ hmem))

/-! ## Occurrences and masks -/

section Masks

variable (fold : α → α)

/-- The word occurs in the text, up to case. -/
def Occurs (w l : List α) : Prop := w.map fold <:+: l.map fold

variable {fold} in
theorem occurs_iff {w l : List α} :
    Occurs fold w l ↔ ∃ x, x <:+: l ∧ x.map fold = w.map fold := by
  constructor
  · rintro ⟨a, b, h⟩
    obtain ⟨l₁, l₂, rfl, hl₁, -⟩ := List.map_eq_append_iff.mp h.symm
    obtain ⟨a', x, rfl, -, hx⟩ := List.map_eq_append_iff.mp hl₁
    exact ⟨x, ⟨a', l₂, rfl⟩, hx⟩
  · rintro ⟨x, ⟨a, b, rfl⟩, hx⟩
    exact ⟨a.map fold, b.map fold, by simp [hx]⟩

variable {fold} in
theorem Occurs.mono {w l l' : List α} (h : Occurs fold w l) (hl : l <:+: l') :
    Occurs fold w l' :=
  List.IsInfix.trans h (hl.map fold)

variable [DecidableEq α]

instance (w l : List α) : Decidable (Occurs fold w l) := inferInstanceAs (Decidable (_ <:+: _))

/-- The text with each occurrence of the word replaced, leftmost first and without overlaps; the
number is how many characters of an occurrence are still to be dropped. -/
def mask (w repl : List α) : Nat → List α → List α
  | _, [] => []
  | k + 1, _ :: l => mask w repl k l
  | 0, c :: l =>
    if w.map fold <+: (c :: l).map fold then repl ++ mask w repl (w.length - 1) l
    else c :: mask w repl 0 l

variable {fold}

/-- A text in which the word does not occur is not changed. -/
theorem mask_of_not_occurs {w repl l : List α} (h : ¬Occurs fold w l) :
    mask fold w repl 0 l = l := by
  induction l with
  | nil => rfl
  | cons c l ih =>
    have hl : ¬Occurs fold w l := fun hl => h (hl.mono (List.suffix_cons c l).isInfix)
    rw [mask, if_neg fun hstart => h hstart.isInfix, ih hl]

variable {w repl : List α} {star : α}

/-- What starts a masked text starts the text, if it has no star. -/
theorem prefix_of_mask (hrepl : repl ≠ []) (hstars : ∀ c ∈ repl, c = star) {x l : List α}
    (hx : star ∉ x) (h : x <+: mask fold w repl 0 l) : x <+: l := by
  induction l generalizing x with
  | nil => simpa [mask] using h
  | cons c l ih =>
    cases x with
    | nil => exact List.nil_prefix
    | cons d x =>
      simp only [List.mem_cons, not_or] at hx
      rw [mask] at h
      split at h
      · obtain ⟨e, repl', hcons⟩ := List.exists_cons_of_ne_nil hrepl
        rw [hcons, List.cons_append, List.cons_prefix_cons] at h
        have he := hstars e (by simp [hcons])
        exact absurd (h.1.trans he).symm hx.1
      · rw [List.cons_prefix_cons] at h ⊢
        exact ⟨h.1, ih hx.2 h.2⟩

/-- **No part of a masked text is the word**, if the part has no star. -/
theorem not_occurs_of_mask (hw : w ≠ []) (hrepl : repl ≠ []) (hstars : ∀ c ∈ repl, c = star)
    {x l : List α} {k : Nat} (hx : star ∉ x) (h : x <:+: mask fold w repl k l) :
    x.map fold ≠ w.map fold := by
  intro heq
  have hne : x ≠ [] := by
    rintro rfl
    exact hw (by simpa using heq.symm)
  induction l generalizing k with
  | nil =>
    have hnil : x <:+: [] := by cases k <;> simpa [mask] using h
    exact hne (List.infix_nil.mp hnil)
  | cons c l ih =>
    cases k with
    | succ k => exact ih h
    | zero =>
      by_cases hmatch : w.map fold <+: (c :: l).map fold
      · rw [mask, if_pos hmatch, List.infix_append_iff_ne_nil] at h
        have hpart : ∀ y, y ≠ [] → y <:+: x → ¬y <:+: repl := by
          intro y hy hyx hyr
          obtain ⟨d, y, rfl⟩ := List.exists_cons_of_ne_nil hy
          have hd : d = star := hstars d (hyr.subset List.mem_cons_self)
          exact hx (hd ▸ hyx.subset List.mem_cons_self)
        rcases h with h | h | ⟨x₁, x₂, hx₁, -, rfl, h, -⟩
        · exact hpart x hne (List.infix_refl x) h
        · exact ih h
        · exact hpart x₁ hx₁ List.infix_append_left h.isInfix
      · have hmask : mask fold w repl 0 (c :: l) = c :: mask fold w repl 0 l := by
          rw [mask, if_neg hmatch]
        have h' := h
        rw [hmask, List.infix_cons_iff] at h'
        rcases h' with h' | h'
        · rw [← hmask] at h'
          apply hmatch
          rw [← heq]
          exact (prefix_of_mask hrepl hstars hx h').map fold
        · exact ih h'

end Masks

/-! ## Censored words -/

section Censor

variable (profane : List α → Bool) (star : α)

/-- A word, or as many stars. -/
def censor (t : List α) : List α := if profane t then List.replicate t.length star else t

variable {profane star} {sep : α}

/-- What can be read from the start of a text on, in censored words that follow it, can be read
there in words that were left alone. -/
theorem row_of_prefix {x s : List α} {ts : List (List α)} (hts : ∀ t ∈ ts, t ≠ []) (hx : star ∉ x)
    (hlast : ∀ y, x ≠ y ++ [sep])
    (h : x <+: s ++ ts.flatMap (sep :: censor profane star ·)) :
    ∃ us, us <+: ts ∧ (∀ u ∈ us, profane u = false) ∧ x <+: s ++ us.flatMap (sep :: ·) := by
  induction ts generalizing s with
  | nil => exact ⟨[], List.nil_prefix, nofun, h⟩
  | cons t ts ih =>
    have hts' : ∀ u ∈ ts, u ≠ [] := fun u hu => hts u (List.mem_cons_of_mem _ hu)
    by_cases ht : profane t = true
    · -- the part cannot reach the stars, nor end in front of them
      refine ⟨[], List.nil_prefix, nofun, ?_⟩
      obtain ⟨c, t, rfl⟩ := List.exists_cons_of_ne_nil (hts t List.mem_cons_self)
      rw [List.flatMap_nil, List.append_nil]
      rcases List.prefix_or_prefix_of_prefix h (List.prefix_append s _) with h' | ⟨y, rfl⟩
      · exact h'
      · rw [List.prefix_append_right_inj, List.flatMap_cons, censor, if_pos ht,
          List.length_cons, List.replicate_succ, List.cons_append] at h
        match y with
        | [] => simp
        | [d] =>
          rw [List.cons_prefix_cons] at h
          exact absurd (by rw [h.1]) (hlast s)
        | d :: e :: y =>
          rw [List.cons_prefix_cons, List.cons_append, List.cons_prefix_cons] at h
          exact absurd (by simp [h.2.1]) hx
    · have ht' : profane t = false := by simpa using ht
      have hcensor : censor profane star t = t := by simp [censor, ht']
      have h' : x <+: (s ++ sep :: t) ++ ts.flatMap (sep :: censor profane star ·) := by
        simpa [hcensor] using h
      obtain ⟨us, hus, hprofane, hstart⟩ := ih hts' h'
      refine ⟨t :: us, ?_, ?_, ?_⟩
      · rw [List.cons_prefix_cons]
        exact ⟨rfl, hus⟩
      · intro u hu
        rcases List.mem_cons.mp hu with rfl | hu
        · exact ht'
        · exact hprofane u hu
      · simpa using hstart

/-- **What can be read in censored words can be read in a row of words that were left alone**, if
it has no star and no separator at its ends. -/
theorem row_of_infix {x : List α} {ts : List (List α)} (hts : ∀ t ∈ ts, t ≠ []) (hne : x ≠ [])
    (hx : star ∉ x) (hfirst : ∀ y, x ≠ sep :: y) (hlast : ∀ y, x ≠ y ++ [sep])
    (h : x <:+: [sep].intercalate (ts.map (censor profane star))) :
    ∃ us, us <:+: ts ∧ (∀ u ∈ us, profane u = false) ∧ x <:+: [sep].intercalate us := by
  induction ts with
  | nil => exact absurd (List.infix_nil.mp h) hne
  | cons t ts ih =>
    have hts' : ∀ u ∈ ts, u ≠ [] := fun u hu => hts u (List.mem_cons_of_mem _ hu)
    have hpart : ∀ y, y ≠ [] → y <:+: x → y <:+: censor profane star t → profane t = false := by
      intro y hy hyx hyt
      by_contra ht
      rw [censor, if_pos (by simpa using ht)] at hyt
      obtain ⟨d, y, rfl⟩ := List.exists_cons_of_ne_nil hy
      have hd : d = star := List.eq_of_mem_replicate (hyt.subset List.mem_cons_self)
      exact hx (hd ▸ hyx.subset List.mem_cons_self)
    rw [List.map_cons, intercalate_cons, List.infix_append_iff_ne_nil] at h
    rcases h with h | h | ⟨x₁, x₂, hx₁, -, rfl, hsuffix, hstart⟩
    · have ht := hpart x hne (List.infix_refl x) h
      refine ⟨[t], ⟨[], ts, rfl⟩, by simpa using ht, ?_⟩
      rw [List.intercalate_singleton]
      simpa [censor, ht] using h
    · cases ts with
      | nil => exact absurd (List.infix_nil.mp h) hne
      | cons u us =>
        rw [List.map_cons, List.flatMap_cons, List.cons_append, List.infix_cons_iff] at h
        rcases h with h | h
        · obtain ⟨d, y, rfl⟩ := List.exists_cons_of_ne_nil hne
          rw [List.cons_prefix_cons] at h
          exact absurd (by rw [h.1]) (hfirst y)
        · rw [← intercalate_cons, ← List.map_cons] at h
          obtain ⟨vs, hvs, hprofane, hinfix⟩ := ih hts' h
          exact ⟨vs, hvs.trans (List.suffix_cons t (u :: us)).isInfix, hprofane, hinfix⟩
    · have ht := hpart x₁ hx₁ List.infix_append_left hsuffix.isInfix
      have hsuffix' : x₁ <:+ t := by simpa [censor, ht] using hsuffix
      have hstart' : x₁ ++ x₂ <+: x₁ ++ ts.flatMap (sep :: censor profane star ·) := by
        rw [List.prefix_append_right_inj]
        simpa [List.flatMap_map] using hstart
      obtain ⟨us, hus, hprofane, hrow⟩ := row_of_prefix hts' hx hlast hstart'
      refine ⟨t :: us, ?_, ?_, ?_⟩
      · exact List.IsPrefix.isInfix (by rw [List.cons_prefix_cons]; exact ⟨rfl, hus⟩)
      · intro u hu
        rcases List.mem_cons.mp hu with rfl | hu
        · exact ht
        · exact hprofane u hu
      · rw [intercalate_cons]
        obtain ⟨z, rfl⟩ := hsuffix'
        rw [List.append_assoc]
        exact hrow.isInfix.trans (List.suffix_append z _).isInfix

end Censor

end Text
