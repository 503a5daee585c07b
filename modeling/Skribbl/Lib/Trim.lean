import Mathlib.Data.List.DropRight
import Mathlib.Data.List.Infix

/-!
# Trimming

`trim` drops the blanks at both ends of a list.  Principal results: `trim_trim` and
`trim_front`, which says what is left of the beginning of a trimmed list.
-/

set_option autoImplicit false

namespace Trim

variable {α : Type} {isspace : α → Bool} {l : List α}

/-- The list without the blanks at both ends. -/
def trim (isspace : α → Bool) (l : List α) : List α :=
  (l.dropWhile isspace).rdropWhile isspace

/-- A list that does not begin with a blank. -/
def Begins (isspace : α → Bool) (l : List α) : Prop := ∀ c ∈ l.head?, isspace c = false

theorem dropWhile_of_begins (h : Begins isspace l) : l.dropWhile isspace = l := by
  cases l with
  | nil => rfl
  | cons c l => rw [List.dropWhile_cons_of_neg (by simp [h c rfl])]

theorem begins_dropWhile (isspace : α → Bool) (l : List α) :
    Begins isspace (l.dropWhile isspace) := by
  induction l with
  | nil => exact fun _ h => by cases h
  | cons c l ih =>
    cases hc : isspace c with
    | true => rwa [List.dropWhile_cons_of_pos hc]
    | false =>
      rw [List.dropWhile_cons_of_neg (by simp [hc])]
      intro d hd
      cases hd
      exact hc

/-- A beginning of a list that begins with no blank begins with none. -/
theorem Begins.front {t : List α} (h : Begins isspace l) (ht : t <+: l) : Begins isspace t := by
  obtain ⟨u, rfl⟩ := ht
  cases t with
  | nil => intro c hc; cases hc
  | cons c t => exact h

theorem rdropWhile_front (isspace : α → Bool) (l : List α) : l.rdropWhile isspace <+: l :=
  List.rdropWhile_prefix _ _

theorem begins_trim (isspace : α → Bool) (l : List α) : Begins isspace (trim isspace l) :=
  (begins_dropWhile isspace l).front (rdropWhile_front isspace _)

theorem trim_trim (isspace : α → Bool) (l : List α) :
    trim isspace (trim isspace l) = trim isspace l := by
  rw [trim, dropWhile_of_begins (begins_trim isspace l)]
  exact List.rdropWhile_idempotent _ _

/-- What is left of a beginning of such a list is a beginning too. -/
theorem trim_front {t : List α} (h : Begins isspace l) (ht : t <+: l) : trim isspace t <+: l := by
  rw [trim, dropWhile_of_begins (h.front ht)]
  exact (rdropWhile_front isspace _).trans ht

end Trim
