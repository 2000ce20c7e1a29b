/-
Gaps in a sequence.

Some members of a sequence only separate the others. Collapsing leaves out those at both
ends and leaves one of each run of them in between, so that what was separated stays
separated and nothing else tells how.
-/

set_option autoImplicit false

namespace SymbolDocs.Text

variable {α : Type}

/-- A sequence without the gap at its end, and with one member of each other gap. A gap
that is not over yet is `pending`. -/
def joinGaps (isGap : α → Bool) (pending : Option α) : List α → List α
  | [] => []
  | a :: rest =>
    if isGap a then joinGaps isGap (some a) rest
    else pending.toList ++ a :: joinGaps isGap none rest

/-- A sequence without gaps at its ends, and with one member of each gap inside. -/
def collapse (isGap : α → Bool) (as : List α) : List α :=
  joinGaps isGap none (as.dropWhile isGap)

theorem joinGaps_of_all (isGap : α → Bool) (as : List α) (h : ∀ a ∈ as, isGap a = false) :
    joinGaps isGap none as = as := by
  induction as with
  | nil => rfl
  | cons a rest ih =>
    have ha : isGap a = false := h a (List.mem_cons_self ..)
    have hrest := ih fun b hb => h b (List.mem_cons_of_mem _ hb)
    simp [joinGaps, ha, hrest]

/-- A sequence without gaps is left as it is. -/
theorem collapse_of_all (isGap : α → Bool) (as : List α) (h : ∀ a ∈ as, isGap a = false) :
    collapse isGap as = as := by
  have hdrop : as.dropWhile isGap = as := by
    cases as with
    | nil => rfl
    | cons a rest => simp [List.dropWhile, h a (List.mem_cons_self ..)]
  rw [collapse, hdrop, joinGaps_of_all isGap as h]

end SymbolDocs.Text
