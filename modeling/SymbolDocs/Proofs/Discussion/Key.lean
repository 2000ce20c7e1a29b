/-
Tags and keys: every key is found again under its tag, and nothing else is.

The look-up goes through a list of all keys. What is needed of it elsewhere is only
that the tags are distinct and the list is complete, and both are settled here by going
through the twenty-four keys once.
-/
import SymbolDocs.Discussion.Key

set_option autoImplicit false

namespace SymbolDocs.Discussion.Key

/-! ## The list of all keys -/

/-- The list of keys has them all. -/
theorem mem_all (k : Key) : k ∈ all := by
  cases k <;> decide

/-- A key is found again under its name. -/
theorem ofName?_name (k : Key) : ofName? k.name = some k := by
  cases k <;> decide

/-! ## Looking a tag up -/

/-- A name that finds a key is its name, so no two keys have one name. -/
theorem name_of_ofName? {name : String} {k : Key} (h : ofName? name = some k) :
    name = k.name := by
  rw [ofName?] at h
  have hname := List.find?_some h
  exact (of_decide_eq_true hname).symm

/-- A tag is looked up in vain exactly if no key has it. -/
theorem ofName?_eq_none_iff {name : String} :
    ofName? name = none ↔ ∀ k : Key, k.name ≠ name := by
  constructor
  · intro h k hk
    rw [← hk, ofName?_name] at h
    exact absurd h (Option.some_ne_none k)
  · intro h
    cases hk : ofName? name with
    | none => rfl
    | some k => exact absurd (name_of_ofName? hk).symm (h k)

/-- No two keys have the same tag. -/
theorem name_injective {k l : Key} (h : k.name = l.name) : k = l := by
  have hl : ofName? k.name = some l := by rw [h, ofName?_name]
  rw [ofName?_name] at hl
  exact Option.some.inj hl

/-! ## Callouts -/

theorem isCallout_iff {k : Key} : k.isCallout = true ↔ k ∈ callouts := by
  rw [isCallout, List.contains_iff_mem]

end SymbolDocs.Discussion.Key
