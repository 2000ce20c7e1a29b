/-
Reading JSON, step by step.

Two readers are followed here, who may differ in the character that stands for a surrogate
left alone. What relates their steps lasts through all that they read, if it holds of the
simple steps and is kept by each way of putting steps together (`Lasting`, `Lasting.valueAt`).
The ways of reading enter one another with less fuel each time, and the fuel carries the
induction.

Between texts, nothing that is read is a backslash (`Passed`); so what is said about escapes
need not look there.
-/
import SymbolDocs.Json.Reader
import Mathlib.Data.List.Basic

set_option autoImplicit false

namespace SymbolDocs.Json

/-! ## Characters passed over -/

/-- What is left of a text when characters were passed over that are no backslash. -/
def Passed (s rest : List Char) : Prop :=
  ∃ front, front ++ rest = s ∧ '\\' ∉ front

/-- What is left is an end of the text. -/
theorem Passed.suffix {s rest : List Char} : Passed s rest → rest <:+ s
  | ⟨front, hfront, _⟩ => ⟨front, hfront⟩

theorem passed_refl (s : List Char) : Passed s s :=
  ⟨[], rfl, List.not_mem_nil⟩

theorem Passed.trans {s t rest : List Char} : Passed s t → Passed t rest → Passed s rest
  | ⟨front, hfront, hplain⟩, ⟨more, hmore, hplain'⟩ =>
    ⟨front ++ more, by rw [List.append_assoc, hmore, hfront],
      List.not_mem_append hplain hplain'⟩

theorem passed_cons {c : Char} (hc : c ≠ '\\') (rest : List Char) : Passed (c :: rest) rest :=
  ⟨[c], rfl, mt List.mem_singleton.mp hc.symm⟩

/-- Characters of a kind that a backslash is not of may be passed over. -/
theorem passed_dropWhile {p : Char → Bool} (hp : p '\\' = false) (s : List Char) :
    Passed s (s.dropWhile p) := by
  refine ⟨s.takeWhile p, List.takeWhile_append_dropWhile, fun hmem => ?_⟩
  rw [List.all_eq_true.mp List.all_takeWhile _ hmem] at hp
  cases hp

/-- So may a beginning without backslashes. -/
theorem passed_drop_front {s front : List Char} (hfront : front <+: s) (h : '\\' ∉ front) :
    Passed s (s.drop front.length) := by
  obtain ⟨rest, rfl⟩ := hfront
  rw [List.drop_left]
  exact ⟨front, rfl, h⟩

/-- No digit is a backslash. -/
theorem not_mem_of_digits {digits : List Char} (h : ∀ c ∈ digits, c.isDigit = true) :
    '\\' ∉ digits :=
  fun hmem => absurd (h _ hmem) (by decide)

/-- A word is passed over as a whole. -/
theorem passed_word? {s rest : List Char} {value : Json} (h : word? s = some (value, rest)) :
    Passed s rest := by
  obtain ⟨w, hw, hfound⟩ := List.exists_of_findSome?_eq_some h
  obtain ⟨others, hothers, heq⟩ := Option.map_eq_some_iff.mp hfound
  obtain ⟨-, rfl⟩ := Prod.mk.inj heq
  refine ⟨w.1, List.append_eq_of_isPrefixOf?_eq_some hothers, ?_⟩
  have hplain : ∀ w ∈ words, '\\' ∉ w.1 := by decide
  exact hplain w hw

/-- An exponent is passed over with its mark, its sign and its digits. -/
theorem passed_exponentPart? {s digits rest : List Char} {negative : Bool}
    (h : exponentPart? s = some (negative, digits, rest)) : Passed s rest := by
  have hrest {down : Bool} {ds t : List Char}
      (heq : some (down, ds, t.dropWhile Char.isDigit) = some (negative, digits, rest)) :
      Passed t rest := by
    obtain ⟨-, -, rfl⟩ : _ ∧ _ ∧ _ = rest := by simpa using heq
    exact passed_dropWhile rfl t
  cases s with
  | nil => cases h
  | cons c more =>
    unfold exponentPart? at h
    dsimp only at h
    split at h
    · rename_i hc
      have hmore : Passed (c :: more) more := by
        refine passed_cons ?_ more
        rintro rfl
        exact absurd hc (by decide)
      refine hmore.trans ?_
      -- A sign is passed over, and so are the digits, of which there is one at least.
      split at h <;> split at h
      · cases h
      · exact (passed_cons (by decide) _).trans (hrest h)
      · cases h
      · exact (passed_cons (by decide) _).trans (hrest h)
      · cases h
      · exact hrest h
    · cases h

/-- The digits of an integer stand at the front of the text. -/
theorem begins_integerDigits (s : List Char) :
    integerDigits s <+: s ∧ ∀ c ∈ integerDigits s, c.isDigit = true := by
  unfold integerDigits
  split
  · exact ⟨⟨_, rfl⟩, fun c hc => by rw [List.mem_singleton.mp hc]; rfl⟩
  · exact ⟨List.takeWhile_prefix _, List.all_eq_true.mp List.all_takeWhile⟩

/-- The digits of an integer are passed over. -/
theorem passed_drop_integerDigits (s : List Char) :
    Passed s (s.drop (integerDigits s).length) :=
  passed_drop_front (begins_integerDigits s).1 (not_mem_of_digits (begins_integerDigits s).2)

/-- A fraction is passed over with its point, if there is one. -/
theorem passed_fractionDigits (s : List Char) :
    Passed s
      (if (fractionDigits s).isEmpty then s else s.drop ((fractionDigits s).length + 1)) := by
  unfold fractionDigits
  split
  · rename_i rest
    split
    · exact passed_refl _
    · exact (passed_cons (by decide) rest).trans (passed_drop_front
        (List.takeWhile_prefix _) (not_mem_of_digits (List.all_eq_true.mp List.all_takeWhile)))
  · exact passed_refl s

/-- What reading a number comes to: it is read over, or it is none, or it has too many digits. -/
theorem numberAfterSign_cases (negative : Bool) (start s : List Char) :
    (∃ value rest, numberAfterSign negative start s = .ok (value, rest) ∧ Passed s rest)
    ∨ numberAfterSign negative start s = refuse .value start
    ∨ (numberAfterSign negative start s
        = refuse (.tooManyDigits (integerDigits s).length) start
      ∧ digitLimit < (integerDigits s).length) := by
  have hrest := (passed_drop_integerDigits s).trans (passed_fractionDigits _)
  rw [numberAfterSign]
  dsimp only
  split
  · exact .inr (.inl rfl)
  · split
    · rename_i hexponent
      exact .inl ⟨_, _, rfl, hrest.trans (passed_exponentPart? hexponent)⟩
    · split
      · exact .inl ⟨_, _, rfl, hrest⟩
      · split
        · rename_i hmany
          exact .inr (.inr ⟨rfl, hmany⟩)
        · exact .inl ⟨_, _, rfl, hrest⟩

/-- A scalar that was read was passed over. -/
theorem passed_scalar {s rest : List Char} {value : Json} (h : scalar s = .ok (value, rest)) :
    Passed s rest := by
  have hnumber {negative : Bool} {start t : List Char}
      (hread : numberAfterSign negative start t = .ok (value, rest)) : Passed t rest := by
    rcases numberAfterSign_cases negative start t with
      ⟨value', rest', hfound, hpassed⟩ | hnone | ⟨hrefused, -⟩
    · obtain ⟨-, rfl⟩ := Prod.mk.inj (Except.ok.inj (hfound.symm.trans hread))
      exact hpassed
    · exact absurd (hnone.symm.trans hread) nofun
    · exact absurd (hrefused.symm.trans hread) nofun
  unfold scalar at h
  split at h
  · rename_i found hfound
    obtain rfl := Except.ok.inj h
    exact passed_word? hfound
  · split at h
    · exact (passed_cons (by decide) _).trans (hnumber h)
    · exact hnumber h

/-! ## Relations that last -/

/-- A relation between the steps of two readers at a text, with room for so many openings, that
holds wherever they read on. -/
structure Lasting (lone other : Char)
    (R : {α : Type} → Nat → List Char → Step α → Step α → Prop) : Prop where
  ok : ∀ {α : Type} (room : Nat) (s : List Char) (a : α), R room s (.ok (a, s)) (.ok (a, s))
  refuse : ∀ {α : Type} {cause : Cause} (room : Nat) (s t : List Char), cause.isLimit = false →
    R room s (refuse cause t : Step α) (refuse cause t)
  passed : ∀ {α : Type} {room : Nat} {s rest : List Char} {step step' : Step α},
    Passed s rest → R room rest step step' → R room s step step'
  /-- The next step is taken where the first one ended. -/
  bind : ∀ {α β : Type} {room : Nat} {s : List Char} {step step' : Step α}
    {next next' : α × List Char → Step β}, R room s step step' →
    (∀ a rest, R room rest (next (a, rest)) (next' (a, rest))) →
    R room s (Except.bind step next) (Except.bind step' next')
  /-- A list or an object is entered if there is room for it. -/
  opening : ∀ {α : Type} {room : Nat} {c : Char} {rest : List Char} {step step' : Step α},
    c = '[' ∨ c = '\x7b' → R room rest step step' → R (room + 1) (c :: rest) step step'
  noRoom : ∀ {α : Type} {c : Char} {cause : Cause} (rest : List Char), c = '[' ∨ c = '\x7b' →
    R 0 (c :: rest) (Json.refuse cause (c :: rest) : Step α) (Json.refuse cause (c :: rest))
  text : ∀ (room : Nat) (rest : List Char),
    R room ('"' :: rest) (textAt lone ('"' :: rest)) (textAt other ('"' :: rest))
  scalar : ∀ (room : Nat) (s : List Char), R room s (scalar s) (scalar s)

section Values

variable {lone other : Char} {R : {α : Type} → Nat → List Char → Step α → Step α → Prop}
  {room : Nat} {s rest : List Char}

theorem passed_skipGaps (s : List Char) : Passed s (skipGaps s) :=
  passed_dropWhile rfl s

/-- The mark after a gap is passed over with it. -/
theorem passed_mark {c : Char} (hc : c ≠ '\\') (hmark : skipGaps s = c :: rest) :
    Passed s rest :=
  (hmark ▸ passed_skipGaps s).trans (passed_cons hc rest)

namespace Lasting

variable (h : Lasting lone other R)

include h in
/-- A change of the value that was read is no matter. -/
theorem map {α β : Type} {step step' : Step α} (f : α → β) (hstep : R room s step step') :
    R room s (step.map fun p => (f p.1, p.2)) (step'.map fun p => (f p.1, p.2)) := by
  have hmap (first : Step α) : first.map (fun p => (f p.1, p.2))
      = Except.bind first fun p => .ok (f p.1, p.2) := by
    cases first <;> rfl
  rw [hmap, hmap]
  exact h.bind hstep fun a rest => h.ok room rest (f a)

include h in
/-- A list or an object may end with its mark. -/
theorem ok_of_mark {α : Type} {c : Char} (a : α) (hc : c ≠ '\\') (hmark : skipGaps s = c :: rest) :
    R room s (.ok (a, rest)) (.ok (a, rest)) :=
  h.passed (passed_mark hc hmark) (h.ok room rest a)

variable {fuel : Nat}
  (hvalue : ∀ room s, R room s (valueAt lone fuel room s) (valueAt other fuel room s))
  (hitems : ∀ room s, R room s (itemsAt lone fuel room s) (itemsAt other fuel room s))
  (hmembers : ∀ room s, R room s (membersAt lone fuel room s) (membersAt other fuel room s))

include h hitems hmembers in
/-- A value is a text or a scalar, or is entered and read from its first part on. -/
theorem valueAt_succ (room : Nat) (s : List Char) :
    R room s (valueAt lone (fuel + 1) room s) (valueAt other (fuel + 1) room s) := by
  unfold valueAt
  split
  · exact h.map _ (h.text room _)
  · exact h.noRoom _ (.inl rfl)
  · refine h.opening (.inl rfl) ?_
    split
    · rename_i hmark
      exact h.ok_of_mark _ (by decide) hmark
    · exact h.map _ (h.passed (passed_skipGaps _) (hitems _ _))
  · exact h.noRoom _ (.inr rfl)
  · refine h.opening (.inr rfl) ?_
    split
    · rename_i hmark
      exact h.ok_of_mark _ (by decide) hmark
    · exact h.map _ (h.passed (passed_skipGaps _) (hmembers _ _))
  · exact h.scalar room s

include h hvalue hitems in
/-- Items are a value and its mark, and after a comma more of them. -/
theorem itemsAt_succ (room : Nat) (s : List Char) :
    R room s (itemsAt lone (fuel + 1) room s) (itemsAt other (fuel + 1) room s) := by
  unfold itemsAt
  refine h.bind (hvalue room s) fun item rest => ?_
  dsimp only
  split
  · rename_i hmark
    exact h.ok_of_mark _ (by decide) hmark
  · rename_i hmark
    have hnext := (passed_mark (by decide) hmark).trans (passed_skipGaps _)
    exact h.passed hnext (h.bind (hitems room _) fun items rest => h.ok room rest _)
  · exact h.refuse room _ _ rfl

include h hvalue hmembers in
/-- Members are a name, a colon and a value with its mark, and after a comma more of them. -/
theorem membersAt_succ (room : Nat) (s : List Char) :
    R room s (membersAt lone (fuel + 1) room s) (membersAt other (fuel + 1) room s) := by
  unfold membersAt
  split
  · refine h.bind (h.text room _) fun name rest => ?_
    dsimp only
    split
    · rename_i hmark
      have hnext := (passed_mark (by decide) hmark).trans (passed_skipGaps _)
      refine h.passed hnext (h.bind (hvalue room _) fun value rest => ?_)
      dsimp only
      split
      · rename_i hmark
        exact h.ok_of_mark _ (by decide) hmark
      · rename_i hmark
        have hnext := (passed_mark (by decide) hmark).trans (passed_skipGaps _)
        exact h.passed hnext (h.bind (hmembers room _) fun members rest => h.ok room rest _)
      · exact h.refuse room _ _ rfl
    · exact h.refuse room _ _ rfl
  · exact h.refuse room _ _ rfl

include h in
/-- **What lasts holds of every value that is read.** -/
theorem valueAt (fuel room : Nat) (s : List Char) :
    R room s (valueAt lone fuel room s) (valueAt other fuel room s) := by
  suffices hall :
      (∀ room s, R room s (Json.valueAt lone fuel room s) (Json.valueAt other fuel room s))
      ∧ (∀ room s, R room s (itemsAt lone fuel room s) (itemsAt other fuel room s))
      ∧ ∀ room s, R room s (membersAt lone fuel room s) (membersAt other fuel room s)
    from hall.1 room s
  induction fuel with
  | zero =>
    exact ⟨fun room s => h.refuse room s s rfl, fun room s => h.refuse room s s rfl,
      fun room s => h.refuse room s s rfl⟩
  | succ fuel ih =>
    obtain ⟨hvalue, hitems, hmembers⟩ := ih
    exact ⟨h.valueAt_succ hitems hmembers, h.itemsAt_succ hvalue hitems,
      h.membersAt_succ hvalue hmembers⟩

end Lasting

end Values

end SymbolDocs.Json
