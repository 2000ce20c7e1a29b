/-
Surrogates that are written by escapes.

A value may hold a character for a surrogate that was left alone, and which one it is depends
on the reader. It does not where every surrogate that an escape writes is followed by its
other half, or follows it: such a text is read the same by every reader
(`parseWith_eq_of_isPaired`). No character of a text is a surrogate itself, so only escapes
need to be looked at.

Reading passes over escapes in texts only. What stands between texts has none, so wherever
a step ends, the surrogates of the rest are still in pairs.
-/
import SymbolDocs.Proofs.Json.Limits

set_option autoImplicit false

namespace SymbolDocs.Json

/-! ## Pairs of surrogates -/

/-- Whether the surrogates among code units come in pairs, given whether a high one stands
right before them. -/
def unitsPaired (afterHigh : Bool) : List Nat → Bool
  | [] => !afterHigh
  | unit :: rest =>
    isLowSurrogate unit == afterHigh && unitsPaired (isHighSurrogate unit) rest

/-- Whether the surrogates that the escapes of a text write come in pairs, given whether an
escape of a high one stands right before it. -/
def isPaired (afterHigh : Bool) : List Char → Bool
  | '\\' :: 'u' :: a :: b :: c :: d :: rest =>
    match hexFour? a b c d with
    | some unit => isLowSurrogate unit == afterHigh && isPaired (isHighSurrogate unit) rest
    | none => !afterHigh && isPaired false rest
  | '\\' :: _ :: rest => !afterHigh && isPaired false rest
  | _ :: rest => !afterHigh && isPaired false rest
  | [] => !afterHigh

/-- A character is no half of a pair. -/
theorem not_surrogate (c : Char) :
    isHighSurrogate c.toNat = false ∧ isLowSurrogate c.toNat = false := by
  have hvalid : c.toNat < 0xD800 ∨ 0xDFFF < c.toNat ∧ c.toNat < 0x110000 := c.valid
  simp only [isHighSurrogate, isLowSurrogate, Bool.and_eq_false_iff, decide_eq_false_iff_not]
  omega

/-- A unit that is a character ends no pair and starts none. -/
theorem unitsPaired_char {afterHigh : Bool} (c : Char) (units : List Nat) :
    unitsPaired afterHigh (c.toNat :: units) = (!afterHigh && unitsPaired false units) := by
  obtain ⟨hhigh, hlow⟩ := not_surrogate c
  rw [unitsPaired, hhigh, hlow]
  cases afterHigh <;> rfl

/-- The two halves of a pair are told apart. -/
theorem not_high_of_low {unit : Nat} (h : isLowSurrogate unit = true) :
    isHighSurrogate unit = false := by
  simp only [isHighSurrogate, isLowSurrogate, Bool.and_eq_true, Bool.and_eq_false_iff,
    decide_eq_true_eq, decide_eq_false_iff_not] at h ⊢
  omega

/-- Code units in pairs make the same characters, whatever stands for a surrogate alone. -/
theorem joinUnits_eq_of_unitsPaired {units : List Nat} (h : unitsPaired false units = true)
    (lone other : Char) : joinUnits lone units = joinUnits other units := by
  have halone {unit : Nat} (hhigh : isHighSurrogate unit = false)
      (hlow : isLowSurrogate unit = false) :
      joinUnits.ofUnit lone unit = joinUnits.ofUnit other unit := by
    rw [joinUnits.ofUnit, joinUnits.ofUnit, hhigh, hlow]
    rfl
  fun_induction joinUnits lone units with
  | case1 high low rest hpair ih =>
    rw [joinUnits, if_pos hpair]
    have hlow := (Bool.and_eq_true_iff.mp hpair).2
    -- A low surrogate is no high one, so the rest starts afresh.
    rw [unitsPaired, unitsPaired, not_high_of_low hlow] at h
    simp only [Bool.and_eq_true] at h
    rw [ih h.2.2]
  | case2 high low rest hpair ih =>
    obtain ⟨hhigh, hlow, hrest⟩ :
        isHighSurrogate high = false ∧ isLowSurrogate high = false
          ∧ unitsPaired false (low :: rest) = true := by
      rw [unitsPaired] at h
      cases hhigh : isHighSurrogate high with
      | false => simpa [hhigh] using h
      | true =>
        -- A high surrogate must be followed by a low one, and this one is not.
        rw [hhigh, unitsPaired] at h
        simp only [Bool.and_eq_true, beq_iff_eq] at h
        exact absurd (Bool.and_eq_true_iff.mpr ⟨hhigh, h.2.1⟩) hpair
    rw [joinUnits, if_neg hpair, halone hhigh hlow, ih hrest]
  | case3 unit =>
    simp only [unitsPaired, Bool.and_eq_true, beq_iff_eq, Bool.not_eq_true'] at h
    rw [joinUnits, halone h.2 h.1]
  | case4 => rfl

/-- A character that is written as itself ends no pair and starts none. -/
theorem isPaired_cons {c : Char} (hc : c ≠ '\\') (afterHigh : Bool) (rest : List Char) :
    isPaired afterHigh (c :: rest) = (!afterHigh && isPaired false rest) := by
  rw [isPaired]
  · exact fun _ _ _ _ _ h => absurd h hc
  · exact fun _ _ h => absurd h hc

/-- What is no escape may be passed over. -/
theorem Passed.isPaired {s rest : List Char} (h : Passed s rest)
    (hs : Json.isPaired false s = true) : Json.isPaired false rest = true := by
  obtain ⟨front, rfl, hplain⟩ := h
  induction front with
  | nil => exact hs
  | cons c more ih =>
    rw [List.mem_cons, not_or] at hplain
    rw [List.cons_append, isPaired_cons (Ne.symm hplain.1)] at hs
    exact ih hplain.2 hs

/-- A value that was changed was read first. -/
theorem exists_of_map {α β : Type} {f : α → β} {step : Step α} {b : β} {rest : List Char}
    (h : (step.map fun p => (f p.1, p.2)) = .ok (b, rest)) :
    ∃ a, step = .ok (a, rest) ∧ f a = b := by
  cases step with
  | error cause => cases h
  | ok p =>
    obtain ⟨rfl, rfl⟩ := Prod.mk.inj (Except.ok.inj h)
    exact ⟨p.1, rfl, rfl⟩

/-- The code units that a step reads off a text come in pairs where its escapes do, and so do
the escapes of the rest. -/
def KeepsPairs (s : List Char) (step : Step (List Nat)) : Prop :=
  ∀ afterHigh units rest, step = .ok (units, rest) → isPaired afterHigh s = true →
    unitsPaired afterHigh units = true ∧ isPaired false rest = true

/-- However a character is written, it ends no pair and starts none. -/
theorem keepsPairs_prepend {s rest : List Char} {step : Step (List Nat)} (c : Char)
    (h : KeepsPairs rest step)
    (hs : ∀ afterHigh, isPaired afterHigh s = (!afterHigh && isPaired false rest)) :
    KeepsPairs s (prepend c.toNat step) := by
  intro afterHigh units left hread hpaired
  obtain ⟨more, hmore, rfl⟩ := exists_of_map hread
  rw [hs] at hpaired
  obtain ⟨hstart, hrest⟩ := Bool.and_eq_true_iff.mp hpaired
  rw [unitsPaired_char, hstart]
  exact h false more left hmore hrest

theorem keepsPairs_refuse (s t : List Char) (cause : Cause) : KeepsPairs s (refuse cause t) :=
  fun _ _ _ h _ => absurd h nofun

theorem keepsPairs_textBody (opening s : List Char) : KeepsPairs s (textBody opening s) := by
  fun_induction textBody opening s with
  | case2 rest =>
    intro afterHigh units left hread hpaired
    obtain ⟨rfl, rfl⟩ := Prod.mk.inj (Except.ok.inj hread)
    rw [isPaired_cons (by decide)] at hpaired
    exact Bool.and_eq_true_iff.mp hpaired
  | case5 a b c d rest unit hunit _ ih =>
    intro afterHigh units left hread hpaired
    obtain ⟨more, hmore, rfl⟩ := exists_of_map hread
    rw [isPaired, hunit] at hpaired
    obtain ⟨hhalf, hrest⟩ := Bool.and_eq_true_iff.mp hpaired
    rw [unitsPaired, hhalf]
    exact ih _ more left hmore hrest
  | case7 c rest _ hletter d _ ih =>
    refine keepsPairs_prepend d ih fun afterHigh => ?_
    rw [isPaired]
    exact fun _ _ _ _ _ hu _ => hletter hu
  | case11 c rest _ _ _ hescape hend _ ih =>
    have hc : c ≠ '\\' := by
      cases rest with
      | nil => exact fun hc => hend hc rfl
      | cons d more => exact fun hc => hescape d more hc rfl
    exact keepsPairs_prepend c ih fun afterHigh => isPaired_cons hc afterHigh rest
  | _ => exact keepsPairs_refuse _ _ _

/-! ## Steps that all readers take alike -/

/-- Two readers take the same step, and the surrogates of the rest come in pairs, if those of
the text do. -/
def Agree {α : Type} (s : List Char) (step step' : Step α) : Prop :=
  isPaired false s = true →
    step = step' ∧ ∀ a rest, step = .ok (a, rest) → isPaired false rest = true

section Steps

variable {α β : Type} {s rest : List Char} {step step' : Step α}

theorem agree_ok (s : List Char) (a : α) : Agree s (.ok (a, s)) (.ok (a, s)) := by
  refine fun h => ⟨rfl, fun b rest heq => ?_⟩
  obtain ⟨-, rfl⟩ := Prod.mk.inj (Except.ok.inj heq)
  exact h

theorem agree_refuse (cause : Cause) (s t : List Char) :
    Agree s (refuse cause t : Step α) (refuse cause t) :=
  fun _ => ⟨rfl, fun _ _ heq => absurd heq nofun⟩

/-- What comes before the escapes is the same for both. -/
theorem agree_of_passed (hpassed : Passed s rest) (h : Agree rest step step') :
    Agree s step step' :=
  fun hs => h (hpassed.isPaired hs)

/-- Steps one after the other: the readers are at the same place when they take the next one. -/
theorem agree_bind {next next' : α × List Char → Step β} (h : Agree s step step')
    (hnext : ∀ a rest, Agree rest (next (a, rest)) (next' (a, rest))) :
    Agree s (Except.bind step next) (Except.bind step' next') := by
  intro hs
  obtain ⟨rfl, hleaves⟩ := h hs
  cases step with
  | error cause => exact ⟨rfl, fun _ _ heq => absurd heq nofun⟩
  | ok p => exact hnext p.1 p.2 (hleaves p.1 p.2 rfl)

/-- This is where readers could differ: the code units of a text are joined to characters. -/
theorem agree_textAt (lone other : Char) (rest : List Char) :
    Agree ('"' :: rest) (textAt lone ('"' :: rest)) (textAt other ('"' :: rest)) := by
  refine agree_of_passed (passed_cons (by decide) rest) fun h => ?_
  cases hread : textBody ('"' :: rest) rest with
  | error cause =>
    have hfault (lone : Char) : textAt lone ('"' :: rest) = .error cause := by
      rw [textAt, List.tail_cons, hread]
      rfl
    rw [hfault, hfault]
    exact ⟨rfl, fun _ _ heq => absurd heq nofun⟩
  | ok p =>
    have htext (lone : Char) : textAt lone ('"' :: rest)
        = .ok (String.ofList (joinUnits lone p.1), p.2) := by
      rw [textAt, List.tail_cons, hread]
      rfl
    obtain ⟨hunits, hleft⟩ := keepsPairs_textBody _ _ false p.1 p.2 hread h
    rw [htext, htext, joinUnits_eq_of_unitsPaired hunits lone other]
    exact agree_ok p.2 _ hleft

/-- No scalar has an escape. -/
theorem agree_scalar (s : List Char) : Agree s (scalar s) (scalar s) :=
  fun h => ⟨rfl, fun _ _ hread => (passed_scalar hread).isPaired h⟩

end Steps

/-! ## Values and whole texts -/

/-- That readers agree lasts, and so does it that surrogates are in pairs where they are. -/
theorem lasting_agree (lone other : Char) :
    Lasting lone other fun _ s step step' => Agree s step step' where
  ok _ s a := agree_ok s a
  refuse _ s t _ := agree_refuse _ s t
  passed := agree_of_passed
  bind := agree_bind
  opening hc := agree_of_passed (passed_cons (by rcases hc with rfl | rfl <;> decide) _)
  noRoom rest _ := agree_refuse _ _ _
  text _ rest := agree_textAt lone other rest
  scalar _ s := agree_scalar s

/-- **A text whose surrogates come in pairs is read alike**, whatever stands for a surrogate
left alone. -/
theorem parseWith_eq_of_isPaired {text : List Char} (h : isPaired false text = true)
    (lone other : Char) : parseWith lone text = parseWith other text := by
  have hdocument : document lone text = document other text := by
    unfold document
    split
    · rfl
    · rw [((lasting_agree lone other).valueAt _ _ _ ((passed_skipGaps text).isPaired h)).1]
  rw [parseWith, parseWith, hdocument]

end SymbolDocs.Json
