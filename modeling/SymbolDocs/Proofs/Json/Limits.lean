/-
Texts beyond the limits of the reader.

Reading goes forward: what a step leaves of a text is an end of it. So a number that has too
many digits stands in the text as it is, and every list or object that is entered has an
opening of its own. A text comes up against a limit only if it has so many digits in a row,
or so many openings (`exceeds_of_isLimit`); any other is read or refused for what it says.

That is shown of the simple steps, and lasts through all that is read.
-/
import SymbolDocs.Proofs.Json.Steps

set_option autoImplicit false

namespace SymbolDocs.Json

/-! ## Limits -/

/-- How often a list or an object is opened, counted without regard to what is a text. -/
def openings (s : List Char) : Nat :=
  s.countP fun c => c = '[' || c = '\x7b'

/-- A text has more digits in a row than an integer may have, or more openings than there is
room for. -/
def Exceeds (room : Nat) (s : List Char) : Prop :=
  (∃ digits, digits <:+: s ∧ (∀ c ∈ digits, c.isDigit = true) ∧ digitLimit < digits.length)
    ∨ room < openings s

/-- What a reading step leaves is an end of what it was given, and it comes up against a limit
only where that exceeds it. -/
structure Bounded {α : Type} (room : Nat) (s : List Char) (step : Step α) : Prop where
  leaves : ∀ a rest, step = .ok (a, rest) → rest <:+ s
  exceeds : ∀ cause left, step = .error (cause, left) → cause.isLimit = true → Exceeds room s

section Steps

variable {α β : Type} {room : Nat} {s s' rest : List Char} {cause : Cause} {step : Step α}

/-- What exceeds a limit makes every text exceed it that ends with it. -/
theorem exceeds_of_suffix (hs : s' <:+ s) (h : Exceeds room s') : Exceeds room s := by
  rcases h with ⟨digits, hinfix, hdigits, hmany⟩ | hopen
  · exact .inl ⟨digits, hinfix.trans hs.isInfix, hdigits, hmany⟩
  · exact .inr (Nat.lt_of_lt_of_le hopen hs.sublist.countP_le)

/-- An opening is counted. -/
theorem openings_cons {c : Char} (hc : c = '[' ∨ c = '\x7b') (s : List Char) :
    openings (c :: s) = openings s + 1 :=
  List.countP_cons_of_pos (by simpa using hc)

/-- An opening takes one of the levels there is room for. -/
theorem exceeds_of_opening {c : Char} (hc : c = '[' ∨ c = '\x7b') (h : Exceeds room s) :
    Exceeds (room + 1) (c :: s) := by
  rcases h with ⟨digits, hinfix, hdigits, hmany⟩ | hopen
  · exact .inl ⟨digits, hinfix.trans (List.suffix_cons c s).isInfix, hdigits, hmany⟩
  · exact .inr (by rw [openings_cons hc]; exact Nat.succ_lt_succ hopen)

/-- Where there is no room at all, one opening is too many. -/
theorem exceeds_of_no_room {c : Char} (hc : c = '[' ∨ c = '\x7b') (s : List Char) :
    Exceeds 0 (c :: s) :=
  .inr (by rw [openings_cons hc]; exact Nat.succ_pos _)

/-- Whoever reads on to an end of the text has met no limit. -/
theorem bounded_ok (a : α) (h : rest <:+ s) : Bounded room s (.ok (a, rest)) where
  leaves b other heq := by
    obtain ⟨-, rfl⟩ := Prod.mk.inj (Except.ok.inj heq)
    exact h
  exceeds _ _ heq := absurd heq nofun

/-- A refusal is one for a limit only where the text exceeds it. -/
theorem bounded_refuse (t : List Char) (h : cause.isLimit = true → Exceeds room s) :
    Bounded room s (refuse cause t : Step α) where
  leaves _ _ heq := absurd heq nofun
  exceeds other left heq := by
    obtain ⟨rfl, -⟩ := Prod.mk.inj (Except.error.inj heq)
    exact h

/-- What is bounded on an end of a text is bounded on the text. -/
theorem bounded_of_suffix (hs : s' <:+ s) (h : Bounded room s' step) : Bounded room s step where
  leaves a rest heq := (h.leaves a rest heq).trans hs
  exceeds cause left heq hlimit := exceeds_of_suffix hs (h.exceeds cause left heq hlimit)

/-- What is bounded behind an opening is bounded on the text with it, with one level more. -/
theorem bounded_of_opening {c : Char} (hc : c = '[' ∨ c = '\x7b') (h : Bounded room s step) :
    Bounded (room + 1) (c :: s) step where
  leaves a rest heq := (h.leaves a rest heq).trans (List.suffix_cons c s)
  exceeds cause left heq hlimit := exceeds_of_opening hc (h.exceeds cause left heq hlimit)

/-- Steps one after the other: the next one is given what the first one left. -/
theorem bounded_bind {next : α × List Char → Step β} (h : Bounded room s step)
    (hnext : ∀ a rest, Bounded room rest (next (a, rest))) :
    Bounded room s (Except.bind step next) := by
  cases step with
  | ok p => exact bounded_of_suffix (h.leaves p.1 p.2 rfl) (hnext p.1 p.2)
  | error e => exact ⟨fun _ _ heq => absurd heq nofun, fun cause left heq =>
      h.exceeds cause left (congrArg Except.error (Except.error.inj heq))⟩

/-- A change of the value that was read is no matter. -/
theorem bounded_map (f : α → β) (h : Bounded room s step) :
    Bounded room s (step.map fun p => (f p.1, p.2)) := by
  cases step with
  | ok p => exact bounded_ok _ (h.leaves p.1 p.2 rfl)
  | error e => exact ⟨fun _ _ heq => absurd heq nofun, fun cause left heq =>
      h.exceeds cause left (congrArg Except.error (Except.error.inj heq))⟩

end Steps

/-! ## Texts, words and numbers -/

section Scalars

variable (room : Nat)

/-- Nothing in a text is a limit, however it ends. -/
theorem bounded_textBody (opening s : List Char) : Bounded room s (textBody opening s) := by
  fun_induction textBody opening s
  case case2 rest => exact bounded_ok _ (List.suffix_cons _ _)
  case case5 a b c d rest unit _ _ ih =>
    exact bounded_of_suffix (List.suffix_append ['\\', 'u', a, b, c, d] rest) (bounded_map _ ih)
  case case7 c rest _ _ d _ ih =>
    exact bounded_of_suffix (List.suffix_append ['\\', c] rest) (bounded_map _ ih)
  case case11 c rest _ _ _ _ _ _ ih =>
    exact bounded_of_suffix (List.suffix_cons c rest) (bounded_map _ ih)
  all_goals exact bounded_refuse _ nofun

/-- The same holds of a text with its opening quote, whatever stands for a surrogate left alone. -/
theorem bounded_textAt (lone : Char) (s : List Char) : Bounded room s (textAt lone s) :=
  bounded_of_suffix (List.tail_suffix s)
    (bounded_map (fun units => String.ofList (joinUnits lone units))
      (bounded_textBody room s s.tail))

/-- A number that has too many digits has them in a row. -/
theorem bounded_numberAfterSign (negative : Bool) {start s : List Char} (hs : s <:+ start) :
    Bounded room start (numberAfterSign negative start s) := by
  rcases numberAfterSign_cases negative start s with
    ⟨value, rest, hread, hpassed⟩ | hnone | ⟨hrefused, hmany⟩
  · rw [hread]
    exact bounded_ok _ (hpassed.suffix.trans hs)
  · rw [hnone]
    exact bounded_refuse _ nofun
  · rw [hrefused]
    obtain ⟨hfront, hdigits⟩ := begins_integerDigits s
    exact bounded_refuse _ fun _ => .inl ⟨_, hfront.isInfix.trans hs.isInfix, hdigits, hmany⟩

/-- A word is short, and any other scalar is a number. -/
theorem bounded_scalar (s : List Char) : Bounded room s (scalar s) := by
  unfold scalar
  split
  · rename_i found hfound
    exact bounded_ok _ (passed_word? hfound).suffix
  · split
    · exact bounded_numberAfterSign room true (List.suffix_cons _ _)
    · exact bounded_numberAfterSign room false (List.suffix_refl _)

end Scalars

/-! ## Values and whole texts -/

/-- That steps are bounded lasts. One reader is enough here, so both are the same. -/
theorem lasting_bounded (lone : Char) :
    Lasting lone lone fun room s step _ => Bounded room s step where
  ok room s a := bounded_ok a (List.suffix_refl s)
  refuse room s t hcause := bounded_refuse t fun hlimit => by
    rw [hcause] at hlimit
    cases hlimit
  passed hpassed := bounded_of_suffix hpassed.suffix
  bind := bounded_bind
  opening := bounded_of_opening
  noRoom rest hc := bounded_refuse _ fun _ => exceeds_of_no_room hc rest
  text room rest := bounded_textAt room lone _
  scalar := bounded_scalar

/-- **A limit is met only in a text that exceeds it.** -/
theorem exceeds_of_isLimit {text : List Char} {fault : Fault} (h : parse text = .error fault)
    (hlimit : fault.cause.isLimit = true) : Exceeds depthLimit text := by
  rw [parse, parseWith] at h
  cases hdocument : document standIn text with
  | ok value =>
    rw [hdocument] at h
    cases h
  | error found =>
    rw [hdocument] at h
    obtain rfl := Except.error.inj h
    unfold document at hdocument
    split at hdocument
    · obtain rfl := Except.error.inj hdocument
      exact absurd hlimit Bool.false_ne_true
    · have hbounded := (lasting_bounded standIn).valueAt (2 * text.length + 1) depthLimit
        (skipGaps text)
      cases hread : valueAt standIn (2 * text.length + 1) depthLimit (skipGaps text) with
      | error cause =>
        rw [hread] at hdocument
        obtain rfl := Except.error.inj hdocument
        exact exceeds_of_suffix (passed_skipGaps text).suffix
          (hbounded.exceeds _ _ hread hlimit)
      | ok p =>
        rw [hread] at hdocument
        simp only [bind, Except.bind] at hdocument
        split at hdocument
        · cases hdocument
        · obtain rfl := Except.error.inj hdocument
          exact absurd hlimit Bool.false_ne_true

end SymbolDocs.Json
