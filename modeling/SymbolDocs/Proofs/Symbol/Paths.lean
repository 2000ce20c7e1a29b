/-
What is told of the path of a file.

The settings name a prefix, and what is told of a path is the path without it. It is taken
off by clearing the path of it, occurrence by occurrence: the first one goes, then the first
one in what follows that, and so on (`Cleared`). So nothing but occurrences of the prefix
goes, but every one of them does, not only the one that the path may begin with.

What a prefix is for is said by `withoutPrefix`: the path from there on, if it begins with
the prefix, and otherwise the path as it is. The two agree exactly if the prefix does not
recur, that is, if it is empty or occurs nowhere in what `withoutPrefix` leaves.
-/
import Mathlib.Data.List.Infix
import SymbolDocs.Proofs.Symbol.Comment

set_option autoImplicit false

namespace SymbolDocs

/-! ## Clearing a text of a part -/

section Clearing

variable {part text left : List Char}

/-- The first occurrence of a part in `before ++ part`, and in any text that begins so, is
the one after `before`. -/
def ComesFirst (part before : List Char) : Prop :=
  ¬ part <:+: (before ++ part).dropLast

/-- A text, and what is left of it when it is cleared of a part. -/
inductive Cleared (part : List Char) : List Char → List Char → Prop
  | absent {text : List Char} (h : ¬ part <:+: text) : Cleared part text text
  | found {before rest left : List Char} (hfirst : ComesFirst part before)
      (hrest : Cleared part rest left) : Cleared part (before ++ part ++ rest) (before ++ left)

theorem comesFirst_nil (h : part ≠ []) : ComesFirst part [] := by
  intro hoccurs
  have hlength := hoccurs.length_le
  have hpositive := List.length_pos_of_ne_nil h
  rw [List.nil_append, List.length_dropLast] at hlength
  omega

/-- One character more before the part: it does not begin there, and comes first after it. -/
theorem comesFirst_cons (h : part ≠ []) {c : Char} {before : List Char} :
    ComesFirst part (c :: before)
      ↔ ¬ part <+: (c :: (before ++ part)).dropLast ∧ ComesFirst part before := by
  have hne : before ++ part ≠ [] := by simp [h]
  rw [ComesFirst, ComesFirst, List.cons_append, List.dropLast_cons_of_ne_nil hne,
    List.infix_cons_iff, not_or]

/-- A text begins with what it is up to the end of the part, less one character. -/
theorem dropLast_prefix_append (c : Char) (before part rest : List Char) :
    (c :: (before ++ part)).dropLast <+: c :: (before ++ part ++ rest) := by
  rw [← List.cons_append]
  exact (List.dropLast_prefix _).trans (List.prefix_append _ rest)

/-- A text does not begin with a part that comes first after another character. -/
theorem not_begins_of_comesFirst (h : part ≠ []) {c : Char} {before : List Char}
    (hfirst : ComesFirst part (c :: before)) (rest : List Char) :
    ¬ part <+: c :: (before ++ part ++ rest) := by
  intro hbegins
  have hfits : part.length ≤ (c :: (before ++ part)).dropLast.length := by
    rw [List.length_dropLast, List.length_cons, List.length_append]
    omega
  apply ((comesFirst_cons h).mp hfirst).1
  exact List.prefix_of_prefix_length_le hbegins (dropLast_prefix_append c before part rest) hfits

/-- Where a part occurs, it has a first occurrence. -/
theorem exists_comesFirst (h : part ≠ []) (hoccurs : part <:+: text) :
    ∃ before rest, text = before ++ part ++ rest ∧ ComesFirst part before := by
  induction text with
  | nil => exact absurd (List.infix_nil.mp hoccurs) h
  | cons c more ih =>
    by_cases hbegins : part <+: c :: more
    · obtain ⟨rest, hrest⟩ := hbegins
      exact ⟨[], rest, hrest.symm, comesFirst_nil h⟩
    · obtain ⟨before, rest, rfl, hfirst⟩ :=
        ih ((List.infix_cons_iff.mp hoccurs).resolve_left hbegins)
      refine ⟨c :: before, rest, rfl, (comesFirst_cons h).mpr ⟨?_, hfirst⟩⟩
      intro hcut
      exact hbegins (hcut.trans (dropLast_prefix_append c before part rest))

/-! ### The scan -/

/-- What is still to be passed over can as well be dropped. -/
theorem removeFrom_eq_drop (skip : Nat) (text : List Char) :
    removeFrom part skip text = removeFrom part 0 (text.drop skip) := by
  induction text generalizing skip with
  | nil => rw [List.drop_nil, removeFrom, removeFrom]
  | cons c rest ih =>
    cases skip with
    | zero => rfl
    | succ skip => rw [removeFrom, ih, List.drop_succ_cons]

theorem removeFrom_append_self (h : part ≠ []) (rest : List Char) :
    removeFrom part 0 (part ++ rest) = removeFrom part 0 rest := by
  cases part with
  | nil => exact absurd rfl h
  | cons c more =>
    have hbegins : (c :: more).isPrefixOf (c :: (more ++ rest)) = true :=
      List.isPrefixOf_iff_prefix.mpr (List.prefix_append (c :: more) rest)
    rw [List.cons_append, removeFrom, if_pos hbegins, List.length_cons, Nat.add_sub_cancel,
      removeFrom_eq_drop, List.drop_left]

theorem removeFrom_cons_of_not_begins {c : Char} {rest : List Char} (h : ¬ part <+: c :: rest) :
    removeFrom part 0 (c :: rest) = c :: removeFrom part 0 rest := by
  rw [removeFrom, if_neg (mt List.isPrefixOf_iff_prefix.mp h)]

theorem removeFrom_of_absent (h : ¬ part <:+: text) : removeFrom part 0 text = text := by
  induction text with
  | nil => rfl
  | cons c rest ih =>
    rw [List.infix_cons_iff, not_or] at h
    rw [removeFrom_cons_of_not_begins h.1, ih h.2]

theorem removeFrom_of_comesFirst (h : part ≠ []) {before : List Char}
    (hfirst : ComesFirst part before) (rest : List Char) :
    removeFrom part 0 (before ++ part ++ rest) = before ++ removeFrom part 0 rest := by
  induction before with
  | nil => exact removeFrom_append_self h rest
  | cons c before ih =>
    have hnext := ih ((comesFirst_cons h).mp hfirst).2
    rw [List.cons_append, List.cons_append,
      removeFrom_cons_of_not_begins (not_begins_of_comesFirst h hfirst rest), hnext,
      List.cons_append]

/-- The scan clears a text, occurrence by occurrence. -/
theorem cleared_iff (h : part ≠ []) : Cleared part text left ↔ left = removeFrom part 0 text := by
  constructor
  · intro hcleared
    induction hcleared with
    | absent habsent => exact (removeFrom_of_absent habsent).symm
    | found hfirst hrest ih => rw [removeFrom_of_comesFirst h hfirst, ih]
  · rintro rfl
    -- What follows the first occurrence is shorter than the text.
    induction hlength : text.length using Nat.strong_induction_on generalizing text with
    | h length ih =>
      by_cases hoccurs : part <:+: text
      · obtain ⟨before, rest, rfl, hfirst⟩ := exists_comesFirst h hoccurs
        have hpositive := List.length_pos_of_ne_nil h
        have hshorter : rest.length < length := by
          simp only [List.length_append] at hlength
          omega
        rw [removeFrom_of_comesFirst h hfirst]
        exact .found hfirst (ih rest.length hshorter rfl)
      · rw [removeFrom_of_absent hoccurs]
        exact .absent hoccurs

/-! ### What remains -/

theorem Cleared.length_le (h : Cleared part text left) : left.length ≤ text.length := by
  induction h with
  | absent => exact le_rfl
  | found _ _ ih =>
    simp only [List.length_append]
    omega

/-- A text is left as it is exactly if the part does not occur in it. -/
theorem removeFrom_eq_self_iff (h : part ≠ []) :
    removeFrom part 0 text = text ↔ ¬ part <:+: text := by
  refine ⟨fun hself hoccurs => ?_, removeFrom_of_absent⟩
  obtain ⟨before, rest, rfl, hfirst⟩ := exists_comesFirst h hoccurs
  rw [removeFrom_of_comesFirst h hfirst, List.append_assoc, List.append_cancel_left_eq] at hself
  have hshort := ((cleared_iff h).mpr (rfl : removeFrom part 0 rest = _)).length_le
  have hpositive := List.length_pos_of_ne_nil h
  rw [hself, List.length_append] at hshort
  omega

end Clearing

/-! ## Taking a prefix off -/

/-- A text without a part that it begins with, and nothing else. -/
def withoutPrefix (part text : String) : String :=
  if part.toList <+: text.toList then String.ofList (text.toList.drop part.length) else text

/-- A part occurs in a text besides where the text begins with it. -/
def Recurs (part text : String) : Prop :=
  part ≠ "" ∧ part.toList <:+: (withoutPrefix part text).toList

instance (part text : String) : Decidable (Recurs part text) :=
  inferInstanceAs (Decidable (part ≠ "" ∧ part.toList <:+: (withoutPrefix part text).toList))

section Prefixes

variable {part text : String}

theorem withoutPrefix_append (part rest : String) : withoutPrefix part (part ++ rest) = rest := by
  have hbegins : part.toList <+: (part ++ rest).toList := by
    rw [String.toList_append]
    exact List.prefix_append _ _
  rw [withoutPrefix, if_pos hbegins, String.toList_append, ← String.length_toList,
    List.drop_left, String.ofList_toList]

theorem exists_append_of_begins (h : part.toList <+: text.toList) : ∃ rest, text = part ++ rest := by
  obtain ⟨rest, hrest⟩ := h
  exact ⟨String.ofList rest, String.toList_injective (by rw [← hrest]; simp)⟩

theorem toList_ne_nil (h : part ≠ "") : part.toList ≠ [] :=
  fun hnil => h (String.toList_eq_nil_iff.mp hnil)

theorem removeAll_empty (text : String) : removeAll "" text = text := rfl

theorem toList_removeAll (h : part ≠ "") :
    (removeAll part text).toList = removeFrom part.toList 0 text.toList := by
  rw [removeAll, if_neg (by simpa using h), String.toList_ofList]

/-- Behind the prefix a path is cleared like any other text. -/
theorem removeAll_append (h : part ≠ "") (rest : String) :
    removeAll part (part ++ rest) = removeAll part rest := by
  apply String.toList_injective
  rw [toList_removeAll h, toList_removeAll h, String.toList_append,
    removeFrom_append_self (toList_ne_nil h)]

theorem removeAll_eq_self_iff (h : part ≠ "") :
    removeAll part text = text ↔ ¬ part.toList <:+: text.toList := by
  rw [← removeFrom_eq_self_iff (toList_ne_nil h), ← toList_removeAll h, String.toList_inj]

/-- Only the prefix goes exactly if it does not recur. -/
theorem removeAll_eq_withoutPrefix_iff :
    removeAll part text = withoutPrefix part text ↔ ¬ Recurs part text := by
  by_cases hpart : part = ""
  · subst hpart
    have hself : withoutPrefix "" text = text := withoutPrefix_append "" text
    rw [hself, removeAll_empty]
    exact ⟨fun _ hrecurs => hrecurs.1 rfl, fun _ => rfl⟩
  · rw [Recurs, not_and, forall_prop_of_true hpart]
    by_cases hbegins : part.toList <+: text.toList
    · obtain ⟨rest, rfl⟩ := exists_append_of_begins hbegins
      rw [removeAll_append hpart, withoutPrefix_append, removeAll_eq_self_iff hpart]
    · rw [withoutPrefix, if_neg hbegins, removeAll_eq_self_iff hpart]

end Prefixes

/-! ## The path of a record -/

/-- **The prefix is taken off a path, wherever it occurs.** What is told of a path is the
path cleared of the prefix. If the prefix does not recur, it is the path without the prefix,
and put together with the prefix it is the path again, if that begins with it; if the prefix
recurs, neither is the case. The comment does not matter, apart from a stray name, which
leaves the record without an introspection. -/
theorem introspect_file (settings : Settings) (workingDirectory : String) (r : Record)
    {path taken : String} (hpath : r.text? "filePath" = some path)
    (htaken : settings.resolvedPathPrefix workingDirectory = taken) :
    ∃ file,
      (r.introspect settings workingDirectory none).map (·.file) = unlessFault r.stray? file
      ∧ (∀ comment,
        (r.introspect settings workingDirectory (some comment)).map (·.file) = .ok file)
      ∧ (file = withoutPrefix taken path ↔ ¬ Recurs taken path)
      ∧ (taken.toList <+: path.toList → (taken ++ file = path ↔ ¬ Recurs taken path))
      ∧ (taken = "" → file = path)
      ∧ (taken ≠ "" → Cleared taken.toList path.toList file.toList) := by
  have hfile (comment : String) :
      (r.introspectWith settings workingDirectory comment).file = removeAll taken path := by
    have hstring : r.string? .filePath = some path :=
      (r.string?_eq_text? .filePath).trans hpath
    rw [Record.introspectWith, hstring, htaken, Option.getD_some]
  refine ⟨removeAll taken path, ?_, fun comment => ?_, removeAll_eq_withoutPrefix_iff,
    fun hbegins => ?_, ?_, fun hne => ?_⟩
  · rw [Record.introspect_eq, map_unlessFault, hfile]
  · show Except.ok (r.introspectWith settings workingDirectory comment).file = _
    rw [hfile]
  · obtain ⟨rest, rfl⟩ := exists_append_of_begins hbegins
    rw [← removeAll_eq_withoutPrefix_iff, withoutPrefix_append, String.append_right_inj]
  · rintro rfl
    rfl
  · exact (cleared_iff (toList_ne_nil hne)).mpr (toList_removeAll hne)

/-- A record of a file, and nothing else. -/
def declaredIn (path : String) : Record :=
  { members := [("filePath", .string path)] }

/-- A prefix that begins a path and is met again only in part is taken off once. -/
theorem introspect_file_of_source :
    ((declaredIn "/src/net/srv/fetch.swift").introspect { pathPrefix := some "/src" } "/"
        none).map (·.file) = .ok "/net/srv/fetch.swift"
      ∧ "/src" ++ "/net/srv/fetch.swift" = "/src/net/srv/fetch.swift" := by
  obtain ⟨file, hnone, -, honce, hback, -⟩ := introspect_file { pathPrefix := some "/src" } "/"
    (declaredIn "/src/net/srv/fetch.swift") rfl (rfl : _ = "/src")
  have honly : ¬ Recurs "/src" "/src/net/srv/fetch.swift" := by decide +kernel
  have hleft : withoutPrefix "/src" "/src/net/srv/fetch.swift" = "/net/srv/fetch.swift" := by
    decide +kernel
  have hfile : file = "/net/srv/fetch.swift" := (honce.mpr honly).trans hleft
  refine ⟨?_, hfile ▸ (hback (by decide +kernel)).mpr honly⟩
  rw [hnone, hfile]
  rfl

/-- A prefix that recurs is lost further down as well, and so is one that stands in the
middle of a path only. -/
theorem introspect_file_recurring :
    ((declaredIn "/a/b/a/c").introspect { pathPrefix := some "/a" } "/" none).map (·.file)
        = .ok "/b/c"
      ∧ withoutPrefix "/a" "/a/b/a/c" = "/b/a/c"
      ∧ ((declaredIn "/x/a/y").introspect {} "/a" none).map (·.file) = .ok "/x/y"
      ∧ withoutPrefix "/a" "/x/a/y" = "/x/a/y" := by
  decide +kernel

end SymbolDocs
