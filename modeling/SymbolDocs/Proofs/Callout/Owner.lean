/-
An entry counts for one callout at most.

The searches for the callouts know nothing of each other, and none marks an entry as
taken. What keeps callouts apart is the condition under which a callout ends. Say that
the owner of a place in the list is the last entry up to it that is no paragraph. An
owner with another key would have ended the callout, so a search that collects at a
place has the key of its owner (`foldl_isOwned`); and a place where the value of the
entry matters is one where the search collects, or begins to. Since an entry has one
key, a place counts for one callout.

The invariant needs that the key is not that of paragraphs, which are never owners. It
holds for callouts and would fail for the key of paragraphs.
-/
import Mathlib.Data.Finset.Card
import SymbolDocs.Proofs.Callout.Order

set_option autoImplicit false

namespace SymbolDocs

open Discussion

/-! ## Entries with another value -/

/-- A value in which the first member has a new value and keeps its name. What is no
entry stays as it is. -/
def Json.withFirst (value new : Json) : Json :=
  match value with
  | .object ((name, _) :: rest) => .object ((name, new) :: rest)
  | other => other

/-- The key of an entry does not change with its value. -/
theorem leadsWith_withFirst (value new : Json) (name : String) :
    (value.withFirst new).leadsWith name = value.leadsWith name := by
  rcases value with _ | _ | _ | _ | _ | _ | (_ | ⟨⟨label, first⟩, rest⟩) <;> rfl

/-- Whether what is collected for a key depends on the value of the entry at a place:
some other value makes a difference. -/
def CountsFor (key : Key) (entries : List Json) (i : Nat) : Prop :=
  ∃ new, collect? key (entries.modify i (·.withFirst new)) ≠ collect? key entries

/-! ## Owners -/

/-- The owner of the next place, from that of the last one and the entry there. -/
def nextOwner (owner : Option Json) (value : Json) : Option Json :=
  if value.leadsWith "Para" then owner else some value

/-- The owner of the last place of a list. -/
def ownerOf (entries : List Json) : Option Json :=
  entries.foldl nextOwner none

/-- Whether an owner has the key of a callout. -/
def ownedBy (key : Key) (owner : Option Json) : Bool :=
  owner.any (Json.leadsWith key.name)

/-- A search that collects does so under an owner with its key. -/
def Search.IsOwned (key : Key) (owner : Option Json) : Search → Prop
  | .collecting _ => ownedBy key owner = true
  | _ => True

theorem nextOwner_of_paragraph {owner : Option Json} {value : Json}
    (h : value.leadsWith "Para" = true) : nextOwner owner value = owner := by
  rw [nextOwner, if_pos h]

theorem nextOwner_of_other {owner : Option Json} {value : Json}
    (h : value.leadsWith "Para" = false) : nextOwner owner value = some value := by
  rw [nextOwner, h, if_neg Bool.false_ne_true]

/-- An entry with the key of a callout is no paragraph. -/
theorem not_paragraph_of_leads {key : Key} {value : Json} (hkey : key ∈ Key.callouts)
    (h : value.leadsWith key.name = true) : value.leadsWith "Para" = false :=
  Bool.eq_false_iff.mpr fun hpara =>
    callout_name_ne_para hkey (leadsWith_unique h hpara)

/-- An entry with the key of a callout owns its own place. -/
theorem ownedBy_nextOwner_of_leads {key : Key} {owner : Option Json} {value : Json}
    (hkey : key ∈ Key.callouts) (h : value.leadsWith key.name = true) :
    ownedBy key (nextOwner owner value) = true := by
  rw [nextOwner_of_other (not_paragraph_of_leads hkey h), ownedBy, Option.any_some]
  exact h

/-- An owner has one key. -/
theorem key_unique_of_ownedBy {owner : Option Json} {key other : Key}
    (h : ownedBy key owner = true) (hother : ownedBy other owner = true) : key = other := by
  cases owner with
  | none => exact absurd h Bool.false_ne_true
  | some value => exact Key.name_injective (leadsWith_unique h hother)

/-! ## The invariant of the search -/

/-- One step of the search for a callout keeps owner and search together. -/
theorem step_isOwned {key : Key} (hkey : key ∈ Key.callouts) {search : Search}
    {owner : Option Json} (value : Json) (h : search.IsOwned key owner) :
    (search.step key value).IsOwned key (nextOwner owner value) := by
  cases search with
  | searching =>
    cases hleads : value.leadsWith key.name with
    | false =>
      rw [step_searching_of_not_leads hleads]
      trivial
    | true =>
      rw [step_searching_of_leads hleads]
      exact ownedBy_nextOwner_of_leads hkey hleads
  | collecting text =>
    cases hpara : value.leadsWith "Para" with
    | true =>
      rw [step_collecting_of_paragraph hpara, nextOwner_of_paragraph hpara]
      exact h
    | false =>
      cases hleads : value.leadsWith key.name with
      | true =>
        rw [step_collecting_of_leads hpara hleads]
        exact ownedBy_nextOwner_of_leads hkey hleads
      | false =>
        rw [step_collecting_of_other hpara hleads]
        trivial
  | done text => trivial

/-- A search that collects after some entries has the key of their owner. -/
theorem foldl_isOwned {key : Key} (hkey : key ∈ Key.callouts) (entries : List Json) :
    (entries.foldl (Search.step key) .searching).IsOwned key (ownerOf entries) := by
  rw [ownerOf]
  -- By induction on the entries, from any search and owner that go together.
  suffices h : ∀ (search : Search) (owner : Option Json), search.IsOwned key owner →
      (entries.foldl (Search.step key) search).IsOwned key (entries.foldl nextOwner owner) from
    h .searching none trivial
  induction entries with
  | nil => exact fun _ _ h => h
  | cons value rest ih =>
    intro search owner h
    rw [List.foldl_cons, List.foldl_cons]
    exact ih _ _ (step_isOwned hkey value h)

/-! ## Where a value matters -/

/-- A step under an owner with another key does not look at the value of the entry. -/
theorem step_withFirst_of_not_owned {key : Key} (hkey : key ∈ Key.callouts)
    {search : Search} {owner : Option Json} {value : Json} (new : Json)
    (hsearch : search.IsOwned key owner)
    (hother : ownedBy key (nextOwner owner value) = false) :
    search.step key (value.withFirst new) = search.step key value := by
  have hnot : value.leadsWith key.name = false :=
    Bool.eq_false_iff.mpr fun hleads =>
      Bool.eq_false_iff.mp hother (ownedBy_nextOwner_of_leads hkey hleads)
  have hnot' : (value.withFirst new).leadsWith key.name = false :=
    (leadsWith_withFirst value new key.name).trans hnot
  cases search with
  | searching => rw [step_searching_of_not_leads hnot, step_searching_of_not_leads hnot']
  | collecting text =>
    cases hpara : value.leadsWith "Para" with
    | true =>
      -- The owner of a paragraph is that of the place before, which the search has.
      rw [nextOwner_of_paragraph hpara] at hother
      exact absurd hsearch (Bool.eq_false_iff.mp hother)
    | false =>
      have hpara' : (value.withFirst new).leadsWith "Para" = false :=
        (leadsWith_withFirst value new "Para").trans hpara
      rw [step_collecting_of_other hpara hnot, step_collecting_of_other hpara' hnot']
  | done text => rfl

/-- What is collected for a callout does not depend on the value at a place whose owner
has another key. -/
theorem collect?_withFirst_of_not_owned {key : Key} (hkey : key ∈ Key.callouts)
    {before : List Json} {value : Json} (after : List Json) (new : Json)
    (h : ownedBy key (ownerOf (before ++ [value])) = false) :
    collect? key (before ++ value.withFirst new :: after)
      = collect? key (before ++ value :: after) := by
  have howner : ownerOf (before ++ [value]) = nextOwner (ownerOf before) value := by
    rw [ownerOf, List.foldl_append, List.foldl_cons, List.foldl_nil, ownerOf]
  rw [howner] at h
  rw [collect?_eq_unlessBlank, collect?_eq_unlessBlank, List.foldl_append, List.foldl_append,
    List.foldl_cons, List.foldl_cons,
    step_withFirst_of_not_owned hkey new (foldl_isOwned hkey before) h]

/-- A place counts for no callout but that of its owner. -/
theorem ownedBy_of_countsFor {key : Key} (hkey : key ∈ Key.callouts) {entries : List Json}
    {i : Nat} (h : CountsFor key entries i) :
    ownedBy key (ownerOf (entries.take (i + 1))) = true := by
  obtain ⟨new, hnew⟩ := h
  by_cases hi : i < entries.length
  · -- The place cuts the list into what comes before, its entry, and what comes after.
    have hsplit : entries = entries.take i ++ entries[i] :: entries.drop (i + 1) := by
      rw [← List.drop_eq_getElem_cons hi, List.take_append_drop]
    rw [List.modify_eq_take_cons_drop hi] at hnew
    rw [List.take_add_one, List.getElem?_eq_getElem hi, Option.toList_some]
    by_contra hnot
    apply hnew
    rw [collect?_withFirst_of_not_owned hkey _ new (Bool.eq_false_iff.mpr hnot), ← hsplit]
  · rw [List.modify_eq_self (Nat.le_of_not_lt hi)] at hnew
    exact absurd rfl hnew

/-! ## One callout at most -/

theorem callouts_nodup : Key.callouts.Nodup := by
  decide

/-- **Callouts do not bleed into each other.** Whatever is put in the place of the value
of an entry, what is collected changes for one callout at most; and no entry counts for
two callouts, even if different new values are tried for them. -/
theorem collect?_changes_at_most_once (entries : List Json) (i : Nat) :
    (∀ new, (Key.callouts.filter fun key =>
        collect? key (entries.modify i (·.withFirst new)) ≠ collect? key entries).length ≤ 1)
      ∧ ∀ key ∈ Key.callouts, ∀ other ∈ Key.callouts,
          CountsFor key entries i → CountsFor other entries i → key = other := by
  have hone : ∀ key ∈ Key.callouts, ∀ other ∈ Key.callouts,
      CountsFor key entries i → CountsFor other entries i → key = other := by
    intro key hkey other hother h h'
    exact key_unique_of_ownedBy (ownedBy_of_countsFor hkey h) (ownedBy_of_countsFor hother h')
  refine ⟨fun new => ?_, hone⟩
  rw [← List.toFinset_card_of_nodup (callouts_nodup.filter _), Finset.card_le_one]
  intro key hkey other hother
  obtain ⟨hkey, hchanges⟩ := List.mem_filter.mp (List.mem_toFinset.mp hkey)
  obtain ⟨hother, hchanges'⟩ := List.mem_filter.mp (List.mem_toFinset.mp hother)
  exact hone key hkey other hother ⟨new, of_decide_eq_true hchanges⟩
    ⟨new, of_decide_eq_true hchanges'⟩

/-- Callouts that take turns, one of them broken off by a value that is no entry. -/
def takingTurns : List Json :=
  [.object [("Note", .string "a")], .object [("Para", .string "b")],
   .object [("Warning", .string "c")], .object [("Para", .string "d")],
   .object [("Note", .string "e")], .null, .object [("Para", .string "f")]]

/-- The second paragraph counts for the warning, so it does not for the note. -/
theorem takingTurns_paragraph_of_warning :
    CountsFor .warning takingTurns 3 ∧ ¬ CountsFor .note takingTurns 3 := by
  have hwarning : CountsFor .warning takingTurns 3 :=
    ⟨.string "x", by decide +kernel⟩
  refine ⟨hwarning, fun hnote => ?_⟩
  have hsame : Key.note = Key.warning :=
    (collect?_changes_at_most_once takingTurns 3).2 .note (by decide) .warning (by decide)
      hnote hwarning
  exact absurd hsame (by decide)

end SymbolDocs
