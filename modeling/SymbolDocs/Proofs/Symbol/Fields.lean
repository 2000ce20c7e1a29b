/-
Fields of records, said without types.

Everything that is shown of a record is asked for through the typed fields. Here the
answer is said in terms of the members alone: a text field answers the text under its
name, if there is one, and the list field likewise. So what one member holds makes no
difference to the fields with other names (`string?_of_sameBut`), whether it is replaced
or left out.
-/
import SymbolDocs.Record

set_option autoImplicit false

namespace SymbolDocs

namespace Record

/-! ## Members -/

/-- The text that a record has under a name. -/
def text? (r : Record) (name : String) : Option String :=
  (r.members.lookup name).bind Json.asString?

/-- The list that a record has under a name. -/
def items? (r : Record) (name : String) : Option (List Json) :=
  (r.members.lookup name).bind Json.asArray?

/-- A record without what it has under a name. -/
def without (r : Record) (name : String) : Record :=
  { members := r.members.filter fun m => m.1 ≠ name }

/-- A record with another value under a name. -/
def withValue (r : Record) (name : String) (value : Json) : Record :=
  { members := Json.put name value r.members }

/-- A text field answers the text under its name. -/
theorem string?_eq_text? (r : Record) (field : Field) :
    r.string? field = r.text? field.key := by
  rw [string?, get?, text?]
  cases r.members.lookup field.key with
  | none => rfl
  | some value => cases value <;> rfl

/-- The list field answers the list under its name. -/
theorem list?_eq_items? (r : Record) (field : Field) :
    r.list? field = r.items? field.key := by
  rw [list?, get?, items?]
  cases r.members.lookup field.key with
  | none => rfl
  | some value => cases value <;> rfl

/-! ## Records that differ in one member -/

/-- Two records have the same under every name but one. -/
def SameBut (name : String) (r other : Record) : Prop :=
  ∀ label, label ≠ name → r.members.lookup label = other.members.lookup label

section SameBut

variable {name : String} {r other : Record}

/-- A text under another name is the same. -/
theorem text?_of_sameBut (h : SameBut name r other) {label : String} (hlabel : label ≠ name) :
    r.text? label = other.text? label := by
  rw [text?, text?, h label hlabel]

/-- A text field with another name answers the same. -/
theorem string?_of_sameBut (h : SameBut name r other) (field : Field)
    (hfield : field.key ≠ name) : r.string? field = other.string? field := by
  rw [string?_eq_text?, string?_eq_text?, text?_of_sameBut h hfield]

/-- A text field with another name answers the same where empty texts do not count. -/
theorem nonEmpty?_of_sameBut (h : SameBut name r other) (field : Field)
    (hfield : field.key ≠ name) : r.nonEmpty? field = other.nonEmpty? field := by
  rw [nonEmpty?, nonEmpty?, string?_of_sameBut h field hfield]

/-- A list field with another name answers the same. -/
theorem list?_of_sameBut (h : SameBut name r other) (field : Field)
    (hfield : field.key ≠ name) : r.list? field = other.list? field := by
  rw [list?_eq_items?, list?_eq_items?, items?, items?, h field.key hfield]

end SameBut

/-- Leaving a member out hides no member with another name. -/
theorem lookup_filter_of_ne {label name : String} (h : label ≠ name)
    (members : List (String × Json)) :
    (members.filter fun m => m.1 ≠ name).lookup label = members.lookup label := by
  induction members with
  | nil => rfl
  | cons member rest ih =>
    by_cases hname : member.1 = name
    · -- The member that goes is not the one that is looked for.
      have hne : (label == member.1) = false := by
        rw [hname]
        exact beq_false_of_ne h
      rw [List.filter_cons_of_neg (by simpa using hname), List.lookup_cons, hne, ih]
    · rw [List.filter_cons_of_pos (by simpa using hname), List.lookup_cons, List.lookup_cons, ih]

/-- Nothing is found under the name that was left out. -/
theorem lookup_filter_self (name : String) (members : List (String × Json)) :
    (members.filter fun m => m.1 ≠ name).lookup name = none := by
  rw [List.lookup_eq_none_iff]
  intro member hmember
  have hne : member.1 ≠ name := by simpa using (List.mem_filter.mp hmember).2
  exact bne_iff_ne.mpr hne.symm

/-- What was put under a name is found there, whether the name was new or not. -/
theorem lookup_put_self (name : String) (value : Json) (members : List (String × Json)) :
    (Json.put name value members).lookup name = some value := by
  induction members with
  | nil => rw [Json.put, List.lookup_cons, beq_self_eq_true]
  | cons member rest ih =>
    rw [Json.put]
    split
    · rename_i hname
      rw [hname, List.lookup_cons, beq_self_eq_true]
    · rename_i hname
      rw [List.lookup_cons, beq_false_of_ne (Ne.symm hname), ih]

/-- Leaving a member out changes that one only. -/
theorem sameBut_without (r : Record) (name : String) : SameBut name (r.without name) r :=
  fun _ hlabel => lookup_filter_of_ne hlabel r.members

/-- A record has no text under a name that was left out. -/
theorem text?_without (r : Record) (name : String) : (r.without name).text? name = none := by
  rw [text?, without, lookup_filter_self]
  rfl

/-- A record has the text that it was given under a name. -/
theorem text?_withValue (r : Record) (name text : String) :
    (r.withValue name (.string text)).text? name = some text := by
  rw [text?, withValue, lookup_put_self]
  rfl

end Record

end SymbolDocs
