/-
Reading what was printed.

The written form of an item in a tree of plain tags is read again into that item, or nearly
so (`reads_print`): a run of text without characters leaves no trace in what is written, so
it is not there when it is read (`Item.tidy`). Everything else comes back. Text and values
are written with the least escaping there is, which reading undoes; comments and
instructions are written as they were completed, so they are completed again; and an
element is written around its content, which is read before it.
-/
import SymbolDocs.Proofs.Markup.Unqualified

set_option autoImplicit false

namespace SymbolDocs.Markup

/-! ## Tags and text as they are printed -/

/-- A character that need not be hidden is no special one. -/
theorem spell_of_not_mem {specials : List Char} {c : Char} (h : c ∉ specials) :
    spell specials.contains c = [c] := by
  have hcontains : specials.contains c = false := by
    rw [← Bool.not_eq_true, List.contains_iff_mem]
    exact h
  rw [spell, hidden?, hcontains]
  rfl

/-- Printed text hides no more than it must. -/
theorem textChar_eq_spell (c : Char) : textChar c = spell Escaping.least.inText c := by
  by_cases h : c ∈ textSpecials
  · have hall : textSpecials.all (fun d => textChar d = spell Escaping.least.inText d) = true := by
      decide
    exact of_decide_eq_true (List.all_eq_true.mp hall c h)
  · have hplain : spell Escaping.least.inText c = [c] := spell_of_not_mem h
    simp only [textSpecials, List.mem_cons, List.not_mem_nil, or_false, not_or] at h
    obtain ⟨hamp, hless, hmore, hreturn⟩ := h
    rw [hplain, textChar, if_neg hamp, if_neg hless, if_neg hmore, if_neg hreturn]

/-- A character in a value is printed by the least escaping. -/
theorem valueChar_eq_spell (c : Char) : valueChar c = spell Escaping.least.inValues c := by
  by_cases h : c ∈ valueSpecials
  · have hall :
        valueSpecials.all (fun d => valueChar d = spell Escaping.least.inValues d) = true := by
      decide
    exact of_decide_eq_true (List.all_eq_true.mp hall c h)
  · have hplain : spell Escaping.least.inValues c = [c] := spell_of_not_mem h
    rw [valueSpecials, List.mem_append, not_or] at h
    obtain ⟨htext, hvalue⟩ := h
    have hchar : textChar c = [c] := by
      rw [textChar_eq_spell]
      exact spell_of_not_mem htext
    simp only [List.mem_cons, List.not_mem_nil, or_false, not_or] at hvalue
    obtain ⟨hquote, htab, hfeed⟩ := hvalue
    rw [hplain, valueChar, if_neg hquote, if_neg htab, if_neg hfeed, hchar]

/-- So is a text. -/
theorem printText_eq_text (cs : List Char) : printText cs = Escaping.least.text cs := by
  rw [printText, funext textChar_eq_spell]
  rfl

/-- And an attribute with a plain name. -/
theorem printAttribute_eq {a : Attribute} (h : a.IsPlain) :
    printAttribute a = printPair a.name.print (Escaping.least.value a.text) := by
  have hpart : (fun c => printPart (ValuePart.char c)) = spell Escaping.least.inValues :=
    funext valueChar_eq_spell
  rw [printAttribute, h.value, List.flatMap_map, hpart]
  rfl

/-- And a plain tag with all its attributes. -/
theorem printTag_eq_tag {tag : Tag} (h : tag.IsPlain) : printTag tag = Escaping.least.tag tag := by
  have hattributes : tag.attributes.flatMap printAttribute
      = tag.attributes.flatMap fun a =>
        printPair a.name.print (Escaping.least.value a.text) := by
    rw [List.flatMap_def, List.flatMap_def,
      List.map_congr_left fun a ha => printAttribute_eq (h.attributes a ha)]
  rw [printTag, h.declarations, hattributes, Escaping.tag, List.flatMap_nil, List.append_nil]

/-! ## Comments and instructions -/

theorem takes_comment (levels : Nat) (text : List Char) :
    Takes levels [.comment text] [.comment text] := by
  refine takes_of_take fun o f rest hframes ho => ⟨o.ledger, ho.quiet, ?_⟩
  rw [Outline.take, Outline.add, hframes]
  rfl

/-- A remark is no complaint. -/
theorem verdict_add_remark {notes : Notes} (h : notes.verdict = .ok ()) :
    (notes.add .remark).verdict = .ok () := by
  rw [Notes.add]
  split
  · exact h
  · rfl

/-- A target without colon is not complained of, though it may be remarked on. -/
theorem judge_of_not_mem {target : List Char} (h : ':' ∉ target) {ledger : Ledger}
    (hquiet : ledger.notes.verdict = .ok ()) :
    ∃ next : Ledger, next.notes.verdict = .ok ()
      ∧ (Target.judge target).run ledger = .ok ((), next) := by
  have hcolon : (!target.contains ':') = true := by
    rw [Bool.not_eq_true', ← Bool.not_eq_true, List.contains_iff_mem]
    exact h
  rw [Target.judge, hcolon, expect_true]
  split
  · exact ⟨{ ledger with notes := ledger.notes.add .remark }, verdict_add_remark hquiet, rfl⟩
  · exact ⟨ledger, hquiet, rfl⟩

theorem takes_instruction (levels : Nat) {target : List Char} (h : ':' ∉ target)
    (data : Option (List Char)) :
    Takes levels [.instruction target data] [.instruction target data] := by
  refine takes_of_take fun o f rest hframes ho => ?_
  obtain ⟨ledger, hquiet, hjudge⟩ := judge_of_not_mem h ho.quiet
  refine ⟨ledger, hquiet, ?_⟩
  have hafter : o.after (Target.judge target) = .ok ((), { o with ledger := ledger }) := by
    rw [Outline.after, hjudge]
    rfl
  rw [Outline.take, hafter]
  change Except.ok (Outline.add { o with ledger := ledger } _) = _
  rw [Outline.add, hframes]
  rfl

/-- Text that completes one token is read as the item of that token. -/
theorem reads_of_isCompletedFrom {levels : Nat} {text : List Char} {token : Token} {item : Item}
    (h : IsCompletedFrom text token) (htakes : Takes levels [token] [item]) :
    Reads levels text [item] :=
  ⟨h.allowed, _, fun brackets => ⟨0, h.leads brackets⟩, htakes⟩

/-! ## Items -/

mutual

/-- An item as it is read from its written form: runs of text without characters are
gone. -/
def Item.tidy : Item → Item
  | .text text => .text text
  | .entity name => .entity name
  | .comment text => .comment text
  | .instruction target data => .instruction target data
  | .element tag content => .element tag (settled (tidyItems content))

/-- Items as they are read, before texts that touch are joined. -/
def tidyItems : List Item → List Item
  | [] => []
  | item :: rest => item.tidy :: tidyItems rest

end

theorem tidyItems_eq_map (items : List Item) : tidyItems items = items.map Item.tidy := by
  induction items with
  | nil => rfl
  | cons item rest ih => rw [tidyItems, ih, List.map_cons]

theorem printItems_eq_flatMap (items : List Item) :
    printItems items = items.flatMap Item.print := by
  induction items with
  | nil => rfl
  | cons item rest ih => rw [printItems, ih, List.flatMap_cons]

/-- **What is printed is read again.** The elements of an item go as deep in its written
form as they go in the item. -/
theorem reads_print {levels : Nat} {item : Item} (h : item.IsSound .plain levels) :
    Reads levels item.print [item.tidy] := by
  induction h with
  | text hallowed =>
    rw [Item.print, printText_eq_text, Item.tidy]
    exact reads_mono (Nat.zero_le _) (reads_text Escaping.least hallowed)
  | comment hcompleted =>
    rw [Item.print, Item.tidy]
    exact reads_of_isCompletedFrom hcompleted (takes_comment _ _)
  | instruction hcompleted hfits =>
    rw [Item.print, Item.tidy]
    exact reads_of_isCompletedFrom hcompleted (takes_instruction _ hfits _)
  | @element levels tag content hplain _ _ ih =>
    rw [Item.print, Item.tidy, printTag_eq_tag hplain]
    cases hcontent : content with
    | nil =>
      have halone := reads_alone Escaping.least hplain
      exact reads_mono (Nat.le_add_left 1 levels) halone
    | cons item rest =>
      have hinner := reads_flatMap fun item hitem => ih item hitem
      rw [← printItems_eq_flatMap, ← tidyItems_eq_map] at hinner
      rw [← hcontent]
      have hsome : content.isEmpty = false := by
        rw [hcontent]
        rfl
      have henclosed := reads_enclosed Escaping.least hplain hinner
      rw [Escaping.enclosed] at henclosed
      rw [hsome]
      simpa using henclosed

/-! ## Content that is joined -/

/-- Joining a run to what follows does not change what is printed. -/
theorem printItems_joinText (run : List Char) (items : List Item) :
    printItems (joinText run items) = printText run ++ printItems items := by
  have htext (more : List Char) : printText (run ++ more) = printText run ++ printText more := by
    rw [printText, List.flatMap_append]
    rfl
  unfold joinText
  split
  · rw [printItems, printItems, Item.print, Item.print, htext, List.append_assoc]
  · split
    · rename_i hempty
      rw [List.isEmpty_iff.mp hempty]
      rfl
    · rfl

/-- Content that is joined is printed as it was before. -/
theorem printItems_settled (items : List Item) : printItems (settled items) = printItems items := by
  induction items with
  | nil => rfl
  | cons item rest ih =>
    cases hitem : item.run? with
    | none => rw [settled_of_no_run hitem, printItems, printItems, ih]
    | some run =>
      rw [Item.eq_text hitem, settled, printItems_joinText, ih]
      rfl

/-- Where no two texts touch, joining only leaves out what is empty. -/
theorem settled_cons_of_apart {run : List Char} {rest : List Item}
    (h : Apart (.text run :: rest)) :
    settled (.text run :: rest)
      = if run.isEmpty then settled rest else .text run :: settled rest := by
  rw [settled]
  cases rest with
  | nil => rfl
  | cons item more =>
    -- What follows a text is no text, so there is nothing that the text could join.
    have hitem : item.run? = none := by
      rcases (List.isChain_cons_cons.mp h).1 with hrun | hrun
      · exact absurd hrun (Option.some_ne_none run)
      · exact hrun
    rw [settled_of_no_run hitem, joinText_of_no_run hitem]

/-- Content is gone when it is joined only if it is an empty run of text. -/
theorem eq_of_settled_eq_nil {items : List Item} (h : Apart items) (hnil : settled items = []) :
    items = [] ∨ items = [.text []] := by
  cases items with
  | nil => exact .inl rfl
  | cons item rest =>
    cases hitem : item.run? with
    | none =>
      rw [settled_of_no_run hitem] at hnil
      exact absurd hnil (List.cons_ne_nil _ _)
    | some run =>
      obtain rfl := Item.eq_text hitem
      rw [settled_cons_of_apart h] at hnil
      split at hnil
      · rename_i hempty
        rw [List.isEmpty_iff.mp hempty]
        cases rest with
        | nil => exact .inr rfl
        | cons next more =>
          have hnext : next.run? = none := by
            rcases (List.isChain_cons_cons.mp h).1 with hrun | hrun
            · exact absurd hrun (Option.some_ne_none run)
            · exact hrun
          rw [settled_of_no_run hnext] at hnil
          exact absurd hnil (List.cons_ne_nil _ _)
      · exact absurd hnil (List.cons_ne_nil _ _)

theorem run?_tidy (item : Item) : item.tidy.run? = item.run? := by
  cases item with
  | element tag content =>
    rw [Item.tidy]
    rfl
  | _ => rw [Item.tidy]

/-- Items that are apart are so when they are tidied: a run of text stays one. -/
theorem apart_tidyItems {items : List Item} (h : Apart items) : Apart (tidyItems items) := by
  rw [tidyItems_eq_map, Apart, List.isChain_map]
  simp only [run?_tidy]
  exact h

end SymbolDocs.Markup
