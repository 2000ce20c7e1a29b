/-
Ledgers that reading does not tell apart.

Reading writes to its ledger, and it measures there how far references make a text grow,
for which it knows the number of bytes of the text. Where nothing is declared it looks at
neither the notes nor the growth: whatever a tag is resolved to, it is resolved to the same
from a ledger with other notes and for a text of another size (`blind_resolve`). This is what
lets two documents be compared of which one holds more than the other.

What the ledgers on both sides have in common must outlast whatever is written to both next
(`Ledger.Lasting`). Two ways in which notes are alike are of use here: being equal, and having
one remark more on one side.

A reading that is blind for such differences stays blind in whatever way it is put together
from blind readings; the proofs below follow the text of each definition.
-/
import SymbolDocs.Proofs.Markup.Steps

set_option autoImplicit false

namespace SymbolDocs.Markup

/-! ## Ledgers that are alike -/

/-- A relation of notes that lasts whatever is noted on both sides. -/
def Notes.Lasting (likeness : Notes → Notes → Prop) : Prop :=
  ∀ ⦃a b : Notes⦄, likeness a b → ∀ n, likeness (a.add n) (b.add n)

/-- Notes that are the same stay so. -/
theorem lasting_eq : Notes.Lasting Eq := by
  rintro a - rfl n
  rfl

/-- The same notes, but on the right there is one remark more. This is only of interest as
long as no remark had to be left out. -/
def Notes.OneRemarkLess (a b : Notes) : Prop :=
  a.remarks < Notes.limit →
    b.remarks = a.remarks + 1 ∧ b.complaints = a.complaints
      ∧ (b.last = a.last ∨ b.last = some .remark)

/-- Notes of which one has a remark more stay so. -/
theorem lasting_oneRemarkLess : Notes.Lasting Notes.OneRemarkLess := by
  intro a b h n hfew
  cases n with
  | remark =>
    rw [Notes.add] at hfew ⊢
    split at hfew
    · omega
    · rename_i hroom
      dsimp only at hfew ⊢
      obtain ⟨hremarks, hcomplaints, -⟩ := h (by omega)
      have hroom' : ¬ Notes.limit ≤ b.remarks := by omega
      rw [Notes.add, if_neg hroom, if_neg hroom']
      exact ⟨congrArg (· + 1) hremarks, hcomplaints, .inl rfl⟩
  | complaint fault =>
    have hsame : (a.add (.complaint fault)).remarks = a.remarks := by
      rw [Notes.add]
      split
      · rfl
      · rfl
    rw [hsame] at hfew
    obtain ⟨hremarks, hcomplaints, hlast⟩ := h hfew
    rw [Notes.add, Notes.add, hcomplaints]
    split
    · exact ⟨hremarks, hcomplaints, hlast⟩
    · exact ⟨hremarks, rfl, .inl rfl⟩

theorem oneRemarkLess_add (notes : Notes) : notes.OneRemarkLess (notes.add .remark) := by
  intro hfew
  rw [Notes.add, if_neg (Nat.not_le.mpr hfew)]
  exact ⟨rfl, rfl, .inr rfl⟩

/-- One remark more forgives, if anything. -/
theorem verdict_of_oneRemarkLess {a b : Notes} (h : a.OneRemarkLess b)
    (hfew : a.remarks < Notes.limit) (hverdict : a.verdict = .ok ()) : b.verdict = .ok () := by
  rcases (h hfew).2.2 with hlast | hlast
  · rwa [Notes.verdict, hlast]
  · rw [Notes.verdict, hlast]

/-- Two ledgers differ in the growth at most, and in the notes as a likeness allows. -/
structure Ledger.Alike (likeness : Notes → Notes → Prop) (a b : Ledger) : Prop where
  notes : likeness a.notes b.notes
  vetted : b.vetted = a.vetted
  sizes : b.sizes = a.sizes
  opened : b.opened = a.opened
  identifiers : b.identifiers = a.identifiers

/-! ## Relations that last -/

/-- A ledger in which something more is noted. -/
def Ledger.noted (ledger : Ledger) (n : Note) : Ledger :=
  { ledger with notes := ledger.notes.add n }

/-- A ledger after an element was given an identifier. -/
def Ledger.identified (ledger : Ledger) (identifier : List Char) : Ledger :=
  if identifier.isEmpty || ledger.identifiers.contains identifier then
    ledger.noted (.complaint .identifier)
  else { ledger with identifiers := identifier :: ledger.identifiers }

/-- A relation of ledgers that lasts whatever is written to both. -/
structure Ledger.Lasting (related : Ledger → Ledger → Prop) : Prop where
  noted : ∀ ⦃a b : Ledger⦄, related a b → ∀ n, related (a.noted n) (b.noted n)
  identified : ∀ ⦃a b : Ledger⦄, related a b → ∀ identifier,
    related (a.identified identifier) (b.identified identifier)

/-- The ledgers of two documents before anything is read differ only in the number of bytes. -/
theorem alike_before (bytes bytes' : Nat) :
    (Ledger.before bytes).Alike Eq (Ledger.before bytes') :=
  ⟨rfl, rfl, rfl, rfl, rfl⟩

/-- Ledgers are alike for as long as their notes are. -/
theorem lasting_alike {likeness : Notes → Notes → Prop} (h : Notes.Lasting likeness) :
    Ledger.Lasting (Ledger.Alike likeness) where
  noted _ _ halike n :=
    ⟨h halike.notes n, halike.vetted, halike.sizes, halike.opened, halike.identifiers⟩
  identified a b halike identifier := by
    rw [Ledger.identified, Ledger.identified, halike.identifiers]
    split
    · exact ⟨h halike.notes (.complaint .identifier), halike.vetted, halike.sizes,
        halike.opened, halike.identifiers⟩
    · exact ⟨halike.notes, halike.vetted, halike.sizes, halike.opened, rfl⟩

/-! ## Blind readings -/

/-- What a reading makes of a ledger it makes of all that are related to it. -/
def Reading.Blind {α : Type} (related : Ledger → Ledger → Prop) (reading : Reading α) : Prop :=
  ∀ ⦃a b next : Ledger⦄ ⦃answer : α⦄, related a b → reading.run a = .ok (answer, next) →
    ∃ next', reading.run b = .ok (answer, next') ∧ related next next'

section Readings

variable {related : Ledger → Ledger → Prop} {α β γ : Type}

/-- An answer that was there reads no ledger. -/
theorem blind_pure (a : α) : (pure a : Reading α).Blind related := by
  intro ledger other next answer h hrun
  obtain ⟨rfl, rfl⟩ := Prod.mk.inj (Except.ok.inj hrun)
  exact ⟨other, rfl, h⟩

theorem blind_throw (fault : Fault) : (throw fault : Reading α).Blind related :=
  fun _ _ _ _ _ hrun => absurd hrun nofun

/-- Two readings in a row are blind if both are, whatever the first answers. -/
theorem blind_bind {first : Reading α} {next : α → Reading β} (hfirst : first.Blind related)
    (hnext : ∀ a, (next a).Blind related) : (first >>= next).Blind related := by
  intro a b last answer h hrun
  obtain ⟨middle, ledger, hmiddle, hlast⟩ := exists_of_run_bind hrun
  obtain ⟨ledger', hmiddle', h'⟩ := hfirst h hmiddle
  obtain ⟨last', hlast', h''⟩ := hnext middle h' hlast
  refine ⟨last', ?_, h''⟩
  rw [StateT.run_bind, hmiddle']
  exact hlast'

/-- A step that has nothing to do with the ledger. -/
theorem blind_lift (result : Except Fault α) :
    (monadLift result : Reading α).Blind related := by
  cases result with
  | error fault => exact blind_throw fault
  | ok a => exact blind_pure a

theorem blind_ite {p : Prop} [Decidable p] {yes no : Reading α} (hyes : yes.Blind related)
    (hno : no.Blind related) : (if p then yes else no).Blind related := by
  split
  · exact hyes
  · exact hno

/-- A step that may be left out, and what follows in any case. -/
theorem blind_optional {p : Prop} [Decidable p] {step : Reading Unit} {next : Unit → Reading α}
    (hstep : step.Blind related) (hnext : ∀ u, (next u).Blind related) :
    (if p then step >>= next else next ()).Blind related :=
  blind_ite (blind_bind hstep hnext) (hnext ())

/-- What looks at the ledger and does the same whatever it sees. -/
theorem blind_get {next : Ledger → Reading β} (hsame : ∀ a b : Ledger, next b = next a)
    (hnext : ∀ ledger, (next ledger).Blind related) : (get >>= next).Blind related := by
  intro a b last answer h hrun
  obtain ⟨last', hlast', h'⟩ := hnext a h hrun
  refine ⟨last', ?_, h'⟩
  change (next b).run b = _
  rw [hsame a b]
  exact hlast'

/-- So are many in a row that hand on a value. -/
theorem blind_foldlM {step : β → γ → Reading β} (hstep : ∀ b c, (step b c).Blind related)
    (b : β) (cs : List γ) : (cs.foldlM step b).Blind related := by
  induction cs generalizing b with
  | nil => exact blind_pure b
  | cons c rest ih =>
    rw [List.foldlM_cons]
    exact blind_bind (hstep b c) fun b => ih b

/-- And many whose answers are gathered. -/
theorem blind_mapM {step : α → Reading β} (hstep : ∀ a, (step a).Blind related) (as : List α) :
    (as.mapM step).Blind related := by
  induction as with
  | nil => exact blind_pure []
  | cons a rest ih =>
    rw [List.mapM_cons]
    exact blind_bind (hstep a) fun b => blind_bind ih fun bs => blind_pure _

theorem blind_forM {step : α → Reading Unit} (hstep : ∀ a, (step a).Blind related)
    (as : List α) : (as.forM step).Blind related := by
  induction as with
  | nil => exact blind_pure ()
  | cons a rest ih => exact blind_bind (hstep a) fun _ => ih

section Notes

variable (hlasting : Ledger.Lasting related)
include hlasting

/-- To take a note is to add to the ledger, not to read it. -/
theorem blind_note (n : Note) : (Reading.note n).Blind related := by
  intro a b next answer h hrun
  obtain ⟨-, rfl⟩ := Prod.mk.inj (Except.ok.inj hrun)
  exact ⟨_, rfl, hlasting.noted h n⟩

theorem blind_expect (condition : Bool) (fault : Fault) :
    (Reading.expect condition fault).Blind related :=
  blind_ite (blind_pure ()) (blind_note hlasting _)

/-- An identifier is put into the ledger, and related ledgers stay related. -/
theorem blind_identify (identifier : List Char) :
    (Reading.identify identifier).Blind related := by
  intro a b next answer h
  have hrun (ledger : Ledger) : (Reading.identify identifier).run ledger
      = .ok ((), ledger.identified identifier) := by
    rw [Reading.identify, Ledger.identified]
    change (if _ then _ else _ : Reading Unit).run ledger = _
    split
    · rfl
    · rfl
  rw [hrun, hrun]
  intro heq
  obtain ⟨-, rfl⟩ := Prod.mk.inj (Except.ok.inj heq)
  exact ⟨_, rfl, hlasting.identified h identifier⟩

end Notes

end Readings

/-! ## Tags where nothing is declared -/

section Tags

variable {related : Ledger → Ledger → Prop} (hlasting : Ledger.Lasting related)
  {standalone : Bool}

/-- A reference to an entity ends the reading. -/
theorem blind_admitParts (room : Nat) (parts : List ValuePart) :
    (admitParts (.empty standalone) room parts).Blind related := by
  induction parts with
  | nil => exact blind_pure []
  | cons part rest ih =>
    cases part with
    | char c => exact blind_bind ih fun _ => blind_pure _
    | entity name =>
      have hvet : vet (.empty standalone) room name = throw .undeclaredEntity := by
        cases room with
        | zero => rfl
        | succ room => rfl
      rw [admitParts, hvet]
      exact blind_throw .undeclaredEntity

/-- The text of a value is the same however entities were opened, as there are none. -/
theorem valueText_empty (opened other : List (List Char × Opened)) (value : List ValuePart) :
    valueText (.empty standalone) opened value = valueText (.empty standalone) other value := by
  refine congrArg value.flatMap (funext fun part => ?_)
  cases part with
  | char c => rfl
  | entity name => rfl

/-- A value in which no entity is declared is joined without a look at the ledger. -/
theorem blind_joinParts (room : Nat) (parts : List ValuePart) :
    (joinParts (expand (.empty standalone) room) parts).Blind related := by
  induction parts with
  | nil => exact blind_pure []
  | cons part rest ih =>
    cases part with
    | char c => exact blind_bind ih fun _ => blind_pure _
    | entity name =>
      have hexpand : expand (.empty standalone) room name = throw .undeclaredEntity := by
        cases room with
        | zero => rfl
        | succ room => rfl
      rw [joinParts, hexpand]
      exact blind_throw .undeclaredEntity

include hlasting

theorem blind_judge (d : Declaration) : d.judge.Blind related := by
  rw [Declaration.judge]
  split
  · have hend (u : Unit) : (do
        Reading.expect (!(d.space = xmlSpace || d.space = declarationSpace))
          .namespaceDeclaration
        return !(d.space = xmlSpace || d.space = declarationSpace) : Reading Bool).Blind
          related :=
      blind_bind (blind_expect hlasting _ _) fun _ => blind_pure _
    exact blind_ite (blind_bind (blind_note hlasting _) hend)
      (blind_optional (blind_note hlasting _) hend)
  · refine blind_ite (blind_bind (blind_expect hlasting _ _) fun _ => blind_pure _) ?_
    exact blind_ite (blind_bind (blind_note hlasting _) fun _ => blind_pure _)
      (blind_bind (blind_expect hlasting _ _) fun _ => blind_pure _)

/-- An attribute is sorted without a look at the ledger. -/
theorem blind_take {setting : Setting} (hs : setting.declarations = .empty standalone)
    (element : QName) (sorted : Sorted) (a : WrittenAttribute) :
    (Sorted.take setting element sorted a).Blind related := by
  rw [Sorted.take, hs]
  refine blind_bind (blind_expect hlasting _ _) fun _ => ?_
  split
  · refine blind_bind (blind_joinParts _ _) fun _ => ?_
    refine blind_bind (blind_judge hlasting _) fun _ => ?_
    exact blind_ite (blind_bind (blind_lift _) fun _ => blind_pure _) (blind_pure _)
  · refine blind_bind (blind_admitParts _ _) fun _ => ?_
    exact blind_optional (blind_note hlasting _) fun _ => blind_pure _

theorem blind_attributeSpace (scope : Scope) (name : QName) :
    (attributeSpace scope name).Blind related := by
  rw [attributeSpace]
  split
  · exact blind_pure none
  · split
    · exact blind_pure _
    · exact blind_bind (blind_note hlasting _) fun _ => blind_pure none

theorem blind_checkRepeated (names : SpacedNames) : (checkRepeated names).Blind related := by
  rw [checkRepeated]
  refine blind_bind (blind_lift _) fun repeated => ?_
  refine blind_bind (blind_forM (fun _ => blind_note hlasting _) _) fun _ => ?_
  exact blind_ite (blind_throw _) (blind_pure ())

/-- An attribute is settled by what is written, and may put an identifier into the ledger. -/
theorem blind_settle {setting : Setting} (hs : setting.declarations = .empty standalone)
    (element name : QName) (space : Option (List Char)) (value : List ValuePart) :
    (settle setting element name space value).Blind related := by
  rw [settle, hs]
  refine blind_bind (blind_forM (fun _ => blind_pure ()) _) fun _ => ?_
  refine blind_get (fun a b => by rw [valueText_empty b.opened a.opened]) fun ledger => ?_
  have hend (u : Unit) : (pure (f := Reading) (
      { name := name, space := space, value := value
        text := valueText (.empty standalone) ledger.opened value } : Attribute)).Blind
          related :=
    blind_pure _
  refine blind_ite (blind_ite ?_ (blind_optional (blind_identify hlasting _) hend)) (hend ())
  exact blind_bind (blind_expect hlasting _ _) fun _ =>
    blind_bind (blind_identify hlasting _) hend

/-- **Resolving a tag is blind for all that lasts.** -/
theorem blind_resolve {setting : Setting} (hs : setting.declarations = .empty standalone)
    (outer : Scope) (tag : WrittenTag) : (tag.resolve setting outer).Blind related := by
  have hdefaults : setting.declarations.defaults tag.name = [] := by
    rw [hs]
    rfl
  rw [WrittenTag.resolve, hdefaults]
  refine blind_bind (blind_expect hlasting _ _) fun _ => ?_
  refine blind_bind (blind_foldlM (blind_take hlasting hs tag.name) _ _) fun sorted => ?_
  refine blind_bind (blind_pure _) fun declarations => ?_
  refine blind_bind (blind_mapM (fun a => blind_attributeSpace hlasting _ _) _) fun spaces => ?_
  refine blind_bind (blind_checkRepeated hlasting _) fun _ => ?_
  refine blind_bind (blind_pure ()) fun _ => ?_
  refine blind_bind (blind_expect hlasting _ _) fun _ => ?_
  exact blind_bind (blind_mapM (fun a => blind_settle hlasting hs _ _ _ _) _) fun _ =>
    blind_pure _

theorem blind_judge_target (target : List Char) : (Target.judge target).Blind related := by
  rw [Target.judge]
  exact blind_optional (blind_note hlasting _) fun _ => blind_expect hlasting _ _

end Tags

end SymbolDocs.Markup
