/-
Places between the tokens of a document.

A gap is a place in the text of a document at which no token is begun. What is put there
leaves the tokens on both sides as they are: a comment or an instruction in a gap is one
token more (`tokens_insert`). Only two closing brackets before a closing angle bracket are
another matter when something stands between them, but then there was no document before.

Where among the elements a gap is can be told from the tokens that were passed, without
regard to what they are resolved to: `positionAfter` goes by start tags and end tags alone.
It tells rightly what the reader has open there (`takeAll_isAt`).
-/
import SymbolDocs.Proofs.Markup.Ledgers
import SymbolDocs.Proofs.Markup.Trees
import SymbolDocs.Text.Blank

set_option autoImplicit false

namespace SymbolDocs.Markup

/-! ## Scanning on from another place -/

/-- Where the scanner may be so that all that is read from the one mode is read from the
other: in character data, with fewer closing brackets counted. -/
def Mode.Eases (mode easier : Mode) : Prop :=
  easier = mode
    ∨ ∃ brackets fewer, mode = .content brackets ∧ easier = .content fewer
      ∧ fewer < 2 ∧ fewer ≤ brackets

theorem eases_refl (mode : Mode) : mode.Eases mode :=
  .inl rfl

theorem step_eases {mode easier next : Mode} {c : Char} {token : Option Token}
    (h : mode.Eases easier) (hstep : step mode c = .ok (next, token)) :
    ∃ next', step easier c = .ok (next', token) ∧ next.Eases next' := by
  obtain rfl | ⟨brackets, fewer, rfl, rfl, htwo, hle⟩ := h
  · exact ⟨next, hstep, eases_refl next⟩
  rw [step, stepContent] at hstep ⊢
  split at hstep
  · rename_i hangle
    rw [if_pos hangle]
    exact ⟨next, hstep, eases_refl next⟩
  rename_i hangle
  rw [if_neg hangle]
  split at hstep
  · rename_i hand
    rw [if_pos hand]
    exact ⟨next, hstep, eases_refl next⟩
  rename_i hand
  rw [if_neg hand]
  split at hstep
  · cases hstep
  have hend : ¬ (c = '>' && fewer = 2) = true := by
    rw [Bool.and_eq_true, decide_eq_true_eq, decide_eq_true_eq]
    omega
  rw [if_neg hend]
  obtain ⟨rfl, rfl⟩ := Prod.mk.inj (Except.ok.inj hstep)
  refine ⟨_, rfl, ?_⟩
  split
  · -- After one more bracket the counts are the same, or the lower one is still one.
    by_cases hsame : min (fewer + 1) 2 = min (brackets + 1) 2
    · exact .inl (congrArg Mode.content hsame)
    · exact .inr ⟨_, _, rfl, rfl, by omega, by omega⟩
  · exact eases_refl _

theorem keepsLineEnds_of_eases {mode easier : Mode} (h : mode.Eases easier) :
    easier.keepsLineEnds = mode.keepsLineEnds := by
  obtain rfl | ⟨brackets, fewer, rfl, rfl, -⟩ := h
  · rfl
  · rfl

theorem advance_eases {mode easier : Mode} {returned : Bool} {c : Char} {next : Place}
    {token : Option Token} (h : mode.Eases easier)
    (hadvance : Place.advance ⟨mode, returned⟩ c = .ok (next, token)) :
    ∃ next', Place.advance ⟨easier, returned⟩ c = .ok (next', token)
      ∧ next'.returned = next.returned ∧ next.mode.Eases next'.mode := by
  have hstep {d : Char} {after : Bool}
      (heq : (step mode d >>= fun p =>
        Except.ok ({ mode := p.1, returned := after }, p.2)) = .ok (next, token)) :
      ∃ next', (step easier d >>= fun p =>
          Except.ok (({ mode := p.1, returned := after } : Place), p.2)) = .ok (next', token)
        ∧ next'.returned = next.returned ∧ next.mode.Eases next'.mode := by
    obtain ⟨⟨middle, completed⟩, hmiddle, hend⟩ := exists_of_bind heq
    obtain ⟨rfl, rfl⟩ := Prod.mk.inj (Except.ok.inj hend)
    obtain ⟨middle', hmiddle', heases⟩ := step_eases h hmiddle
    rw [hmiddle']
    exact ⟨_, rfl, rfl, heases⟩
  rw [Place.advance] at hadvance ⊢
  dsimp only at hadvance ⊢
  rw [keepsLineEnds_of_eases h]
  split at hadvance
  · rename_i hkeeps
    rw [if_pos hkeeps]
    exact hstep hadvance
  rename_i hkeeps
  rw [if_neg hkeeps]
  split at hadvance
  · rename_i hreturn
    rw [if_pos hreturn]
    exact hstep hadvance
  rename_i hreturn
  rw [if_neg hreturn]
  split at hadvance
  · rename_i hfeed
    obtain ⟨rfl, rfl⟩ := Prod.mk.inj (Except.ok.inj hadvance)
    rw [if_pos hfeed]
    exact ⟨_, rfl, rfl, h⟩
  · rename_i hfeed
    rw [if_neg hfeed]
    exact hstep hadvance

/-- What is scanned from a mode is scanned from an easier one, to the same tokens. -/
theorem scan_eases {mode easier : Mode} {returned : Bool} {text : List Char} {last : Place}
    {ts : List Token} (h : mode.Eases easier)
    (hscan : scan ⟨mode, returned⟩ text = .ok (last, ts)) :
    ∃ last', scan ⟨easier, returned⟩ text = .ok (last', ts) ∧ last.mode.Eases last'.mode := by
  induction text generalizing mode easier returned ts with
  | nil =>
    obtain ⟨rfl, rfl⟩ := Prod.mk.inj (Except.ok.inj hscan)
    exact ⟨_, rfl, h⟩
  | cons c rest ih =>
    obtain ⟨⟨next, token⟩, hadvance, hmore⟩ := exists_of_bind hscan
    obtain ⟨⟨end', more⟩, hrest, heq⟩ := exists_of_bind hmore
    obtain ⟨rfl, rfl⟩ := Prod.mk.inj (Except.ok.inj heq)
    obtain ⟨next', hadvance', hreturned, heases⟩ := advance_eases h hadvance
    obtain ⟨last', hrest', hlast⟩ := ih heases hrest
    refine ⟨last', ?_, hlast⟩
    rw [scan, hadvance', show next' = ⟨next'.mode, next.returned⟩ from hreturned ▸ rfl]
    simp only [bind, Except.bind]
    rw [hrest']
    rfl

/-- It is of no consequence that a line end might be pending, unless a line feed follows. -/
theorem scan_of_head {mode : Mode} {c : Char} {rest : List Char} (hc : c ≠ '\n')
    (returned : Bool) : scan ⟨mode, returned⟩ (c :: rest) = scan ⟨mode, false⟩ (c :: rest) := by
  have hadvance : Place.advance ⟨mode, returned⟩ c = Place.advance ⟨mode, false⟩ c := by
    simp [Place.advance, hc]
  rw [scan, scan, hadvance]

/-- A line end is only pending after a carriage return. -/
theorem eq_of_returned {place next : Place} {c : Char} {token : Option Token}
    (h : place.advance c = .ok (next, token)) (hreturned : next.returned = true) : c = '\r' := by
  have hstep {d : Char} (heq : (step place.mode d >>= fun p =>
      Except.ok (({ mode := p.1, returned := false } : Place), p.2)) = .ok (next, token)) :
      c = '\r' := by
    obtain ⟨middle, -, hend⟩ := exists_of_bind heq
    obtain ⟨rfl, -⟩ := Prod.mk.inj (Except.ok.inj hend)
    exact absurd hreturned Bool.false_ne_true
  rw [Place.advance] at h
  split at h
  · exact hstep h
  split at h
  · assumption
  split at h
  · obtain ⟨rfl, -⟩ := Prod.mk.inj (Except.ok.inj h)
    exact absurd hreturned Bool.false_ne_true
  · exact hstep h

theorem getLast?_of_returned {place last : Place} {text : List Char} {ts : List Token}
    (hplace : place.returned = false) (hscan : scan place text = .ok (last, ts))
    (hlast : last.returned = true) : text.getLast? = some '\r' := by
  cases hsplit : text.reverse with
  | nil =>
    obtain rfl := List.reverse_eq_nil_iff.mp hsplit
    obtain ⟨rfl, -⟩ := Prod.mk.inj (Except.ok.inj hscan)
    exact absurd (hplace.symm.trans hlast) Bool.false_ne_true
  | cons c rest =>
    -- Only the last character counts.
    obtain rfl := List.reverse_eq_iff.mp hsplit
    rw [List.reverse_cons, scan_append] at hscan
    obtain ⟨⟨middle, first⟩, -, hmore⟩ := exists_of_bind hscan
    obtain ⟨⟨last', second⟩, hend, heq⟩ := exists_of_bind hmore
    obtain ⟨rfl, -⟩ := Prod.mk.inj (Except.ok.inj heq)
    obtain ⟨⟨next, token⟩, hadvance, hdone⟩ := exists_of_bind hend
    obtain ⟨rfl, -⟩ := Prod.mk.inj (Except.ok.inj hdone)
    rw [eq_of_returned hadvance hlast]
    simp

theorem tokens_eq_ok_iff {text : List Char} {ts : List Token} :
    tokens text = .ok ts ↔
      ∃ brackets returned, scan .start text = .ok (⟨.content brackets, returned⟩, ts) := by
  constructor
  · intro h
    obtain ⟨⟨⟨mode, returned⟩, completed⟩, hscan, hend⟩ := exists_of_bind h
    dsimp only at hend
    split at hend
    · rw [← Except.ok.inj hend]
      exact ⟨_, returned, hscan⟩
    · cases hend
  · rintro ⟨brackets, returned, hscan⟩
    rw [tokens, hscan]
    rfl

/-- A scan goes on from where the scan of a first part ended. -/
theorem scan_append_of_scan {place middle : Place} {first second : List Char} {ts : List Token}
    (h : scan place first = .ok (middle, ts)) :
    scan place (first ++ second) = (scan middle second).map fun a => (a.1, ts ++ a.2) := by
  rw [scan_append, h]
  change scan middle second >>= _ = _
  cases scan middle second with
  | error fault => rfl
  | ok answer => rfl

/-- What is scanned to its end from character data is scanned from a fresh start. -/
theorem exists_scan_of_content {brackets lastBrackets : Nat} {returned lastReturned : Bool}
    {text : List Char} {ts : List Token} (hpending : returned = true → text.head? ≠ some '\n')
    (h : scan ⟨.content brackets, returned⟩ text
      = .ok (⟨.content lastBrackets, lastReturned⟩, ts)) :
    ∃ brackets' returned', scan ⟨.content 0, false⟩ text
      = .ok (⟨.content brackets', returned'⟩, ts) := by
  cases text with
  | nil =>
    obtain ⟨-, rfl⟩ := Prod.mk.inj (Except.ok.inj h)
    exact ⟨0, false, rfl⟩
  | cons c rest =>
    have hscan : scan ⟨.content brackets, false⟩ (c :: rest)
        = .ok (⟨.content lastBrackets, lastReturned⟩, ts) := by
      cases returned with
      | false => exact h
      | true =>
        have hc : c ≠ '\n' := fun heq => hpending rfl (congrArg some heq)
        rwa [← scan_of_head hc true]
    have hzero : Mode.Eases (.content brackets) (.content 0) := by
      by_cases hnone : brackets = 0
      · exact .inl (congrArg Mode.content hnone.symm)
      · exact .inr ⟨brackets, 0, rfl, rfl, by omega, by omega⟩
    obtain ⟨⟨mode, returned'⟩, hlast, heases⟩ := scan_eases hzero hscan
    rcases heases with rfl | ⟨_, fewer, -, rfl, -⟩
    · exact ⟨lastBrackets, returned', hlast⟩
    · exact ⟨fewer, returned', hlast⟩

/-- A text that begins with a tag is scanned the same wherever character data stand. -/
theorem scan_of_begins {text : List Char} {ts : List Token} (hbegins : text.head? = some '<')
    (hscan : scan .start text = .ok (⟨.content 0, false⟩, ts)) (brackets : Nat)
    (returned : Bool) :
    scan ⟨.content brackets, returned⟩ text = .ok (⟨.content 0, false⟩, ts) := by
  cases text with
  | nil => cases hbegins
  | cons c rest =>
    obtain rfl := Option.some.inj hbegins
    rw [scan_of_head (by decide) returned]
    exact hscan

/-- Tokens that are written where others end are tokens between those before and those
after. -/
theorem tokens_around {before text : List Char} {ts span : List Token}
    (hbefore : tokens before = .ok ts) (hbegins : text.head? = some '<')
    (hscan : scan .start text = .ok (⟨.content 0, false⟩, span)) (after : List Char) :
    tokens (before ++ (text ++ after)) = (tokens after).map fun us => ts ++ (span ++ us) := by
  obtain ⟨brackets, returned, hfirst⟩ := tokens_eq_ok_iff.mp hbefore
  rw [tokens, scan_append_of_scan hfirst,
    scan_append_of_scan (scan_of_begins hbegins hscan brackets returned), tokens]
  change (((scan .start after).map _).map _ >>= _) = (scan .start after >>= _).map _
  cases scan .start after with
  | error fault => rfl
  | ok answer =>
    obtain ⟨⟨mode, later⟩, us⟩ := answer
    cases mode <;> rfl

/-- **What is put between two tokens is scanned as it would be by itself**, if it ends in
character data with no closing bracket counted and divides no line end. -/
theorem tokens_fill (scanned : List Token → Prop) {before text after : List Char}
    {ts us : List Token} (hbefore : tokens before = .ok ts)
    (hall : tokens (before ++ after) = .ok (ts ++ us))
    (hline : ¬ (before.getLast? = some '\r' ∧ after.head? = some '\n'))
    (htext : ∀ brackets returned, (returned = true → before.getLast? = some '\r') →
      ∃ later ws, scan ⟨.content brackets, returned⟩ text = .ok (⟨.content 0, later⟩, ws)
        ∧ scanned ws ∧ (later = true → after.head? ≠ some '\n')) :
    ∃ ws, scanned ws ∧ tokens (before ++ (text ++ after)) = .ok (ts ++ (ws ++ us)) := by
  obtain ⟨brackets, returned, hscan⟩ := tokens_eq_ok_iff.mp hbefore
  obtain ⟨lastBrackets, lastReturned, hboth⟩ := tokens_eq_ok_iff.mp hall
  rw [scan_append_of_scan hscan] at hboth
  have hafter : scan ⟨.content brackets, returned⟩ after
      = .ok (⟨.content lastBrackets, lastReturned⟩, us) := by
    cases hrest : scan ⟨.content brackets, returned⟩ after with
    | error fault =>
      rw [hrest] at hboth
      cases hboth
    | ok answer =>
      rw [hrest] at hboth
      obtain ⟨hplace, hcompleted⟩ := Prod.mk.inj (Except.ok.inj hboth)
      rw [← hplace, ← List.append_cancel_left hcompleted]
  have hreturned (h : returned = true) : before.getLast? = some '\r' := by
    subst h
    exact getLast?_of_returned rfl hscan rfl
  obtain ⟨later, ws, hmiddle, hscanned, hlater⟩ := htext brackets returned hreturned
  obtain ⟨brackets', returned', hrest⟩ :=
    exists_scan_of_content (fun h hfeed => hline ⟨hreturned h, hfeed⟩) hafter
  -- A line end that might be pending is of no consequence before what comes after.
  obtain ⟨returned'', hrest'⟩ : ∃ returned'',
      scan ⟨.content 0, later⟩ after = .ok (⟨.content brackets', returned''⟩, us) := by
    cases after with
    | nil =>
      obtain ⟨hplace, rfl⟩ := Prod.mk.inj (Except.ok.inj hrest)
      obtain ⟨hmode, -⟩ := Place.mk.inj hplace
      exact ⟨later, by rw [← hmode]; rfl⟩
    | cons c more =>
      cases later with
      | false => exact ⟨returned', hrest⟩
      | true =>
        have hc : c ≠ '\n' := fun heq => hlater rfl (congrArg some heq)
        exact ⟨returned', (scan_of_head hc true).trans hrest⟩
  refine ⟨ws, hscanned, tokens_eq_ok_iff.mpr ⟨brackets', returned'', ?_⟩⟩
  rw [scan_append_of_scan hscan, scan_append_of_scan hmiddle, hrest']
  rfl

/-! ## Putting a gloss into a text -/

/-- A comment or an instruction: what may be written into a document without being a part
of what the document says. -/
inductive Gloss where
  | comment (text : List Char)
  | instruction (target : List Char) (data : Option (List Char))
  deriving DecidableEq, Repr

namespace Gloss

def token : Gloss → Token
  | .comment text => .comment text
  | .instruction target data => .instruction target data

def item : Gloss → Item
  | .comment text => .comment text
  | .instruction target data => .instruction target data

/-- What is said in a gloss. -/
def body : Gloss → List Char
  | .comment text => text
  | .instruction _ data => data.getD []

/-- Whether a gloss is well formed where namespaces matter: targets have no colon. -/
def isProper : Gloss → Bool
  | .comment _ => true
  | .instruction target _ => !target.contains ':'

/-- Whether a gloss is remarked on: its target begins with the reserved word and is not among
those that are known. -/
def isRemarked : Gloss → Bool
  | .comment _ => false
  | .instruction target _ =>
    (target.take 3).map Char.toLower = Target.reserved && !Target.known.contains target

variable {gloss : Gloss} {text : List Char}

/-- The written form of a gloss does not begin with a line feed. -/
theorem exists_cons_of_isCompletedFrom (h : IsCompletedFrom text gloss.token) :
    ∃ c rest, text = c :: rest ∧ c ≠ '\n' := by
  have hleads := h.leads 0
  cases text with
  | nil =>
    obtain ⟨-, hempty⟩ := Prod.mk.inj (Except.ok.inj hleads)
    cases hempty
  | cons c rest =>
    refine ⟨c, rest, rfl, ?_⟩
    rintro rfl
    obtain ⟨⟨next, token⟩, hadvance, hmore⟩ := exists_of_bind hleads
    obtain ⟨⟨last, more⟩, -, heq⟩ := exists_of_bind hmore
    obtain ⟨-, rfl⟩ := Prod.mk.inj (Except.ok.inj hadvance)
    obtain ⟨-, hfirst⟩ := Prod.mk.inj (Except.ok.inj heq)
    cases gloss with
    | comment text => exact absurd (List.cons.inj hfirst).1 nofun
    | instruction target data => exact absurd (List.cons.inj hfirst).1 nofun

/-- **A gloss between two tokens is one token more.** -/
theorem tokens_insert {before after : List Char} {ts us : List Token}
    (h : IsCompletedFrom text gloss.token) (hbefore : tokens before = .ok ts)
    (hall : tokens (before ++ after) = .ok (ts ++ us))
    (hline : ¬ (before.getLast? = some '\r' ∧ after.head? = some '\n')) :
    tokens (before ++ (text ++ after)) = .ok (ts ++ gloss.token :: us) := by
  obtain ⟨c, rest, rfl, hc⟩ := exists_cons_of_isCompletedFrom h
  -- After the gloss no bracket is counted and no line end is pending.
  obtain ⟨ws, rfl, htokens⟩ := tokens_fill (· = [gloss.token]) hbefore hall hline
    fun brackets returned _ =>
      ⟨false, _, (scan_of_head hc returned).trans (h.leads brackets), rfl, nofun⟩
  exact htokens

end Gloss

/-! ## Before and after a gap -/

/-- Where one is after some tokens: the names of the open elements, the innermost first,
whether the innermost one holds nothing but text so far, and the text directly before. -/
structure Position where
  around : List QName
  bare : Bool
  text : List Char

namespace Position

def start : Position :=
  { around := [], bare := true, text := [] }

/-- Passes a token. -/
def pass (p : Position) (token : Token) : Position :=
  match token with
  | .char c => { p with text := p.text ++ [c] }
  | .reference c => { p with text := p.text ++ [c] }
  | .cdata text => { p with text := p.text ++ text }
  | .startTag tag => { around := tag.name :: p.around, bare := true, text := [] }
  | .endTag _ => { around := p.around.tail, bare := false, text := [] }
  | _ => { p with bare := false, text := [] }

theorem pass_of_text? (p : Position) {token : Token} {text : List Char}
    (h : token.text? = some text) : p.pass token = { p with text := p.text ++ text } := by
  cases token with
  | char c => exact Option.some.inj h ▸ rfl
  | reference c => exact Option.some.inj h ▸ rfl
  | cdata more => exact Option.some.inj h ▸ rfl
  | _ => cases h

end Position

/-- The position after some tokens. -/
def positionAfter (ts : List Token) : Position :=
  ts.foldl Position.pass .start

/-- What comes next: the text directly ahead, and whether an element is opened after it. -/
structure Prospect where
  text : List Char
  opens : Bool

/-- What is ahead before some tokens. -/
def prospectOf : List Token → Prospect
  | [] => { text := [], opens := false }
  | .char c :: rest => { prospectOf rest with text := c :: (prospectOf rest).text }
  | .reference c :: rest => { prospectOf rest with text := c :: (prospectOf rest).text }
  | .cdata text :: rest => { prospectOf rest with text := text ++ (prospectOf rest).text }
  | .startTag _ :: _ => { text := [], opens := true }
  | .emptyTag _ :: _ => { text := [], opens := true }
  | _ :: _ => { text := [], opens := false }

theorem prospectOf_of_text? {token : Token} {text : List Char} (h : token.text? = some text)
    (rest : List Token) :
    prospectOf (token :: rest)
      = { prospectOf rest with text := text ++ (prospectOf rest).text } := by
  cases token with
  | char c => exact Option.some.inj h ▸ rfl
  | reference c => exact Option.some.inj h ▸ rfl
  | cdata more => exact Option.some.inj h ▸ rfl
  | _ => cases h

/-- A place in a document: the text on both sides, and the tokens on both sides. The text
before it does not end inside a token, and no line end is divided by it. -/
structure Gap (markup : List Char) where
  standalone : Bool
  before : List Char
  after : List Char
  passed : List Token
  coming : List Token
  body_eq : bodyOf markup = .ok (standalone, before ++ after)
  tokens_before : tokens before = .ok passed
  tokens_all : tokens (before ++ after) = .ok (passed ++ coming)
  line_whole : ¬ (before.getLast? = some '\r' ∧ after.head? = some '\n')

namespace Gap

variable {markup : List Char} (gap : Gap markup)

def position : Position :=
  positionAfter gap.passed

def prospect : Prospect :=
  prospectOf gap.coming

/-- All the text around the place, up to the nearest markup on both sides. -/
def text : List Char :=
  gap.position.text ++ gap.prospect.text

/-- Another document is this one with a text put into the gap. -/
def Takes (text markup' : List Char) : Prop :=
  bodyOf markup' = .ok (gap.standalone, gap.before ++ (text ++ gap.after))

end Gap

/-! ## The content of an open element -/

/-- A run of text that may be missing. -/
def runItems (run : Option (List Char)) : List Item :=
  (run.map .text).toList

theorem closed_reverse_eq (f : Frame) :
    f.closed.reverse = f.items.reverse ++ runItems (f.run.map List.reverse) := by
  unfold Frame.closed
  cases f.run with
  | none => exact (List.append_nil _).symm
  | some run => exact List.reverse_cons

theorem getD_map_reverse (run : Option (List Char)) :
    (run.map List.reverse).getD [] = (run.getD []).reverse := by
  cases run with
  | none => rfl
  | some run => rfl

/-! ## What is open at a position -/

/-- What a position says of the innermost open element. -/
structure Frame.IsAt (f : Frame) (p : Position) : Prop where
  run : f.run.getD [] = p.text.reverse
  bare : f.items = [] ↔ p.bare = true
  last : ∀ item ∈ f.items.head?, item.run? = none

/-- An outline has open what a position tells. -/
structure Outline.IsAt (o : Outline) (p : Position) : Prop where
  around : o.frames.map (·.tag.name) = p.around
  innermost : ∀ f ∈ o.frames.head?, f.IsAt p

/-- A tag keeps its name when it is resolved. -/
theorem name_eq_of_resolve {setting : Setting} {outer : Scope} {written : WrittenTag}
    {ledger next : Ledger} {tag : Tag}
    (h : (written.resolve setting outer).run ledger = .ok (tag, next)) :
    tag.name = written.name := by
  -- The checks and the sorting of attributes come first; the tag is put together at the end.
  obtain ⟨_, _, -, h⟩ := exists_of_run_bind h
  obtain ⟨_, _, -, h⟩ := exists_of_run_bind h
  obtain ⟨_, _, -, h⟩ := exists_of_run_bind h
  obtain ⟨_, _, -, h⟩ := exists_of_run_bind h
  obtain ⟨_, _, -, h⟩ := exists_of_run_bind h
  obtain ⟨_, _, -, h⟩ := exists_of_run_bind h
  obtain ⟨_, _, -, h⟩ := exists_of_run_bind h
  obtain ⟨_, _, -, h⟩ := exists_of_run_bind h
  obtain ⟨rfl, -⟩ := Prod.mk.inj (Except.ok.inj h)
  rfl

/-- After something that is no text is added, there is no text and the element not bare. -/
theorem isAt_add (f : Frame) {item : Item} (h : item.run? = none) (around : List QName) :
    (f.add item).IsAt { around := around, bare := false, text := [] } := by
  refine ⟨rfl, ⟨nofun, nofun⟩, ?_⟩
  intro last hlast
  rwa [← Option.some.inj hlast]

namespace Outline

variable {o next : Outline} {p : Position}

theorem isAt_adding (h : o.IsAt p) {item : Item} (hitem : item.run? = none) :
    (o.add item).IsAt { p with bare := false, text := [] } := by
  have haround := h.around
  rw [add]
  cases hframes : o.frames with
  | nil =>
    refine ⟨haround, fun f hf => ?_⟩
    rw [hframes] at hf
    cases hf
  | cons f rest =>
    rw [hframes] at haround
    refine ⟨haround, fun g hg => ?_⟩
    rw [← Option.some.inj hg]
    exact isAt_add f hitem p.around

theorem isAt_place (o : Outline) (rest : List Frame) (e : Element) :
    (o.place rest e).IsAt
      { around := rest.map (·.tag.name), bare := false, text := [] } := by
  cases rest with
  | nil => exact ⟨rfl, nofun⟩
  | cons g below =>
    refine ⟨rfl, fun f hf => ?_⟩
    rw [← Option.some.inj hf]
    exact isAt_add g rfl _

/-- Every step of the reader is one of the position. -/
theorem step_isAt (h : o.IsAt p) {room : Nat} {token : Token}
    (hstep : Step room o token next) : next.IsAt (p.pass token) := by
  have haround := h.around
  cases hstep with
  | skip houtside hspace =>
    refine ⟨haround, fun f hf => ?_⟩
    rw [houtside] at hf
    cases hf
  | @write _ text f rest htext hinside =>
    rw [hinside] at haround
    obtain ⟨hrun, hbare, hlast⟩ := h.innermost f (by rw [hinside]; rfl)
    rw [p.pass_of_text? htext]
    refine ⟨haround, fun g hg => ?_⟩
    rw [← Option.some.inj hg]
    refine ⟨?_, hbare, hlast⟩
    change text.reverse ++ f.run.getD [] = (p.text ++ text).reverse
    rw [hrun, List.reverse_append]
  | comment text => exact isAt_adding h rfl
  | @instruction target data ledger hjudged =>
    have hbefore : Outline.IsAt { o with ledger := ledger } p := ⟨h.around, h.innermost⟩
    exact isAt_adding hbefore rfl
  | @startTag written tag ledger hopens =>
    refine ⟨?_, fun f hf => ?_⟩
    · change tag.name :: o.frames.map (·.tag.name) = written.name :: p.around
      rw [haround, name_eq_of_resolve hopens.resolved]
    · rw [← Option.some.inj hf]
      exact ⟨rfl, ⟨fun _ => rfl, fun _ => rfl⟩, nofun⟩
  | @emptyTag written tag ledger hopens =>
    have hplace := isAt_place { o with ledger := ledger } o.frames { tag := tag, content := [] }
    rw [haround] at hplace
    exact hplace
  | @endTag f rest hinside =>
    have hrest : p.around.tail = rest.map (·.tag.name) := by
      rw [← haround, hinside]
      rfl
    have hplace := isAt_place o rest f.element
    rw [← hrest] at hplace
    exact hplace

/-- **What the reader has open is what the tokens before tell.** -/
theorem takeAll_isAt {ts : List Token}
    (hundeclared : ∃ standalone, o.declarations = .empty standalone) (h : o.IsAt p)
    (huntyped : ∀ t ∈ ts, t.isDoctype = false) (hnext : o.takeAll ts = .ok next) :
    next.IsAt (ts.foldl Position.pass p) := by
  induction ts generalizing o p with
  | nil => rwa [← Except.ok.inj hnext]
  | cons t rest ih =>
    obtain ⟨middle, hstep, hmore⟩ :=
      (takeAll_cons_eq_ok_iff hundeclared (huntyped t List.mem_cons_self)).mp hnext
    exact ih (undeclared_of_step hundeclared hstep) (step_isAt h hstep)
      (fun u hu => huntyped u (List.mem_cons_of_mem _ hu)) hmore

theorem isAt_empty (standalone : Bool) (bytes : Nat) :
    (Outline.empty standalone bytes).IsAt .start :=
  ⟨rfl, nofun⟩

end Outline

end SymbolDocs.Markup
