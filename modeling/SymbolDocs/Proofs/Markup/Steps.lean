/-
The steps that tokens make.

Where nothing is declared, there are seven things that a token can do to an outline. This
file says what they are (`Outline.Step`) and that they are what taking a token into account
is (`take_eq_ok_iff`). Whatever is shown of all tokens is shown along these steps, without
looking at how tokens are taken.
-/
import SymbolDocs.Proofs.Markup.Completing
import SymbolDocs.Proofs.Markup.Reading

set_option autoImplicit false

namespace SymbolDocs.Markup

/-- Two readings in a row succeed only if both do. -/
theorem exists_of_run_bind {α β : Type} {first : Reading α} {more : α → Reading β} {answer : β}
    {ledger next : Ledger} (h : (first >>= more).run ledger = .ok (answer, next)) :
    ∃ a middle, first.run ledger = .ok (a, middle)
      ∧ (more a).run middle = .ok (answer, next) := by
  obtain ⟨⟨a, middle⟩, hfirst, hmore⟩ := exists_of_bind h
  exact ⟨a, middle, hfirst, hmore⟩

/-! ## Taking tokens -/

/-- Whether a token is a document type. -/
def Token.isDoctype : Token → Bool
  | .doctype _ => true
  | _ => false

/-- The text of a token that is text. -/
def Token.text? : Token → Option (List Char)
  | .char c => some [c]
  | .reference c => some [c]
  | .cdata text => some text
  | _ => none

namespace Outline

/-- A tag opens an element: there is room for one more inside the others, or none was
opened before, and the tag can be resolved. -/
structure Opens (room : Nat) (o : Outline) (written : WrittenTag) (tag : Tag)
    (ledger : Ledger) : Prop where
  single : o.frames = [] → o.root = none
  shallow : o.depth + o.frames.length < depthLimit
  resolved : (written.resolve
      { declarations := o.declarations, room := room, inEntity := o.depth ≠ 0 }
      o.scope).run o.ledger = .ok (tag, ledger)

/-- What tokens do to an outline, those aside that have to do with declarations. -/
inductive Step (room : Nat) (o : Outline) : Token → Outline → Prop where
  | skip {c : Char} (outside : o.frames = []) (space : isSpace c = true) :
    Step room o (.char c) o
  | write {token : Token} {text : List Char} {f : Frame} {rest : List Frame}
    (is_text : token.text? = some text) (inside : o.frames = f :: rest) :
    Step room o token { o with frames := f.write text :: rest }
  | comment (text : List Char) : Step room o (.comment text) (o.add (.comment text))
  | instruction {target : List Char} (data : Option (List Char)) {ledger : Ledger}
    (judged : (Target.judge target).run o.ledger = .ok ((), ledger)) :
    Step room o (.instruction target data)
      (Outline.add { o with ledger := ledger } (.instruction target data))
  | startTag {written : WrittenTag} {tag : Tag} {ledger : Ledger}
    (opens : Opens room o written tag ledger) :
    Step room o (.startTag written)
      { o with ledger := ledger, frames := Frame.opened tag o.scope :: o.frames }
  | emptyTag {written : WrittenTag} {tag : Tag} {ledger : Ledger}
    (opens : Opens room o written tag ledger) :
    Step room o (.emptyTag written)
      (Outline.place { o with ledger := ledger } o.frames { tag := tag, content := [] })
  | endTag {f : Frame} {rest : List Frame} (inside : o.frames = f :: rest) :
    Step room o (.endTag f.tag.name) (o.place rest f.element)

section Operations

variable {o next : Outline}

/-- A reading only changes the ledger. -/
theorem after_eq_ok_iff {α : Type} {reading : Reading α} {answer : α} :
    o.after reading = .ok (answer, next) ↔
      ∃ ledger, reading.run o.ledger = .ok (answer, ledger)
        ∧ next = { o with ledger := ledger } := by
  constructor
  · intro h
    obtain ⟨⟨given, ledger⟩, hrun, heq⟩ := exists_of_bind h
    obtain ⟨rfl, rfl⟩ := Prod.mk.inj (Except.ok.inj heq)
    exact ⟨ledger, hrun, rfl⟩
  · rintro ⟨ledger, hrun, rfl⟩
    rw [after, hrun]
    rfl

theorem write_eq_ok_iff {text : List Char} :
    o.write text = .ok next ↔
      ∃ f rest, o.frames = f :: rest ∧ next = { o with frames := f.write text :: rest } := by
  rw [write]
  cases o.frames with
  | nil => simp
  | cons f rest =>
    constructor
    · intro h
      exact ⟨f, rest, rfl, (Except.ok.inj h).symm⟩
    · rintro ⟨g, below, heq, rfl⟩
      obtain ⟨rfl, rfl⟩ := List.cons.inj heq
      rfl

/-- Where an element is placed depends on the frames that are given, not on those of the
outline. -/
theorem place_of_frames (o : Outline) (frames rest : List Frame) (e : Element) :
    Outline.place { o with frames := frames } rest e = o.place rest e := by
  cases rest with
  | nil => rfl
  | cons f below => rfl

theorem openTag_eq_ok_iff {room : Nat} {written : WrittenTag} :
    o.openTag room written = .ok next ↔
      ∃ tag ledger, o.Opens room written tag ledger
        ∧ next = { o with ledger := ledger, frames := Frame.opened tag o.scope :: o.frames } := by
  rw [openTag]
  constructor
  · intro h
    split at h
    · cases h
    rename_i hsingle
    split at h
    · cases h
    rename_i hdepth
    obtain ⟨⟨tag, judged⟩, hafter, heq⟩ := exists_of_bind h
    obtain ⟨ledger, hrun, rfl⟩ := after_eq_ok_iff.mp hafter
    refine ⟨tag, ledger, ⟨?_, Nat.not_le.mp hdepth, hrun⟩, (Except.ok.inj heq).symm⟩
    intro hframes
    rw [hframes] at hsingle
    simpa using hsingle
  · rintro ⟨tag, ledger, ⟨hsingle, hdepth, hrun⟩, rfl⟩
    have hroot : ¬ (o.frames.isEmpty && o.root.isSome) = true := by
      intro hboth
      rw [Bool.and_eq_true, List.isEmpty_iff] at hboth
      rw [hsingle hboth.1] at hboth
      exact Bool.false_ne_true hboth.2
    rw [if_neg hroot, if_neg (Nat.not_le.mpr hdepth)]
    dsimp only
    rw [after_eq_ok_iff.mpr ⟨ledger, hrun, rfl⟩]
    rfl

end Operations

section Steps

variable {o next : Outline} (hundeclared : ∃ standalone, o.declarations = .empty standalone)
include hundeclared

/-- Where nothing is declared, no entity can be referred to. -/
theorem refer_undeclared (enter : Outline → List Char → List Char → Except Fault Outline)
    (name : List Char) : o.refer enter name ≠ .ok next := by
  obtain ⟨standalone, hdeclared⟩ := hundeclared
  have hunknown : o.declarations.entities.lookup name = none := by
    rw [hdeclared]
    rfl
  have hmeet : o.after o.declarations.meetUnknown = .error .undeclaredEntity := by
    rw [hdeclared]
    rfl
  rw [refer]
  split
  · exact nofun
  · simp only [hunknown, hmeet]
    exact nofun

/-- **Taking a token into account is making a step.** -/
theorem take_eq_ok_iff {room : Nat}
    {enter : Outline → List Char → List Char → Except Fault Outline} {token : Token}
    (h : token.isDoctype = false) :
    take room enter o token = .ok next ↔ Step room o token next := by
  have hwrite {text : List Char} (htext : token.text? = some text)
      (hnext : o.write text = .ok next) : Step room o token next := by
    obtain ⟨f, rest, hframes, rfl⟩ := write_eq_ok_iff.mp hnext
    exact .write htext hframes
  constructor
  · intro hnext
    cases token with
    | char c =>
      rw [take] at hnext
      split at hnext
      · rename_i hskip
        rw [Bool.and_eq_true, List.isEmpty_iff] at hskip
        obtain rfl := Except.ok.inj hnext
        exact .skip hskip.1 hskip.2
      · exact hwrite rfl hnext
    | reference c => exact hwrite rfl hnext
    | cdata text => exact hwrite rfl hnext
    | entity name => exact absurd hnext (refer_undeclared hundeclared enter name)
    | comment text =>
      obtain rfl := Except.ok.inj hnext
      exact .comment text
    | instruction target data =>
      obtain ⟨⟨_, judged⟩, hafter, heq⟩ := exists_of_bind hnext
      obtain ⟨ledger, hrun, rfl⟩ := after_eq_ok_iff.mp hafter
      obtain rfl := Except.ok.inj heq
      exact .instruction data hrun
    | startTag written =>
      obtain ⟨tag, ledger, hopens, rfl⟩ := openTag_eq_ok_iff.mp hnext
      exact .startTag hopens
    | emptyTag written =>
      obtain ⟨opened, hopen, hclose⟩ := exists_of_bind hnext
      obtain ⟨tag, ledger, hopens, rfl⟩ := openTag_eq_ok_iff.mp hopen
      obtain rfl := Except.ok.inj hclose
      exact place_of_frames { o with ledger := ledger } _ o.frames _ ▸ .emptyTag hopens
    | endTag name =>
      rw [take] at hnext
      split at hnext
      · cases hnext
      rename_i f rest hframes
      split at hnext
      · rename_i hname
        rw [close, hframes] at hnext
        obtain rfl := Except.ok.inj hnext
        rw [← hname]
        exact .endTag hframes
      · cases hnext
    | doctype text => cases h
  · intro hstep
    cases hstep with
    | skip houtside hspace =>
      rw [take, houtside, hspace]
      rfl
    | @write _ text f rest htext hinside =>
      have hnext : o.write text = .ok { o with frames := f.write text :: rest } :=
        write_eq_ok_iff.mpr ⟨f, rest, hinside, rfl⟩
      cases token with
      | char c =>
        rw [take, hinside]
        exact Option.some.inj htext ▸ hnext
      | reference c => exact Option.some.inj htext ▸ hnext
      | cdata text => exact Option.some.inj htext ▸ hnext
      | _ => cases htext
    | comment text => rfl
    | instruction data hjudged =>
      rw [take, after_eq_ok_iff.mpr ⟨_, hjudged, rfl⟩]
      rfl
    | startTag hopens => exact openTag_eq_ok_iff.mpr ⟨_, _, hopens, rfl⟩
    | @emptyTag written tag ledger hopens =>
      rw [take, openTag_eq_ok_iff.mpr ⟨tag, ledger, hopens, rfl⟩]
      exact congrArg Except.ok (place_of_frames { o with ledger := ledger }
        (Frame.opened tag o.scope :: o.frames) o.frames { tag := tag, content := [] })
    | endTag hinside =>
      rw [take, hinside]
      dsimp only
      rw [if_pos rfl, close, hinside]

/-- No step declares anything. -/
theorem undeclared_of_step {room : Nat} {token : Token} (h : Step room o token next) :
    ∃ standalone, next.declarations = .empty standalone := by
  have hplace (o : Outline) (rest : List Frame) (e : Element) :
      (o.place rest e).declarations = o.declarations := by
    cases rest with
    | nil => rfl
    | cons f below => rfl
  have hadd (o : Outline) (item : Item) : (o.add item).declarations = o.declarations := by
    rw [add]
    split
    · rfl
    · rfl
  cases h with
  | skip houtside hspace => exact hundeclared
  | write htext hinside => exact hundeclared
  | comment text => rwa [hadd]
  | instruction data hjudged => rwa [hadd]
  | startTag hopens => exact hundeclared
  | emptyTag hopens => rwa [hplace]
  | endTag hinside => rwa [hplace]

/-- Tokens are taken into account step by step. -/
theorem takeAll_cons_eq_ok_iff {token : Token} (h : token.isDoctype = false)
    {rest : List Token} :
    o.takeAll (token :: rest) = .ok next ↔
      ∃ middle, Step entityLevels o token middle ∧ middle.takeAll rest = .ok next := by
  rw [takeAll_cons]
  constructor
  · intro hnext
    obtain ⟨middle, htake, hrest⟩ := exists_of_bind hnext
    exact ⟨middle, (take_eq_ok_iff hundeclared h).mp htake, hrest⟩
  · rintro ⟨middle, hstep, hrest⟩
    rw [(take_eq_ok_iff hundeclared h).mpr hstep]
    exact hrest

theorem undeclared_of_takeAll {ts : List Token} (huntyped : ∀ t ∈ ts, t.isDoctype = false)
    (h : o.takeAll ts = .ok next) : ∃ standalone, next.declarations = .empty standalone := by
  induction ts generalizing o with
  | nil =>
    obtain rfl := Except.ok.inj h
    exact hundeclared
  | cons t rest ih =>
    obtain ⟨middle, hstep, hmore⟩ :=
      (takeAll_cons_eq_ok_iff hundeclared (huntyped t List.mem_cons_self)).mp h
    exact ih (undeclared_of_step hundeclared hstep)
      (fun u hu => huntyped u (List.mem_cons_of_mem t hu)) hmore

end Steps

end Outline

end SymbolDocs.Markup
