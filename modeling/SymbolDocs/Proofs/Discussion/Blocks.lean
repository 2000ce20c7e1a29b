/-
Blocks and their markup.

A block is a thing that a discussion is meant to hold: a paragraph, a link, an image, a
listing, a list of bullets or a callout. It is written as an element, with whatever
escaping, and stands for a fragment of running text. Both are given here by themselves,
without the reader and the rules that decide how a node is shown.

What this file shows is the first half of the way from one to the other: the markup of a
block is read into its item, whatever texts it is made of (`reads_markup`).
-/
import SymbolDocs.Proofs.Discussion.Key
import SymbolDocs.Proofs.Markup.Reading

set_option autoImplicit false

namespace SymbolDocs.Discussion

open Markup (Escaping Reads)

/-! ## Blocks -/

/-- A text that markup may hold. -/
structure Phrase where
  text : String
  allowed : text.toList.all Markup.isAllowed = true

/-- A simple name that an element may have. -/
structure TagName where
  name : String
  simple : Markup.isSimpleName name.toList = true

/-- A line of a listing, in an element of its own. -/
structure Line where
  tag : TagName
  phrase : Phrase

/-- A block of a discussion. -/
inductive Block where
  | paragraph (phrase : Phrase)
  | link (phrase target : Phrase)
  | image (source caption : Phrase)
  | listing (lines : List Line)
  | bullets (phrases : List Phrase)
  | callout (key : Key) (h : key ∈ Key.callouts) (phrase : Phrase)

/-- The texts that are not empty. -/
def written (phrases : List Phrase) : List String :=
  (phrases.map (·.text)).filter (· ≠ "")

/-- What a block stands for in running text, if for anything. -/
def Block.fragment? : Block → Option String
  | .paragraph phrase => if phrase.text = "" then none else some phrase.text
  | .link phrase target => some ("[" ++ phrase.text ++ "](" ++ target.text ++ ")")
  | .image source caption => some ("![" ++ caption.text ++ "](" ++ source.text ++ ")")
  | .listing lines =>
    some ("```\n" ++ String.intercalate "\n" (written (lines.map (·.phrase))) ++ "\n```")
  | .bullets phrases =>
    if written phrases = [] then none
    else some (String.intercalate "\n" ((written phrases).map fun text => "- " ++ text))
  | .callout _ _ _ => none

/-! ## Blocks as markup -/

section Writing

variable (e : Escaping)

def Phrase.markup (phrase : Phrase) : String :=
  String.ofList (e.text phrase.text.toList)

/-- An attribute after a space. -/
def setting (name : String) (value : Phrase) : String :=
  " " ++ name ++ "=\"" ++ String.ofList (e.value value.text.toList) ++ "\""

/-- Markup between two tags without attributes. -/
def between (name inner : String) : String :=
  "<" ++ name ++ ">" ++ inner ++ "</" ++ name ++ ">"

/-- A block as it is written. -/
def Block.markup : Block → String
  | .paragraph phrase => between "Para" (phrase.markup e)
  | .link phrase target =>
    between "Para"
      ("<Link" ++ setting e "href" target ++ ">" ++ phrase.markup e ++ "</Link>")
  | .image source caption =>
    between "Para" ("<img" ++ setting e "src" source ++ setting e "alt" caption ++ "/>")
  | .listing lines =>
    between "CodeListing"
      (String.join (lines.map fun line => between line.tag.name (line.phrase.markup e)))
  | .bullets phrases =>
    between "List-Bullet"
      (String.join (phrases.map fun phrase =>
        between "Item" (between "Para" (phrase.markup e))))
  | .callout key _ phrase => between key.name (between "Para" (phrase.markup e))

/-- A root element around blocks. -/
def documentOf (root : TagName) (blocks : List Block) : String :=
  between root.name (String.join (blocks.map (Block.markup e)))

end Writing

/-! ## Items -/

/-- The attribute that a name and a value are read into. -/
def attributeOf (name : String) (value : Phrase) : Markup.Attribute :=
  { name := .plain name.toList, space := none, value := value.text.toList.map .char
    text := value.text.toList }

/-- The tag that a name and some attributes are read into. -/
def tagOf (name : String) (attributes : List Markup.Attribute) : Markup.Tag :=
  { name := .plain name.toList, declarations := [], attributes := attributes }

/-- The content that a text is read into. -/
def Phrase.content (phrase : Phrase) : List Markup.Item :=
  Markup.settled [.text phrase.text.toList]

/-- The key that a block is tagged with. -/
def Block.key : Block → Key
  | .paragraph _ => .paragraph
  | .link _ _ => .paragraph
  | .image _ _ => .paragraph
  | .listing _ => .codeListing
  | .bullets _ => .listBullet
  | .callout key _ _ => key

/-- The content that the markup of a block is read into. -/
def Block.content : Block → List Markup.Item
  | .paragraph phrase => phrase.content
  | .link phrase target =>
    [.element (tagOf "Link" [attributeOf "href" target]) phrase.content]
  | .image source caption =>
    [.element (tagOf "img" [attributeOf "src" source, attributeOf "alt" caption]) []]
  | .listing lines => lines.map fun line => .element (tagOf line.tag.name []) line.phrase.content
  | .bullets phrases =>
    phrases.map fun phrase =>
      .element (tagOf "Item" []) [.element (tagOf "Para" []) phrase.content]
  | .callout _ _ phrase => [.element (tagOf "Para" []) phrase.content]

/-- The item that a block is read into. -/
def Block.item (block : Block) : Markup.Item :=
  .element (tagOf block.key.name []) block.content

theorem isPlain_attributeOf {name : String} (hname : Markup.isSimpleName name.toList = true)
    (hnot : name.toList ≠ Markup.declarationWord) (value : Phrase) :
    (attributeOf name value).IsPlain where
  qualifier := rfl
  simple := hname
  no_declaration := hnot
  space := rfl
  value := rfl
  allowed := value.allowed

theorem isPlain_tagOf {name : String} (hname : Markup.isSimpleName name.toList = true)
    {attributes : List Markup.Attribute} (hattributes : ∀ a ∈ attributes, a.IsPlain)
    (hdistinct : (attributes.map (·.name)).Nodup) : (tagOf name attributes).IsPlain where
  qualifier := rfl
  simple := hname
  declarations := rfl
  attributes := hattributes
  distinct := hdistinct

theorem isPlain_bare {name : String} (hname : Markup.isSimpleName name.toList = true) :
    (tagOf name []).IsPlain :=
  isPlain_tagOf hname nofun List.nodup_nil

theorem isPlain_linkTag (target : Phrase) :
    (tagOf "Link" [attributeOf "href" target]).IsPlain := by
  refine isPlain_tagOf (by decide) ?_ (by simp)
  intro a ha
  rw [List.mem_singleton.mp ha]
  exact isPlain_attributeOf (by decide) (by decide) target

theorem isPlain_imageTag (source caption : Phrase) :
    (tagOf "img" [attributeOf "src" source, attributeOf "alt" caption]).IsPlain := by
  have hdistinct : [Markup.QName.plain "src".toList, Markup.QName.plain "alt".toList].Nodup := by
    decide
  refine isPlain_tagOf (by decide) ?_ hdistinct
  intro a ha
  rcases List.mem_cons.mp ha with rfl | ha
  · exact isPlain_attributeOf (by decide) (by decide) source
  · rw [List.mem_singleton.mp ha]
    exact isPlain_attributeOf (by decide) (by decide) caption

theorem isSimpleName_key (key : Key) : Markup.isSimpleName key.name.toList = true := by
  have hall : ∀ k ∈ Key.all, Markup.isSimpleName k.name.toList = true := by decide
  exact hall key (Key.mem_all key)

/-! ### Reading the markup of a block -/

section Reading

variable (e : Escaping)

theorem toList_between (name inner : String) :
    (between name inner).toList = e.enclosed (tagOf name []) inner.toList := by
  simp [between, Escaping.enclosed, Escaping.tag, tagOf, Markup.QName.print,
    Markup.QName.plain]

theorem toList_setting (name : String) (value : Phrase) :
    (setting e name value).toList
      = Markup.printPair name.toList (e.value value.text.toList) := by
  simp [setting, Markup.printPair]

theorem reads_phrase (phrase : Phrase) :
    Reads 0 (phrase.markup e).toList [.text phrase.text.toList] := by
  rw [Phrase.markup, String.toList_ofList]
  exact Markup.reads_text e phrase.allowed

theorem reads_between (name : String) (hname : Markup.isSimpleName name.toList = true)
    {levels : Nat} {inner : String} {items : List Markup.Item}
    (hinner : Reads levels inner.toList items) :
    Reads (levels + 1) (between name inner).toList
      [.element (tagOf name []) (Markup.settled items)] := by
  rw [toList_between .least]
  exact Markup.reads_enclosed .least (isPlain_bare hname) hinner

/-- Texts in a row are read into the elements that each of them is read into. -/
theorem reads_join {α : Type} {levels : Nat} {text : α → String} {item : α → Markup.Item}
    (as : List α) (h : ∀ a ∈ as, Reads levels (text a).toList [item a]) :
    Reads levels (String.join (as.map text)).toList (as.map item) := by
  rw [String.toList_join, List.flatMap_map]
  exact Markup.reads_flatMap h

/-- The markup of a block is read into its item. -/
theorem reads_markup (block : Block) : Reads 3 (block.markup e).toList [block.item] := by
  -- A block goes up to three levels deep, the list with its items and their paragraphs.
  cases block with
  | paragraph phrase =>
    exact Markup.reads_mono (by omega : 1 ≤ 3)
      (reads_between "Para" (by decide) (reads_phrase e phrase))
  | link phrase target =>
    have hlink : ("<Link" ++ setting e "href" target ++ ">" ++ phrase.markup e
          ++ "</Link>").toList
        = e.enclosed (tagOf "Link" [attributeOf "href" target])
            (phrase.markup e).toList := by
      simp [toList_setting, Escaping.enclosed, Escaping.tag, tagOf, attributeOf,
        Markup.QName.print, Markup.QName.plain]
    have hreads := Markup.reads_enclosed e (isPlain_linkTag target) (reads_phrase e phrase)
    rw [← hlink] at hreads
    exact Markup.reads_mono (by omega : 2 ≤ 3)
      (reads_between "Para" (by decide) hreads)
  | image source caption =>
    have himage : ("<img" ++ setting e "src" source ++ setting e "alt" caption
          ++ "/>").toList
        = e.alone (tagOf "img" [attributeOf "src" source, attributeOf "alt" caption]) := by
      simp [toList_setting, Escaping.alone, Escaping.tag, tagOf, attributeOf,
        Markup.QName.print, Markup.QName.plain]
    have hreads := Markup.reads_alone e (isPlain_imageTag source caption)
    rw [← himage] at hreads
    exact Markup.reads_mono (by omega : 2 ≤ 3)
      (reads_between "Para" (by decide) hreads)
  | listing lines =>
    have hlines := reads_join lines fun line _ =>
      reads_between line.tag.name line.tag.simple (reads_phrase e line.phrase)
    have hreads := reads_between "CodeListing" (by decide) hlines
    rw [Markup.settled_of_no_runs] at hreads
    · exact Markup.reads_mono (by omega : 2 ≤ 3) hreads
    · intro item hitem
      obtain ⟨line, -, rfl⟩ := List.mem_map.mp hitem
      rfl
  | bullets phrases =>
    have hitems := reads_join phrases fun phrase _ =>
      reads_between "Item" (by decide)
        (reads_between "Para" (by decide) (reads_phrase e phrase))
    have hreads := reads_between "List-Bullet" (by decide) hitems
    rw [Markup.settled_of_no_runs] at hreads
    · exact hreads
    · intro item hitem
      obtain ⟨phrase, -, rfl⟩ := List.mem_map.mp hitem
      rfl
  | callout key h phrase =>
    exact Markup.reads_mono (by omega : 2 ≤ 3)
      (reads_between key.name (isSimpleName_key key)
        (reads_between "Para" (by decide) (reads_phrase e phrase)))

end Reading

end SymbolDocs.Discussion
