/-
KaniNetwork.Base.Markup — well-formed XML documents.

* `Escaped` — text in which some characters do not stand as they are, and
  an ampersand only where it begins a predefined reference.
* `Reads` — text with markup, read with a stack of open elements: an opening
  tag puts its name on the stack, a closing tag takes the name of the
  innermost element off.
* `Document` — a declaration and one element, closed at the end.
* `WellFormed` — a document of characters that XML 1.0 allows.

This is the part of the grammar that documents without comments, processing
instructions and empty-element tags need. A `>` is not read as text, which
rules out `]]>`.
-/
import Mathlib.Data.List.Basic

namespace KaniNetwork

/-! ## Characters -/

/-- The production Char of XML 1.0. -/
def isXmlChar (c : Char) : Bool :=
  let n := c.toNat
  n = 0x9 || n = 0xA || n = 0xD || (0x20 ≤ n && n ≤ 0xD7FF) || (0xE000 ≤ n && n ≤ 0xFFFD)
    || 0x10000 ≤ n

/-- The production S, one character of it. -/
def isXmlSpace (c : Char) : Bool := c = ' ' || c = '\t' || c = '\n' || c = '\r'

/-- Names of elements and attributes, in ASCII. -/
def isXmlName : List Char → Bool
  | [] => false
  | c :: cs =>
    (c.isAlpha || c = '_' || c = ':') &&
      cs.all fun d => d.isAlphanum || d = '_' || d = ':' || d = '-' || d = '.'

/-- The predefined references. -/
def xmlReferences : List (List Char) :=
  ["&amp;".toList, "&lt;".toList, "&gt;".toList, "&quot;".toList, "&apos;".toList]

/-! ## Text and tags -/

inductive Escaped (barred : List Char) : List Char → Prop
  | nil : Escaped barred []
  | char (c : Char) {cs : List Char} (hamp : c ≠ '&') (hbarred : c ∉ barred)
      (h : Escaped barred cs) : Escaped barred (c :: cs)
  | reference {entity cs : List Char} (hentity : entity ∈ xmlReferences)
      (h : Escaped barred cs) : Escaped barred (entity ++ cs)

/-- Attributes, with the names that are taken. -/
inductive Attributes : List (List Char) → List Char → Prop
  | nil : Attributes [] []
  | cons {names : List (List Char)} {name value cs : List Char} (hname : isXmlName name = true)
      (hnew : name ∉ names) (hvalue : Escaped ['<', '"'] value) (h : Attributes names cs) :
      Attributes (name :: names) (' ' :: (name ++ '=' :: '"' :: (value ++ '"' :: cs)))

def openingTag (name attributes : List Char) : List Char := '<' :: (name ++ (attributes ++ ['>']))

def closingTag (name : List Char) : List Char := '<' :: '/' :: (name ++ ['>'])

/-- Reading the text takes the open elements from the first stack to the
second, the innermost element first. Outside of all elements there is only
white space. -/
inductive Reads : List (List Char) → List Char → List (List Char) → Prop
  | nil (s : List (List Char)) : Reads s [] s
  | text {s s' : List (List Char)} {text cs : List Char} (htext : Escaped ['<', '>'] text)
      (houtside : s = [] → ∀ c ∈ text, isXmlSpace c = true) (h : Reads s cs s') :
      Reads s (text ++ cs) s'
  | opening {s s' names : List (List Char)} {outer name attributes cs : List Char}
      (hname : isXmlName name = true) (hattributes : Attributes names attributes)
      (h : Reads (name :: outer :: s) cs s') :
      Reads (outer :: s) (openingTag name attributes ++ cs) s'
  | closing {s s' : List (List Char)} {name cs : List Char} (h : Reads s cs s') :
      Reads (name :: s) (closingTag name ++ cs) s'

/-- `<?xml version="1.0" encoding="UTF-8"?>`. -/
def xmlDeclaration : List Char := "<?xml version=\"1.0\" encoding=\"UTF-8\"?>".toList

/-- The opening tag of one element, read until nothing is open. -/
inductive Document : List Char → Prop
  | mk {names : List (List Char)} {before name attributes content : List Char}
      (hbefore : ∀ c ∈ before, isXmlSpace c = true) (hname : isXmlName name = true)
      (hattributes : Attributes names attributes) (hcontent : Reads [name] content []) :
      Document (xmlDeclaration ++ (before ++ (openingTag name attributes ++ content)))

structure WellFormed (text : List Char) : Prop where
  document : Document text
  characters : ∀ c ∈ text, isXmlChar c = true

/-! ## Rules -/

/-- Text without ampersands and barred characters needs no escaping. -/
theorem Escaped.of_plain {barred cs : List Char} (hamp : '&' ∉ cs) (hbarred : ∀ c ∈ cs, c ∉ barred) :
    Escaped barred cs := by
  induction cs with
  | nil => exact .nil
  | cons c cs ih =>
    refine .char c ?_ (hbarred c List.mem_cons_self) (ih ?_ ?_)
    · rintro rfl
      exact hamp List.mem_cons_self
    · exact fun h => hamp (List.mem_cons_of_mem c h)
    · exact fun d hd => hbarred d (List.mem_cons_of_mem c hd)

theorem Escaped.append {barred a b : List Char} (ha : Escaped barred a) (hb : Escaped barred b) :
    Escaped barred (a ++ b) := by
  induction ha with
  | nil => exact hb
  | char c hamp hbarred _ ih => exact .char c hamp hbarred ih
  | reference hentity _ ih =>
    rw [List.append_assoc]
    exact .reference hentity ih

namespace Reads

variable {s s' s'' : List (List Char)} {a b text outer name attributes : List Char}

theorem append (ha : Reads s a s') (hb : Reads s' b s'') : Reads s (a ++ b) s'' := by
  induction ha with
  | nil => exact hb
  | text htext houtside _ ih =>
    rw [List.append_assoc]
    exact .text htext houtside (ih hb)
  | opening hname hattributes _ ih =>
    rw [List.append_assoc]
    exact .opening hname hattributes (ih hb)
  | closing _ ih =>
    rw [List.append_assoc]
    exact .closing (ih hb)

theorem of_text (h : Escaped ['<', '>'] text) : Reads (outer :: s) text (outer :: s) := by
  have hread := Reads.text h (fun hnil => by cases hnil) (.nil (outer :: s))
  rwa [List.append_nil] at hread

/-- White space is read anywhere. -/
theorem of_space (h : ∀ c ∈ text, isXmlSpace c = true) : Reads s text s := by
  have htext : Escaped ['<', '>'] text := by
    refine .of_plain (fun hamp => by cases h '&' hamp) fun c hc hbarred => ?_
    simp only [List.mem_cons, List.not_mem_nil, or_false] at hbarred
    rcases hbarred with rfl | rfl
    · cases h '<' hc
    · cases h '>' hc
  have hread := Reads.text htext (fun _ => h) (.nil s)
  rwa [List.append_nil] at hread

theorem openingTag {names : List (List Char)} (hname : isXmlName name = true)
    (hattributes : Attributes names attributes) :
    Reads (outer :: s) (KaniNetwork.openingTag name attributes) (name :: outer :: s) := by
  have hread : Reads (outer :: s) (KaniNetwork.openingTag name attributes ++ [])
      (name :: outer :: s) := .opening hname hattributes (.nil _)
  rwa [List.append_nil] at hread

theorem closingTag : Reads (name :: s) (KaniNetwork.closingTag name) s := by
  have hread : Reads (name :: s) (KaniNetwork.closingTag name ++ []) s := .closing (.nil s)
  rwa [List.append_nil] at hread

/-- An element leaves the stack as it was. -/
theorem element {names : List (List Char)} (hname : isXmlName name = true)
    (hattributes : Attributes names attributes) (htext : Escaped ['<', '>'] text) :
    Reads (outer :: s)
      (KaniNetwork.openingTag name attributes ++ (text ++ KaniNetwork.closingTag name))
      (outer :: s) :=
  (openingTag hname hattributes).append ((of_text htext).append closingTag)

end Reads

end KaniNetwork
