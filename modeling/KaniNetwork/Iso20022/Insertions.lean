/-
KaniNetwork.Iso20022.Insertions — comments and processing instructions in
a pacs.008 message.

A comment in an element changes what the element's children are, and cuts
a text it stands in. Lookups pass over it: they look for elements. But a
text is read with `text()`, which returns the first child of an element if
that is a text, so a comment or a processing instruction hides what
follows it. A text is read as before only if nothing but white space is
hidden (`read_inserted_iff`), and the transfer is unchanged exactly when
that is so for every text it was read from (`insertions_harmless_iff`).
-/
import KaniNetwork.Iso20022.MinorUnits
import Mathlib.Data.List.Forall2

namespace KaniNetwork

/-! ## Insertions -/

/-- A comment or a processing instruction. -/
inductive XmlNode.Remark : XmlNode → Prop
  | comment (text : String) : Remark (.comment text)
  | processingInstruction (target : String) (value : Option String) :
    Remark (.processingInstruction target value)

/-- The second list of children is the first with comments and processing
instructions inserted: before a child, within an element, or within a text,
which is then two texts. -/
inductive Inserted : List XmlNode → List XmlNode → Prop
  | nil : Inserted [] []
  | keep (node : XmlNode) {ns ns' : List XmlNode} (h : Inserted ns ns') :
    Inserted (node :: ns) (node :: ns')
  | within (name : String) (attributes : List XmlAttribute) {cs cs' ns ns' : List XmlNode}
    (hcs : Inserted cs cs') (h : Inserted ns ns') :
    Inserted (.element name attributes cs :: ns) (.element name attributes cs' :: ns')
  | insert {remark : XmlNode} (hremark : remark.Remark) {ns ns' : List XmlNode}
    (h : Inserted ns ns') : Inserted ns (remark :: ns')
  | split {a b : String} (ha : a ≠ "") (hb : b ≠ "") {remark : XmlNode}
    (hremark : remark.Remark) {ns ns' : List XmlNode} (h : Inserted (.text b :: ns) ns') :
    Inserted (.text (a ++ b) :: ns) (.text a :: remark :: ns')

/-- An element and the same with insertions in it. -/
inductive InsertedIn : XmlNode → XmlNode → Prop
  | element (name : String) (attributes : List XmlAttribute) {cs cs' : List XmlNode}
    (h : Inserted cs cs') : InsertedIn (.element name attributes cs) (.element name attributes cs')

inductive XmlNode.IsElement : XmlNode → Prop
  | element (name : String) (attributes : List XmlAttribute) (children : List XmlNode) :
    IsElement (.element name attributes children)

/-- A document and the same with insertions inside its elements. -/
def XmlDocument.Inserted (document document' : XmlDocument) : Prop :=
  ∃ children, KaniNetwork.Inserted document.rootChildren children ∧
    document' = { document with rootChildren := children }

theorem Inserted.refl (ns : List XmlNode) : Inserted ns ns := by
  induction ns with
  | nil => exact .nil
  | cons node ns ih => exact .keep node ih

theorem XmlNode.Remark.not_named {node : XmlNode} (h : node.Remark) (name : String) :
    node.isElementNamed name = false := by
  cases h with
  | comment => rfl
  | processingInstruction => rfl

theorem XmlNode.Remark.descendants {node : XmlNode} (h : node.Remark) :
    node.descendants = [node] := by
  cases h with
  | comment => rfl
  | processingInstruction => rfl

theorem XmlNode.isElementNamed_text (text name : String) :
    (XmlNode.text text).isElementNamed name = false := rfl

theorem XmlNode.isElementNamed_self (name : String) (attributes : List XmlAttribute)
    (children : List XmlNode) :
    (XmlNode.element name attributes children).isElementNamed name = true :=
  decide_eq_true rfl

theorem XmlNode.isElementNamed_ne {name' name : String} (h : name' ≠ name)
    (attributes : List XmlAttribute) (children : List XmlNode) :
    (XmlNode.element name' attributes children).isElementNamed name = false :=
  decide_eq_false h

/-- An element is itself with nothing inserted. -/
theorem InsertedIn.refl_of_named {node : XmlNode} {name : String}
    (h : node.isElementNamed name = true) : InsertedIn node node := by
  cases node with
  | element name' attributes children => exact .element name' attributes (.refl children)
  | text => cases h
  | comment => cases h
  | processingInstruction => cases h

/-! ## Lookups pass over insertions -/

theorem find_named_skip {node : XmlNode} {name : String} (h : node.isElementNamed name = false)
    (ns : List XmlNode) :
    (node :: ns).find? (XmlNode.isElementNamed name) = ns.find? (XmlNode.isElementNamed name) :=
  List.find?_cons_of_neg (by simp [h])

theorem Inserted.find {ns ns' : List XmlNode} (h : Inserted ns ns') (name : String) :
    Option.Rel InsertedIn (ns.find? (XmlNode.isElementNamed name))
      (ns'.find? (XmlNode.isElementNamed name)) := by
  induction h with
  | nil => exact .none
  | keep node h ih =>
    cases hnamed : node.isElementNamed name with
    | true =>
      rw [List.find?_cons_of_pos hnamed, List.find?_cons_of_pos hnamed]
      exact .some (.refl_of_named hnamed)
    | false =>
      rw [find_named_skip hnamed, find_named_skip hnamed]
      exact ih
  | within name' attributes hcs h _ ih =>
    by_cases hname : name' = name
    · subst hname
      rw [List.find?_cons_of_pos (XmlNode.isElementNamed_self _ _ _),
        List.find?_cons_of_pos (XmlNode.isElementNamed_self _ _ _)]
      exact .some (.element name' attributes hcs)
    · rw [find_named_skip (XmlNode.isElementNamed_ne hname _ _),
        find_named_skip (XmlNode.isElementNamed_ne hname _ _)]
      exact ih
  | insert hremark h ih =>
    rw [find_named_skip (hremark.not_named name)]
    exact ih
  | split ha hb hremark h ih =>
    rw [find_named_skip (XmlNode.isElementNamed_text _ name)] at ih ⊢
    rw [find_named_skip (XmlNode.isElementNamed_text _ name),
      find_named_skip (hremark.not_named name)]
    exact ih

/-- A path leads to the same element. -/
theorem InsertedIn.firstChild {node node' : XmlNode} (h : InsertedIn node node')
    (path : List String) :
    Option.Rel InsertedIn (firstChild node path) (firstChild node' path) := by
  induction path generalizing node node' with
  | nil => exact .some h
  | cons name path ih =>
    cases h with
    | @element name' attributes cs cs' h =>
      have hfind := h.find name
      simp only [KaniNetwork.firstChild, XmlNode.children]
      generalize cs.find? (XmlNode.isElementNamed name) = found at hfind ⊢
      generalize cs'.find? (XmlNode.isElementNamed name) = found' at hfind ⊢
      cases hfind with
      | none => exact .none
      | some hchild => exact ih hchild

/-- The elements of one name below a list of children. -/
theorem Inserted.descendants {ns ns' : List XmlNode} (h : Inserted ns ns') (name : String) :
    List.Forall₂ InsertedIn
      ((XmlNode.descendantsList ns).filter (XmlNode.isElementNamed name))
      ((XmlNode.descendantsList ns').filter (XmlNode.isElementNamed name)) := by
  induction h with
  | nil => exact .nil
  | keep node h ih =>
    simp only [XmlNode.descendantsList, List.filter_append]
    refine List.rel_append (List.forall₂_same.mpr ?_) ih
    intro x hx
    exact .refl_of_named (List.mem_filter.mp hx).2
  | within name' attributes hcs h ihcs ih =>
    simp only [XmlNode.descendantsList, XmlNode.descendants, List.filter_append]
    refine List.rel_append ?_ ih
    by_cases hname : name' = name
    · subst hname
      rw [List.filter_cons_of_pos (XmlNode.isElementNamed_self _ _ _),
        List.filter_cons_of_pos (XmlNode.isElementNamed_self _ _ _)]
      exact .cons (.element name' attributes hcs) ihcs
    · rw [List.filter_cons_of_neg (by simp [XmlNode.isElementNamed_ne hname]),
        List.filter_cons_of_neg (by simp [XmlNode.isElementNamed_ne hname])]
      exact ihcs
  | insert hremark h ih =>
    simp only [XmlNode.descendantsList, hremark.descendants, List.singleton_append]
    rw [List.filter_cons_of_neg (by simp [hremark.not_named])]
    exact ih
  | split ha hb hremark h ih =>
    simp only [XmlNode.descendantsList, XmlNode.descendants, hremark.descendants,
      List.singleton_append] at ih ⊢
    rw [List.filter_cons_of_neg (by simp [XmlNode.isElementNamed_text])] at ih ⊢
    rw [List.filter_cons_of_neg (by simp [XmlNode.isElementNamed_text]),
      List.filter_cons_of_neg (by simp [hremark.not_named])]
    exact ih

/-! ## Texts -/

/-- The first child of the node is this text. -/
def XmlNode.BeginsWith (node : XmlNode) (text : String) : Prop :=
  ∃ rest, node.children = .text text :: rest

/-- The node begins with a text that is not blank. -/
def XmlNode.Readable (node : XmlNode) : Prop := ∃ text, node.BeginsWith text ∧ trim text ≠ ""

/-- The text the element begins with is kept but for white space: in the
second element it ends at an insertion, if anywhere, that has only white
space of it behind it. -/
def Intact (node node' : XmlNode) : Prop :=
  ∃ a b, node.BeginsWith (a ++ b) ∧ node'.BeginsWith a ∧ trim b = ""

/-- What `child_text` reads of the element it has found. -/
def readText (node : XmlNode) : Option String := node.textOf.bind nonEmptyTrimmed

theorem childText_eq (node : XmlNode) (path : List String) :
    childText node path = (firstChild node path).bind readText := rfl

theorem nonEmptyTrimmed_eq_some_iff {text s : String} :
    nonEmptyTrimmed text = some s ↔ trim text = s ∧ s ≠ "" := by
  unfold nonEmptyTrimmed
  split
  · rename_i hempty
    simp only [String.isEmpty_iff] at hempty
    simp only [hempty, reduceCtorEq, false_iff, not_and, not_not]
    exact Eq.symm
  · rename_i hne
    simp only [String.isEmpty_iff] at hne
    simp only [Option.some.injEq]
    constructor
    · intro h
      exact ⟨h, h ▸ hne⟩
    · intro h
      exact h.1

theorem XmlNode.BeginsWith.unique {node : XmlNode} {s s' : String} (h : node.BeginsWith s)
    (h' : node.BeginsWith s') : s = s' := by
  obtain ⟨rest, h⟩ := h
  obtain ⟨rest', h'⟩ := h'
  rw [h, List.cons.injEq, XmlNode.text.injEq] at h'
  exact h'.1

/-- The text of an element is the one it begins with. -/
theorem textOf_eq_some_iff {node : XmlNode} (h : node.IsElement) {s : String} :
    node.textOf = some s ↔ node.BeginsWith s := by
  cases h with
  | element name attributes children =>
    simp only [XmlNode.BeginsWith, XmlNode.children]
    cases children with
    | nil => simp [XmlNode.textOf]
    | cons child rest =>
      cases child with
      | text text => simp [XmlNode.textOf]
      | element => simp [XmlNode.textOf]
      | comment => simp [XmlNode.textOf]
      | processingInstruction => simp [XmlNode.textOf]

theorem readText_eq_some_iff {node : XmlNode} (h : node.IsElement) {v : String} :
    readText node = some v ↔ ∃ s, node.BeginsWith s ∧ trim s = v ∧ v ≠ "" := by
  simp only [readText, Option.bind_eq_some_iff, textOf_eq_some_iff h, nonEmptyTrimmed_eq_some_iff]

theorem readable_iff {node : XmlNode} (h : node.IsElement) :
    node.Readable ↔ ∃ v, readText node = some v := by
  simp only [readText_eq_some_iff h]
  constructor
  · intro hreadable
    obtain ⟨s, hs, hne⟩ := hreadable
    exact ⟨trim s, s, hs, rfl, hne⟩
  · intro hread
    obtain ⟨v, s, hs, rfl, hne⟩ := hread
    exact ⟨s, hs, hne⟩

theorem not_readable_iff {node : XmlNode} (h : node.IsElement) :
    ¬ node.Readable ↔ readText node = none := by
  rw [readable_iff h, Option.eq_none_iff_forall_ne_some, not_exists]

/-- What the element begins with after an insertion is the beginning of
what it began with. -/
theorem InsertedIn.beginsWith {node node' : XmlNode} (h : InsertedIn node node') {a : String}
    (ha : node'.BeginsWith a) : ∃ b, node.BeginsWith (a ++ b) := by
  obtain ⟨rest', hrest'⟩ := ha
  cases h with
  | element name attributes h =>
    simp only [XmlNode.children] at hrest'
    cases h with
    | nil => cases hrest'
    | keep node h =>
      cases hrest'
      exact ⟨"", _, by rw [String.append_empty]; rfl⟩
    | within name' attributes' hcs h => cases hrest'
    | insert hremark h =>
      cases hrest'
      cases hremark
    | split ha hb hremark h =>
      cases hrest'
      exact ⟨_, _, rfl⟩

theorem InsertedIn.isElement {node node' : XmlNode} (h : InsertedIn node node') :
    node.IsElement ∧ node'.IsElement := by
  cases h with
  | element name attributes h => exact ⟨.element _ _ _, .element _ _ _⟩

/-- **Insertions and a text.** The element is read as before when the text
it begins with is intact, or was blank. -/
theorem read_inserted_iff {node node' : XmlNode} (h : InsertedIn node node') :
    readText node' = readText node ↔ (node.Readable → Intact node node') := by
  obtain ⟨helement, helement'⟩ := h.isElement
  cases hread : readText node with
  | none =>
    -- the beginning of a blank text is blank
    have hblank := (not_readable_iff helement).mpr hread
    have hread' : readText node' = none := by
      rw [← not_readable_iff helement']
      intro hreadable
      obtain ⟨a, ha, hne⟩ := hreadable
      obtain ⟨b, hb⟩ := h.beginsWith ha
      exact hblank ⟨a ++ b, hb, trim_append_ne_empty hne b⟩
    simp only [hread', hblank, false_implies]
  | some v =>
    have hreadable := (readable_iff helement).mpr ⟨v, hread⟩
    obtain ⟨s, hs, htrim, hne⟩ := (readText_eq_some_iff helement).mp hread
    rw [readText_eq_some_iff helement']
    constructor
    · intro hread' _
      obtain ⟨a, ha, htrim', -⟩ := hread'
      obtain ⟨b, hb⟩ := h.beginsWith ha
      have hwhole : s = a ++ b := hs.unique hb
      rw [hwhole] at htrim
      have hcut := trim_append_eq_iff (show trim (a ++ b) ≠ "" by rwa [htrim])
      rw [htrim] at hcut
      exact ⟨a, b, hb, ha, hcut.mp htrim'⟩
    · intro hintact
      obtain ⟨a, b, hb, ha, hblank⟩ := hintact hreadable
      have hwhole : s = a ++ b := hs.unique hb
      rw [hwhole] at htrim
      have hcut := trim_append_eq_iff (show trim (a ++ b) ≠ "" by rwa [htrim])
      rw [htrim] at hcut
      exact ⟨a, ha, hcut.mpr hblank, hne⟩

/-! ## The texts of a message -/

/-- The text the path leads to is intact, if there is one. -/
def SparesText (node node' : XmlNode) (path : List String) : Prop :=
  ∀ e e', firstChild node path = some e → firstChild node' path = some e' →
    e.Readable → Intact e e'

/-- The two elements begin with the same text, up to white space. -/
def SameText (node node' : XmlNode) : Prop :=
  ∃ s s', node.BeginsWith s ∧ node'.BeginsWith s' ∧ trim s' = trim s

/-- The account is read as before: from the first path, whose text is
intact or, if nothing is left in front of the insertion, is also that of
the second path; or from the second path where the first has no text. -/
structure SparesAccount (node node' : XmlNode) (path fallback : List String) : Prop where
  first : ∀ e e', firstChild node path = some e → firstChild node' path = some e' → e.Readable →
    Intact e e' ∨ (¬ e'.Readable ∧ ∃ f', firstChild node' fallback = some f' ∧ SameText e f')
  second : (∀ e, firstChild node path = some e → ¬ e.Readable) → SparesText node node' fallback

theorem InsertedIn.firstChild_cases {node node' : XmlNode} (h : InsertedIn node node')
    (path : List String) :
    (KaniNetwork.firstChild node path = none ∧ KaniNetwork.firstChild node' path = none) ∨
      ∃ e e', KaniNetwork.firstChild node path = some e ∧
        KaniNetwork.firstChild node' path = some e' ∧ InsertedIn e e' := by
  have hrel := h.firstChild path
  generalize KaniNetwork.firstChild node path = found at hrel ⊢
  generalize KaniNetwork.firstChild node' path = found' at hrel ⊢
  cases hrel with
  | none => exact .inl ⟨rfl, rfl⟩
  | some helement => exact .inr ⟨_, _, rfl, rfl, helement⟩

theorem childText_inserted_iff {node node' : XmlNode} (h : InsertedIn node node')
    (path : List String) :
    childText node' path = childText node path ↔ SparesText node node' path := by
  simp only [childText_eq, SparesText]
  rcases h.firstChild_cases path with ⟨hnone, hnone'⟩ | ⟨e, e', he, he', helement⟩
  · simp [hnone, hnone']
  · rw [he, he', Option.bind_some, Option.bind_some, read_inserted_iff helement]
    constructor
    · intro hintact f f' hf hf'
      cases hf
      cases hf'
      exact hintact
    · intro hspared
      exact hspared e e' rfl rfl

/-- Where the first path has no text, neither has it after an insertion. -/
theorem childText_inserted_none {node node' : XmlNode} (h : InsertedIn node node')
    {path : List String} (hread : childText node path = none) :
    childText node' path = none ∧ ∀ e, firstChild node path = some e → ¬ e.Readable := by
  rcases h.firstChild_cases path with ⟨hnone, hnone'⟩ | ⟨e, e', he, he', helement⟩
  · simp [childText_eq, hnone, hnone']
  · rw [childText_eq, he, Option.bind_some] at hread
    have hblank := (not_readable_iff helement.isElement.1).mpr hread
    have hread' := (read_inserted_iff helement).mpr fun hreadable => absurd hreadable hblank
    rw [childText_eq, he', Option.bind_some, hread', hread, he]
    refine ⟨rfl, fun f hf => ?_⟩
    cases hf
    exact hblank

theorem sameText_iff {node node' : XmlNode} (h : node.IsElement) (h' : node'.IsElement) {v : String}
    (hread : readText node = some v) : SameText node node' ↔ readText node' = some v := by
  obtain ⟨s, hs, htrim, hne⟩ := (readText_eq_some_iff h).mp hread
  rw [readText_eq_some_iff h']
  constructor
  · intro hsame
    obtain ⟨r, s', hr, hs', htrim'⟩ := hsame
    rw [hr.unique hs, htrim] at htrim'
    exact ⟨s', hs', htrim', hne⟩
  · intro hread'
    obtain ⟨s', hs', htrim', -⟩ := hread'
    exact ⟨s, s', hs, hs', by rw [htrim, htrim']⟩

/-- Where the first path has a text, what becomes of it decides. -/
theorem sparesAccount_iff_of_readable {node node' e e' : XmlNode} {path fallback : List String}
    (he : firstChild node path = some e) (he' : firstChild node' path = some e')
    (hreadable : e.Readable) :
    SparesAccount node node' path fallback ↔ Intact e e' ∨
      (¬ e'.Readable ∧ ∃ f', firstChild node' fallback = some f' ∧ SameText e f') := by
  constructor
  · intro hspared
    exact hspared.first e e' he he' hreadable
  · intro hspared
    refine ⟨?_, fun hblank => absurd hreadable (hblank e he)⟩
    intro f f' hf hf' _
    rw [he] at hf
    rw [he'] at hf'
    cases hf
    cases hf'
    exact hspared

theorem account_inserted_iff {node node' : XmlNode} (h : InsertedIn node node')
    {path fallback : List String} {v : String}
    (hread : (childText node path).or (childText node fallback) = some v) :
    (childText node' path).or (childText node' fallback) = some v ↔
      SparesAccount node node' path fallback := by
  cases hfirst : childText node path with
  | none =>
    obtain ⟨hfirst', hblank⟩ := childText_inserted_none h hfirst
    rw [hfirst, Option.none_or] at hread
    rw [hfirst', Option.none_or, ← hread, childText_inserted_iff h]
    constructor
    · intro hspared
      exact ⟨fun e e' he _ hreadable => absurd hreadable (hblank e he), fun _ => hspared⟩
    · intro hspared
      exact hspared.second hblank
  | some w =>
    rw [hfirst, Option.some_or, Option.some.injEq] at hread
    subst hread
    rcases h.firstChild_cases path with ⟨hnone, -⟩ | ⟨e, e', he, he', helement⟩
    · rw [childText_eq, hnone] at hfirst
      cases hfirst
    rw [childText_eq, he, Option.bind_some] at hfirst
    obtain ⟨he1, he1'⟩ := helement.isElement
    have hreadable := (readable_iff he1).mpr ⟨w, hfirst⟩
    have hintact := read_inserted_iff helement
    rw [hfirst] at hintact
    rw [sparesAccount_iff_of_readable he he' hreadable, childText_eq node' path, he',
      Option.bind_some]
    cases hread' : readText e' with
    | some w' =>
      have hreadable' := (readable_iff he1').mpr ⟨w', hread'⟩
      rw [Option.some_or, ← hread', hintact]
      simp only [hreadable, hreadable', true_implies, not_true_eq_false, false_and, or_false]
    | none =>
      have hblank' := (not_readable_iff he1').mpr hread'
      have hlost : ¬ Intact e e' := by
        intro hkept
        have hsame := hintact.mpr fun _ => hkept
        rw [hread'] at hsame
        cases hsame
      simp only [hlost, hblank', not_false_eq_true, true_and, false_or, Option.none_or]
      rcases h.firstChild_cases fallback with ⟨-, hnone'⟩ | ⟨f, f', -, hf', hfallback⟩
      · simp [childText_eq, hnone']
      · rw [childText_eq, hf', Option.bind_some,
          ← sameText_iff he1 hfallback.isElement.2 hfirst]
        simp only [Option.some.injEq, exists_eq_left']

/-! ## The message -/

/-- The `CdtTrfTxInf` elements of a document. -/
def XmlDocument.transactions (document : XmlDocument) : List XmlNode :=
  document.descendants.filter (XmlNode.isElementNamed "CdtTrfTxInf")

/-- The element the amount is read from. -/
def amountElement (transaction : XmlNode) : Option XmlNode :=
  (firstChild transaction ["IntrBkSttlmAmt"]).or (firstChild transaction ["InstdAmt"])

structure TransactionSpared (transaction transaction' : XmlNode) : Prop where
  instructionId : SparesText transaction transaction' ["PmtId", "InstrId"]
  endToEndId : SparesText transaction transaction' ["PmtId", "EndToEndId"]
  amount : ∀ e e', amountElement transaction = some e → amountElement transaction' = some e' →
    Intact e e'
  debtorAccount : SparesAccount transaction transaction' ["DbtrAcct", "Id", "Othr", "Id"]
    ["Dbtr", "Id", "OrgId", "Othr", "Id"]
  creditorAccount : SparesAccount transaction transaction' ["CdtrAcct", "Id", "Othr", "Id"]
    ["Cdtr", "Id", "OrgId", "Othr", "Id"]

/-- Every text a transfer is read from is intact. -/
structure TextsSpared (document document' : XmlDocument) : Prop where
  messageId : SparesText document.rootElement document'.rootElement
    ["FIToFICstmrCdtTrf", "GrpHdr", "MsgId"]
  transaction : ∀ tx tx', document.transactions = [tx] → document'.transactions = [tx'] →
    TransactionSpared tx tx'

theorem InsertedIn.attributeValue {node node' : XmlNode} (h : InsertedIn node node')
    (name : String) : node'.attributeValue name = node.attributeValue name := by
  cases h with
  | element name' attributes h => rfl

theorem amountElement_cases {node node' : XmlNode} (h : InsertedIn node node') :
    (amountElement node = none ∧ amountElement node' = none) ∨
      ∃ e e', amountElement node = some e ∧ amountElement node' = some e' ∧ InsertedIn e e' := by
  unfold amountElement
  rcases h.firstChild_cases ["IntrBkSttlmAmt"] with ⟨hnone, hnone'⟩ | ⟨e, e', he, he', helement⟩
  · rw [hnone, hnone', Option.none_or, Option.none_or]
    exact h.firstChild_cases ["InstdAmt"]
  · rw [he, he', Option.some_or, Option.some_or]
    exact .inr ⟨e, e', rfl, rfl, helement⟩

/-- The amount of an element is the number its text is. -/
theorem parseMinorUnits_textOf_iff (node : XmlNode) (n : Int) :
    parseMinorUnits (node.textOf.getD "") = .ok n ↔
      1 ≤ n ∧ n ≤ 2 ^ 127 - 1 ∧ readText node = some (toString n) := by
  have hne := toString_ne_empty n
  have hempty : trim "" = "" := by decide
  rw [parseMinorUnits_eq_ok_iff, readText]
  generalize toString n = digits at hne ⊢
  cases node.textOf with
  | none => simp [hempty, hne.symm]
  | some text => simp [nonEmptyTrimmed_eq_some_iff, hne]

theorem amount_inserted_iff {node node' : XmlNode} (h : InsertedIn node node') {n : Int}
    (hread : parseMinorUnits (node.textOf.getD "") = .ok n) :
    parseMinorUnits (node'.textOf.getD "") = .ok n ↔ Intact node node' := by
  rw [parseMinorUnits_textOf_iff] at hread ⊢
  obtain ⟨hpos, hbound, htext⟩ := hread
  have hreadable := (readable_iff h.isElement.1).mpr ⟨_, htext⟩
  have hiff := read_inserted_iff h
  simp only [hreadable, true_implies, htext] at hiff
  simp only [hpos, hbound, true_and, hiff]

theorem XmlDocument.Inserted.rootElement {document document' : XmlDocument}
    (h : document.Inserted document') :
    InsertedIn document.rootElement document'.rootElement := by
  obtain ⟨children, hchildren, rfl⟩ := h
  exact .element _ _ hchildren

theorem Inserted.append_left {ns ns' : List XmlNode} (h : Inserted ns ns') (before : List XmlNode) :
    Inserted (before ++ ns) (before ++ ns') := by
  induction before with
  | nil => exact h
  | cons node before ih => exact .keep node ih

/-- The transactions of the document, with insertions in them. -/
theorem XmlDocument.Inserted.transactions {document document' : XmlDocument}
    (h : document.Inserted document') :
    List.Forall₂ InsertedIn document.transactions document'.transactions := by
  obtain ⟨children, hchildren, rfl⟩ := h
  have hroot := KaniNetwork.Inserted.within document.rootName document.rootAttributes hchildren
    (.refl document.after)
  exact (hroot.append_left document.before).descendants "CdtTrfTxInf"

theorem transaction_spared_iff {transaction transaction' e e' : XmlNode}
    (h : InsertedIn transaction transaction') (he : amountElement transaction = some e)
    (he' : amountElement transaction' = some e') (helement : InsertedIn e e')
    {document document' : XmlDocument} {t : Pacs008CreditTransfer}
    (hread : t.ReadFrom document transaction e)
    (hmessage : childText document'.rootElement ["FIToFICstmrCdtTrf", "GrpHdr", "MsgId"] =
      some t.messageId)
    (htransactions : document'.transactions = [transaction']) :
    t.ReadFrom document' transaction' e' ↔ TransactionSpared transaction transaction' := by
  have hinstruction := childText_inserted_iff h ["PmtId", "InstrId"]
  have hend := childText_inserted_iff h ["PmtId", "EndToEndId"]
  have hamount := amount_inserted_iff helement hread.amount
  have hdebtor := account_inserted_iff h hread.debtorAccount
  have hcreditor := account_inserted_iff h hread.creditorAccount
  rw [hread.instructionId] at hinstruction
  rw [hread.endToEndId] at hend
  constructor
  · intro hread'
    refine ⟨hinstruction.mp hread'.instructionId, hend.mp hread'.endToEndId, ?_,
      hdebtor.mp hread'.debtorAccount, hcreditor.mp hread'.creditorAccount⟩
    intro f f' hf hf'
    rw [he] at hf
    rw [he'] at hf'
    cases hf
    cases hf'
    exact hamount.mp hread'.amount
  · intro hspared
    exact {
      messageId := hmessage
      transactions := htransactions
      instructionId := hinstruction.mpr hspared.instructionId
      endToEndId := hend.mpr hspared.endToEndId
      amountElement := he'
      asset := by
        rw [helement.attributeValue]
        exact hread.asset
      amount := hamount.mpr (hspared.amount e e' he he')
      debtorAccount := hdebtor.mpr hspared.debtorAccount
      creditorAccount := hcreditor.mpr hspared.creditorAccount }

/-- **Insertions leave a payment unchanged when they spare its texts**, and
only then. `hblank`: the XML parser takes no blank text for a document. -/
theorem insertions_harmless_iff {parseXml : String → Except String XmlDocument}
    (hblank : ∀ s document, parseXml s = .ok document → (trim s).isEmpty = false)
    {rawXml rawXml' : String} {document document' : XmlDocument}
    (hdocument : parseXml rawXml = .ok document) (hdocument' : parseXml rawXml' = .ok document')
    (hinserted : document.Inserted document') {t : Pacs008CreditTransfer}
    (h : parsePacs008CreditTransfer parseXml rawXml = .ok t) :
    parsePacs008CreditTransfer parseXml rawXml' = .ok t ↔ TextsSpared document document' := by
  obtain ⟨document₁, tx, e, hdocument₁, hread⟩ := parsePacs008CreditTransfer_eq_ok h
  rw [hdocument] at hdocument₁
  cases hdocument₁
  -- the transaction and its amount are found again
  have htransactions : document.transactions = [tx] := hread.transactions
  have hrelated := hinserted.transactions
  rw [htransactions] at hrelated
  obtain ⟨tx', htx, htransactions'⟩ : ∃ tx', InsertedIn tx tx' ∧ document'.transactions = [tx'] := by
    generalize document'.transactions = txs at hrelated ⊢
    cases hrelated with
    | cons htx hnil =>
      cases hnil
      exact ⟨_, htx, rfl⟩
  obtain ⟨e', he', helement⟩ : ∃ e', amountElement tx' = some e' ∧ InsertedIn e e' := by
    rcases amountElement_cases htx with ⟨hnone, -⟩ | ⟨f, f', hf, hf', helement⟩
    · exact absurd (hread.amountElement.symm.trans hnone) (by simp)
    · cases hf.symm.trans hread.amountElement
      exact ⟨f', hf', helement⟩
  have hmessage := childText_inserted_iff hinserted.rootElement
    ["FIToFICstmrCdtTrf", "GrpHdr", "MsgId"]
  rw [hread.messageId] at hmessage
  rw [parsePacs008CreditTransfer_eq_ok_iff]
  constructor
  · intro hparsed
    obtain ⟨-, document₂, tx₂, e₂, hdocument₂, hread'⟩ := hparsed
    rw [hdocument'] at hdocument₂
    cases hdocument₂
    cases hread'.transactions.symm.trans htransactions'
    cases hread'.amountElement.symm.trans he'
    refine ⟨hmessage.mp hread'.messageId, ?_⟩
    intro f f' hf hf'
    rw [htransactions] at hf
    rw [htransactions'] at hf'
    cases hf
    cases hf'
    exact (transaction_spared_iff htx hread.amountElement he' helement hread hread'.messageId
      htransactions').mp hread'
  · intro hspared
    refine ⟨hblank _ _ hdocument', document', tx', e', hdocument', ?_⟩
    exact (transaction_spared_iff htx hread.amountElement he' helement hread
      (hmessage.mpr hspared.messageId) htransactions').mpr
      (hspared.transaction tx tx' htransactions htransactions')

/-- A message from `CORP_A` to `CORP_B` with this text of the amount. -/
def amountMessage (amount : String) : String :=
  "<Document><FIToFICstmrCdtTrf><GrpHdr><MsgId>m-1</MsgId></GrpHdr><CdtTrfTxInf>"
    ++ "<PmtId><EndToEndId>e-1</EndToEndId></PmtId>"
    ++ "<IntrBkSttlmAmt Ccy=\"KCAD_TEST\">" ++ amount ++ "</IntrBkSttlmAmt>"
    ++ "<DbtrAcct><Id><Othr><Id>CORP_A</Id></Othr></Id></DbtrAcct>"
    ++ "<CdtrAcct><Id><Othr><Id>CORP_B</Id></Othr></Id></CdtrAcct>"
    ++ "</CdtTrfTxInf></FIToFICstmrCdtTrf></Document>"

/-- Its tree, with these nodes in the amount. -/
def amountDocument (amount : List XmlNode) : XmlDocument :=
  let leaf (name text : String) := XmlNode.element name [] [.text text]
  let account (name id : String) := XmlNode.element name []
    [.element "Id" [] [.element "Othr" [] [leaf "Id" id]]]
  { before := []
    rootName := "Document"
    rootAttributes := []
    rootChildren := [.element "FIToFICstmrCdtTrf" []
      [.element "GrpHdr" [] [leaf "MsgId" "m-1"],
        .element "CdtTrfTxInf" []
          [.element "PmtId" [] [leaf "EndToEndId" "e-1"],
            .element "IntrBkSttlmAmt" [⟨none, "Ccy", "KCAD_TEST"⟩] amount,
            account "DbtrAcct" "CORP_A",
            account "CdtrAcct" "CORP_B"]]]
    after := [] }

/-- A parser of such messages: the texts of the amount it knows, with the
nodes they are. -/
def amountParseXml (known : List (String × List XmlNode)) (rawXml : String) :
    Except String XmlDocument :=
  match known.find? fun amount => rawXml = amountMessage amount.1 with
  | some amount => .ok (amountDocument amount.2)
  | none => .error "unknown token at 1:1"

def amountTransfer (amount : Int) : Pacs008CreditTransfer where
  messageId := "m-1"
  instructionId := none
  endToEndId := "e-1"
  debtorAccount := "CORP_A"
  creditorAccount := "CORP_B"
  asset := "KCAD_TEST"
  amount := amount

theorem amountMessage_not_blank (amount : String) :
    (trim (amountMessage amount)).isEmpty = false := by
  have hmem : '<' ∈ (amountMessage amount).toList := by
    unfold amountMessage
    simp only [String.append_assoc, String.toList_append, List.mem_append]
    exact .inl (by decide)
  exact trim_isEmpty_of_mem hmem (by decide)

theorem amountParseXml_not_blank (known : List (String × List XmlNode)) (rawXml : String)
    (document : XmlDocument) (h : amountParseXml known rawXml = .ok document) :
    (trim rawXml).isEmpty = false := by
  unfold amountParseXml at h
  split at h
  · rename_i amount hfound
    have hraw := List.find?_some hfound
    simp only [decide_eq_true_eq] at hraw
    rw [hraw]
    exact amountMessage_not_blank amount.1
  · cases h

theorem amountDocument_inserted {amount amount' : List XmlNode} (h : Inserted amount amount') :
    (amountDocument amount).Inserted (amountDocument amount') :=
  ⟨_, .within _ _ (.keep _ (.within _ _ (.keep _ (.within _ _ h (.refl _))) .nil)) .nil, rfl⟩

/-- A comment within the amount: 100 units become one. -/
theorem comment_truncates_amount :
    let nodes := [.text "1", .comment " ", .text "00"]
    let parseXml := amountParseXml [("100", [.text "100"]), ("1<!-- -->00", nodes)]
    (amountDocument [.text "100"]).Inserted (amountDocument nodes) ∧
      parseXml (amountMessage "100") = .ok (amountDocument [.text "100"]) ∧
      parseXml (amountMessage "1<!-- -->00") = .ok (amountDocument nodes) ∧
      parsePacs008CreditTransfer parseXml (amountMessage "100") = .ok (amountTransfer 100) ∧
      parsePacs008CreditTransfer parseXml (amountMessage "1<!-- -->00") =
        .ok (amountTransfer 1) := by
  intro nodes parseXml
  have hinserted : Inserted [.text "100"] nodes :=
    .split (a := "1") (b := "00") (by decide) (by decide) (.comment " ") (.keep _ .nil)
  have hfound : [("100", [.text "100"]), ("1<!-- -->00", nodes)].find?
      (fun amount => amountMessage "1<!-- -->00" = amountMessage amount.1) =
        some ("1<!-- -->00", nodes) := by
    have hne : amountMessage "1<!-- -->00" ≠ amountMessage "100" := by decide +kernel
    simp [hne]
  have hplain : parseXml (amountMessage "100") = .ok (amountDocument [.text "100"]) := by
    simp [parseXml, amountParseXml]
  have hcommented : parseXml (amountMessage "1<!-- -->00") = .ok (amountDocument nodes) := by
    simp only [parseXml, amountParseXml, hfound]
  refine ⟨amountDocument_inserted hinserted, hplain, hcommented, ?_, ?_⟩
  · rw [parsePacs008CreditTransfer_of_document (amountMessage_not_blank _) hplain]
    decide +kernel
  · rw [parsePacs008CreditTransfer_of_document (amountMessage_not_blank _) hcommented]
    decide +kernel

/-- A comment behind the amount does no harm. -/
theorem insertions_harmless_example :
    let nodes := [.text "100", .comment " CAD "]
    let parseXml := amountParseXml [("100", [.text "100"]), ("100<!-- CAD -->", nodes)]
    TextsSpared (amountDocument [.text "100"]) (amountDocument nodes) ∧
      parsePacs008CreditTransfer parseXml (amountMessage "100<!-- CAD -->") =
        .ok (amountTransfer 100) := by
  intro nodes parseXml
  have hinserted : Inserted [.text "100"] nodes := .keep _ (.insert (.comment " CAD ") .nil)
  have hne : amountMessage "100<!-- CAD -->" ≠ amountMessage "100" := by decide +kernel
  have hplain : parseXml (amountMessage "100") = .ok (amountDocument [.text "100"]) := by
    simp [parseXml, amountParseXml]
  have hcommented : parseXml (amountMessage "100<!-- CAD -->") = .ok (amountDocument nodes) := by
    simp [parseXml, amountParseXml, hne]
  have hparsed : parsePacs008CreditTransfer parseXml (amountMessage "100") =
      .ok (amountTransfer 100) := by
    rw [parsePacs008CreditTransfer_of_document (amountMessage_not_blank _) hplain]
    decide +kernel
  have hparsed' : parsePacs008CreditTransfer parseXml (amountMessage "100<!-- CAD -->") =
      .ok (amountTransfer 100) := by
    rw [parsePacs008CreditTransfer_of_document (amountMessage_not_blank _) hcommented]
    decide +kernel
  have hiff := insertions_harmless_iff (amountParseXml_not_blank _) hplain hcommented
    (amountDocument_inserted hinserted) hparsed
  exact ⟨hiff.mp hparsed', hparsed'⟩

end KaniNetwork
