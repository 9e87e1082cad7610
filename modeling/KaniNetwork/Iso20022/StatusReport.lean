/-
KaniNetwork.Iso20022.StatusReport — when a pacs.002 report is well-formed
XML.

The markup is always in order: every line of `build_pacs002_status_report`
opens an element, closes the innermost one or is an element with an escaped
value, whatever the values are (`document_pacs002`). The characters are
those of the values, as escaping takes no character out: the report has
only characters that XML 1.0 allows when the values have
(`characters_pacs002_iff`).
-/
import KaniNetwork.Base.Decimal
import KaniNetwork.Base.Markup
import KaniNetwork.Iso20022.Escaping

namespace KaniNetwork

/-- Only characters that XML 1.0 allows. -/
def PlainXml (s : String) : Prop := ∀ c ∈ s.toList, isXmlChar c = true

theorem plainXml_iff_all {s : String} : s.toList.all isXmlChar = true ↔ PlainXml s := List.all_eq_true

instance (s : String) : Decidable (PlainXml s) := decidable_of_iff _ plainXml_iff_all

/-! ## Escaped values -/

/-- What a table spells is escaped, when its entities are references and
cover the barred characters. -/
theorem escaped_encode {t : EntityTable Char} {barred : List Char}
    (hreferences : ∀ e ∈ t.entities, e.2 ∈ xmlReferences) (hamp : '&' ∈ t.entities.map Prod.fst)
    (hbarred : ∀ c ∈ barred, c ∈ t.entities.map Prod.fst) (xs : List Char) :
    Escaped barred (t.encode xs) := by
  induction xs with
  | nil => exact .nil
  | cons x xs ih =>
    rw [EntityTable.encode_cons]
    rcases t.spell_cases x with ⟨hfree, hspell⟩ | ⟨e, he, -, hspell⟩
    · rw [hspell]
      exact .char x (fun h => hfree (h ▸ hamp)) (fun h => hfree (hbarred x h)) ih
    · rw [hspell]
      exact .reference (hreferences e he) ih

theorem escaped_escapeXmlText (s : String) : Escaped ['<', '>'] (escapeXmlText s).toList := by
  rw [escapeXmlText_toList]
  exact escaped_encode (by decide) (by decide) (by simp [textEntities]) s.toList

theorem escaped_escapeXmlAttribute (s : String) :
    Escaped ['<', '"'] (escapeXmlAttribute s).toList := by
  rw [escapeXmlAttribute_toList]
  exact escaped_encode (by decide) (by decide) (by simp [attributeEntities, textEntities]) s.toList

theorem escaped_toString (n : Int) : Escaped ['<', '>'] (toString n).toList := by
  have hchar {c : Char} (hc : c ∈ (toString n).toList) : c ∉ ['&', '<', '>'] := by
    intro hbarred
    simp only [List.mem_cons, List.not_mem_nil, or_false] at hbarred
    rcases isDigit_or_of_mem_toString hc with hdigit | rfl
    · rcases hbarred with rfl | rfl | rfl <;> cases hdigit
    · rcases hbarred with h | h | h <;> cases h
  refine .of_plain (fun h => hchar h List.mem_cons_self) fun c hc hbarred => hchar hc ?_
  exact List.mem_cons_of_mem '&' hbarred

/-- A table keeps the characters of a text within a class that has its
entities and what they stand for. -/
theorem forall_mem_encode {t : EntityTable Char} {p : Char → Bool}
    (hentities : ∀ e ∈ t.entities, p e.1 = true ∧ e.2.all p = true) (xs : List Char) :
    (∀ c ∈ t.encode xs, p c = true) ↔ ∀ c ∈ xs, p c = true := by
  constructor
  · intro h c hc
    rcases t.spell_cases c with ⟨-, hspell⟩ | ⟨e, he, rfl, -⟩
    · refine h c (List.mem_flatMap.mpr ⟨c, hc, ?_⟩)
      rw [hspell]
      exact List.mem_singleton_self c
    · exact (hentities e he).1
  · intro h c hc
    rcases EntityTable.mem_encode hc with ⟨hmem, -⟩ | ⟨e, he, -, hmem⟩
    · exact h c hmem
    · exact List.all_eq_true.mp (hentities e he).2 c hmem

theorem plainXml_escapeXmlText (s : String) : PlainXml (escapeXmlText s) ↔ PlainXml s := by
  unfold PlainXml
  rw [escapeXmlText_toList]
  exact forall_mem_encode (by decide) s.toList

theorem plainXml_escapeXmlAttribute (s : String) :
    PlainXml (escapeXmlAttribute s) ↔ PlainXml s := by
  unfold PlainXml
  rw [escapeXmlAttribute_toList]
  exact forall_mem_encode (by decide) s.toList

/-! ## Lines -/

theorem isXmlSpace_of_mem_spaces {indent : Nat} {c : Char} (h : c ∈ (spaces indent).toList) :
    isXmlSpace c = true := by
  rw [spaces, String.toList_ofList] at h
  rw [List.eq_of_mem_replicate h]
  rfl

theorem isXmlSpace_newline : ∀ c ∈ ['\n'], isXmlSpace c = true := List.all_eq_true.mp rfl

/-- Read line by line. -/
def ReadsLines (s : List (List Char)) (lines : List String) (s' : List (List Char)) : Prop :=
  Reads s (lines.flatMap String.toList) s'

namespace ReadsLines

variable {s s' s'' : List (List Char)} {outer : List Char} {lines lines' : List String}

theorem nil : ReadsLines s [] s := Reads.nil s

theorem append (h : ReadsLines s lines s') (h' : ReadsLines s' lines' s'') :
    ReadsLines s (lines ++ lines') s'' := by
  unfold ReadsLines
  rw [List.flatMap_append]
  exact Reads.append h h'

/-- An indented line. -/
theorem line {line : String} (indent : Nat) {text : List Char}
    (hline : line.toList = (spaces indent).toList ++ (text ++ ['\n'])) (htext : Reads s text s')
    (h : ReadsLines s' lines s'') : ReadsLines s (line :: lines) s'' := by
  unfold ReadsLines
  rw [List.flatMap_cons, hline]
  refine Reads.append ?_ h
  exact (Reads.of_space fun _ => isXmlSpace_of_mem_spaces).append
    (htext.append (Reads.of_space isXmlSpace_newline))

theorem newline (h : ReadsLines s lines s') : ReadsLines s ("\n" :: lines) s' :=
  .line 0 (by decide) (.nil s) h

/-- A line that opens an element without attributes. -/
theorem opens {line : String} (indent : Nat) (name : String)
    (hline : line.toList = (spaces indent).toList ++ (openingTag name.toList [] ++ ['\n']))
    (hname : isXmlName name.toList = true) (h : ReadsLines (name.toList :: outer :: s) lines s') :
    ReadsLines (outer :: s) (line :: lines) s' :=
  .line indent hline (Reads.openingTag hname .nil) h

/-- A line that closes the innermost element. -/
theorem closes {line : String} (indent : Nat) (name : String)
    (hline : line.toList = (spaces indent).toList ++ (closingTag name.toList ++ ['\n']))
    (h : ReadsLines s lines s') : ReadsLines (name.toList :: s) (line :: lines) s' :=
  .line indent hline Reads.closingTag h

/-- A line with a value is balanced, whatever the value is. -/
theorem element {indent : Nat} {name value : String} (hname : isXmlName name.toList = true)
    (h : ReadsLines (outer :: s) lines s') :
    ReadsLines (outer :: s) (elementLine indent name value :: lines) s' := by
  refine .line indent ?_ (Reads.element hname .nil (escaped_escapeXmlText value)) h
  simp [elementLine, openingTag, closingTag]

theorem amount {indent : Nat} {name asset : String} {amount : Int}
    (hname : isXmlName name.toList = true) (h : ReadsLines (outer :: s) lines s') :
    ReadsLines (outer :: s) (amountElementLine indent name asset amount :: lines) s' := by
  have hattributes : Attributes ["Ccy".toList]
      (' ' :: ("Ccy".toList ++ '=' :: '"' :: ((escapeXmlAttribute asset).toList ++ ['"']))) :=
    .cons (by decide) (by decide) (escaped_escapeXmlAttribute asset) .nil
  refine .line indent ?_ (Reads.element hname hattributes (escaped_toString amount)) h
  simp [amountElementLine, openingTag, closingTag]

end ReadsLines

/-! ## The report -/

/-- The lines of a reason are balanced. -/
theorem readsLines_statusReason (outer : List Char) (s : List (List Char)) (reason : Option String) :
    ReadsLines (outer :: s) (statusReasonLines reason) (outer :: s) := by
  unfold statusReasonLines
  cases reason with
  | none => exact .nil
  | some reason =>
    dsimp only
    split
    · exact .nil
    · refine .opens 6 "StsRsnInf" (by decide) (by decide) ?_
      refine .opens 8 "Rsn" (by decide) (by decide) ?_
      refine .element (by decide) ?_
      refine .closes 8 "Rsn" (by decide) ?_
      refine .element (by decide) ?_
      exact .closes 6 "StsRsnInf" (by decide) .nil

/-- The name space attribute of the root. -/
def pacs002Namespace : List Char :=
  ' ' :: ("xmlns".toList ++ '=' :: '"' ::
    ("urn:iso:std:iso:20022:tech:xsd:pacs.002.001.10".toList ++ ['"']))

theorem attributes_pacs002Namespace : Attributes ["xmlns".toList] pacs002Namespace :=
  .cons (by decide) (by decide) (.of_plain (by decide) (by simp)) .nil

/-- A document line by line, the declaration and the root first. -/
theorem document_of_lines {lines : List String}
    (h : ReadsLines ["Document".toList] lines []) :
    Document (("<?xml version=\"1.0\" encoding=\"UTF-8\"?>" :: "\n" ::
      "<Document xmlns=\"urn:iso:std:iso:20022:tech:xsd:pacs.002.001.10\">" :: lines).flatMap
        String.toList) := by
  have hroot : "<Document xmlns=\"urn:iso:std:iso:20022:tech:xsd:pacs.002.001.10\">".toList =
      openingTag "Document".toList pacs002Namespace := by decide
  rw [List.flatMap_cons, List.flatMap_cons, List.flatMap_cons, hroot]
  exact .mk isXmlSpace_newline (by decide) attributes_pacs002Namespace h

/-- **The markup of a report is in order**, whatever its values are. -/
theorem document_pacs002 (status : Pacs002PaymentStatus) :
    Document (buildPacs002StatusReport status).toList := by
  rw [buildPacs002StatusReport, String.toList_join]
  simp only [List.cons_append, List.nil_append]
  refine document_of_lines ?_
  refine .newline ?_
  refine .opens 2 "FIToFIPmtStsRpt" (by decide) (by decide) ?_
  refine .opens 4 "GrpHdr" (by decide) (by decide) ?_
  refine .element (by decide) (.element (by decide) ?_)
  refine .closes 4 "GrpHdr" (by decide) ?_
  refine .opens 4 "OrgnlGrpInfAndSts" (by decide) (by decide) ?_
  refine .element (by decide) (.element (by decide) ?_)
  refine .closes 4 "OrgnlGrpInfAndSts" (by decide) ?_
  refine .opens 4 "TxInfAndSts" (by decide) (by decide) ?_
  refine .element (by decide) (.element (by decide) (.element (by decide) (.element (by decide) ?_)))
  refine .append (readsLines_statusReason _ _ status.statusReason) ?_
  refine .opens 6 "OrgnlTxRef" (by decide) (by decide) (.amount (by decide) ?_)
  refine .opens 8 "DbtrAcct" (by decide) (by decide) ?_
  refine .opens 10 "Id" (by decide) (by decide) ?_
  refine .opens 12 "Othr" (by decide) (by decide) (.element (by decide) ?_)
  refine .closes 12 "Othr" (by decide) (.closes 10 "Id" (by decide) ?_)
  refine .closes 8 "DbtrAcct" (by decide) ?_
  refine .opens 8 "CdtrAcct" (by decide) (by decide) ?_
  refine .opens 10 "Id" (by decide) (by decide) ?_
  refine .opens 12 "Othr" (by decide) (by decide) (.element (by decide) ?_)
  refine .closes 12 "Othr" (by decide) (.closes 10 "Id" (by decide) ?_)
  refine .closes 8 "CdtrAcct" (by decide) ?_
  refine .closes 6 "OrgnlTxRef" (by decide) (.closes 4 "TxInfAndSts" (by decide) ?_)
  refine .closes 2 "FIToFIPmtStsRpt" (by decide) ?_
  exact .closes 0 "Document" (by decide) .nil

/-! ## Characters -/

theorem plainXml_append {a b : String} : PlainXml (a ++ b) ↔ PlainXml a ∧ PlainXml b := by
  unfold PlainXml
  rw [String.toList_append, List.forall_mem_append]

theorem plainXml_join {lines : List String} :
    PlainXml (String.join lines) ↔ ∀ line ∈ lines, PlainXml line := by
  unfold PlainXml
  rw [String.toList_join]
  constructor
  · intro h line hline c hc
    exact h c (List.mem_flatMap.mpr ⟨line, hline, hc⟩)
  · intro h c hc
    obtain ⟨line, hline, hmem⟩ := List.mem_flatMap.mp hc
    exact h line hline c hmem

theorem plainXml_spaces (indent : Nat) : PlainXml (spaces indent) := by
  intro c hc
  rw [spaces, String.toList_ofList] at hc
  rw [List.eq_of_mem_replicate hc]
  rfl

theorem plainXml_toString (n : Int) : PlainXml (toString n) := by
  intro c hc
  rcases isDigit_or_of_mem_toString hc with hdigit | rfl
  · have hbounds := toNat_of_isDigit hdigit
    simp only [isXmlChar, Bool.or_eq_true, Bool.and_eq_true, decide_eq_true_eq]
    omega
  · rfl

/-- A line has the characters of its value. -/
theorem plainXml_elementLine {indent : Nat} {name value : String} (hname : PlainXml name) :
    PlainXml (elementLine indent name value) ↔ PlainXml value := by
  have hopen : PlainXml "<" := by decide
  have hend : PlainXml ">" := by decide
  have hclose : PlainXml "</" := by decide
  have hnewline : PlainXml ">\n" := by decide
  simp only [elementLine, plainXml_append, plainXml_spaces, plainXml_escapeXmlText, hname, hopen,
    hend, hclose, hnewline, true_and, and_true]

theorem plainXml_amountElementLine {indent : Nat} {name asset : String} {amount : Int}
    (hname : PlainXml name) :
    PlainXml (amountElementLine indent name asset amount) ↔ PlainXml asset := by
  have hopen : PlainXml "<" := by decide
  have hcurrency : PlainXml " Ccy=\"" := by decide
  have hend : PlainXml "\">" := by decide
  have hclose : PlainXml "</" := by decide
  have hnewline : PlainXml ">\n" := by decide
  simp only [amountElementLine, plainXml_append, plainXml_spaces, plainXml_escapeXmlAttribute,
    plainXml_toString, hname, hopen, hcurrency, hend, hclose, hnewline, true_and, and_true]

/-- The values of a report that are texts; a reason counts as it is
trimmed. -/
structure Pacs002PaymentStatus.Plain (status : Pacs002PaymentStatus) : Prop where
  messageId : PlainXml status.messageId
  createdAt : PlainXml status.createdAt
  originalMessageId : PlainXml status.originalMessageId
  originalMessageNameId : PlainXml status.originalMessageNameId
  originalInstructionId : PlainXml status.originalInstructionId
  originalEndToEndId : PlainXml status.originalEndToEndId
  transactionId : PlainXml status.transactionId
  statusReason : ∀ reason, status.statusReason = some reason → PlainXml (trim reason)
  asset : PlainXml status.asset
  debtorAccount : PlainXml status.debtorAccount
  creditorAccount : PlainXml status.creditorAccount

theorem plain_statusReasonLines (reason : Option String) :
    (∀ line ∈ statusReasonLines reason, PlainXml line) ↔
      ∀ text, reason = some text → PlainXml (trim text) := by
  cases reason with
  | none =>
    refine ⟨fun _ text h => (by cases h), fun _ line hline => ?_⟩
    exact absurd hline List.not_mem_nil
  | some reason =>
    simp only [statusReasonLines, Option.some.injEq, forall_eq']
    split
    · rename_i hblank
      have hempty : trim reason = "" := String.isEmpty_iff.mp hblank
      rw [hempty]
      exact ⟨fun _ => by decide, fun _ line hline => absurd hline List.not_mem_nil⟩
    · simp +decide only [List.forall_mem_cons, plainXml_elementLine, true_and, and_true]

/-- The report has only characters that XML allows when its values have. -/
theorem characters_pacs002_iff (status : Pacs002PaymentStatus) :
    PlainXml (buildPacs002StatusReport status) ↔ status.Plain := by
  have hcode : PlainXml status.status.code := by
    cases status.status <;> decide
  rw [buildPacs002StatusReport, plainXml_join]
  simp +decide only [List.forall_mem_append, List.forall_mem_cons, plainXml_elementLine,
    plainXml_amountElementLine, plain_statusReasonLines, hcode, true_and, and_true]
  constructor
  · rintro ⟨⟨⟨h1, h2, h3, h4, h5, h6, h7⟩, h8⟩, h9, h10, h11⟩
    exact ⟨h1, h2, h3, h4, h5, h6, h7, h8, h9, h10, h11⟩
  · intro h
    exact ⟨⟨⟨h.messageId, h.createdAt, h.originalMessageId, h.originalMessageNameId,
      h.originalInstructionId, h.originalEndToEndId, h.transactionId⟩, h.statusReason⟩, h.asset,
      h.debtorAccount, h.creditorAccount⟩

/-- **A report is well-formed XML when its values have only characters that
XML allows.** -/
theorem wellFormed_pacs002_iff (status : Pacs002PaymentStatus) :
    WellFormed (buildPacs002StatusReport status).toList ↔ status.Plain := by
  rw [← characters_pacs002_iff]
  exact ⟨fun h => h.characters, fun h => ⟨document_pacs002 status, h⟩⟩

end KaniNetwork
