/-
KaniNetwork.Iso20022.Pacs008 — reading a pacs.008 credit transfer
(`kani-iso20022`).

The XML parser is a library outside the repository: `parseXml` is a
parameter, and what it returns is the tree its nodes present: elements with
local names and attributes, texts, comments and processing instructions in
document order. The reads of the source (`children`, `text`, `attribute`,
`descendants`) are functions on that tree.
-/
import Mathlib.Algebra.Ring.Int.Defs
import KaniNetwork.Base.Result
import KaniNetwork.Base.Text

namespace KaniNetwork

inductive Iso20022Error where
  | unsupportedMessageType (messageType : String)
  | emptyMessage
  | invalidXml (error : String)
  | missingField (field : String)
  | unsupportedTransactionCount (count : Nat)
  | invalidAmount
  deriving DecidableEq, Repr

/-- The `Display` text of an error. -/
def Iso20022Error.message : Iso20022Error → String
  | .unsupportedMessageType messageType => "unsupported ISO 20022 message type: " ++ messageType
  | .emptyMessage => "message body is empty"
  | .invalidXml error => "invalid XML: " ++ error
  | .missingField field => "pacs.008 field " ++ field ++ " is required"
  | .unsupportedTransactionCount count =>
    "pacs.008 requires exactly one CdtTrfTxInf transaction, got " ++ toString count
  | .invalidAmount => "pacs.008 amount must be a positive integer in minor units"

structure Pacs008CreditTransfer where
  messageId : String
  instructionId : Option String
  endToEndId : String
  debtorAccount : String
  creditorAccount : String
  asset : String
  amount : Int
  deriving DecidableEq, Repr

/-! ## The tree -/

/-- An attribute with its namespace, if it has one, and its local name. -/
structure XmlAttribute where
  ns : Option String
  name : String
  value : String
  deriving DecidableEq, Repr

inductive XmlNode where
  | element (name : String) (attributes : List XmlAttribute) (children : List XmlNode)
  | text (text : String)
  | comment (text : String)
  | processingInstruction (target : String) (value : Option String)

/-- A parsed document: its root element, and the comments and processing
instructions around it. -/
structure XmlDocument where
  before : List XmlNode
  rootName : String
  rootAttributes : List XmlAttribute
  rootChildren : List XmlNode
  after : List XmlNode

namespace XmlNode

/-- `is_element() && tag_name().name() == name`. -/
def isElementNamed (name : String) : XmlNode → Bool
  | .element name' _ _ => name' = name
  | _ => false

def children : XmlNode → List XmlNode
  | .element _ _ children => children
  | _ => []

/-- `text()`: of an element, the text of its first child if that is a text
node. -/
def textOf : XmlNode → Option String
  | .element _ _ (.text s :: _) => some s
  | .element .. => none
  | .text s => some s
  | .comment s => some s
  | .processingInstruction .. => none

/-- `attribute(name)`, a keyword here; the name is one without namespace. -/
def attributeValue (node : XmlNode) (name : String) : Option String :=
  match node with
  | .element _ attributes _ =>
    (attributes.find? fun a => a.ns = none ∧ a.name = name).map XmlAttribute.value
  | _ => none

mutual

/-- `descendants()`: the node and what is below it, in document order. -/
def descendants : XmlNode → List XmlNode
  | .element name attributes children =>
    .element name attributes children :: descendantsList children
  | node => [node]

def descendantsList : List XmlNode → List XmlNode
  | [] => []
  | node :: nodes => descendants node ++ descendantsList nodes

end

end XmlNode

namespace XmlDocument

def rootElement (document : XmlDocument) : XmlNode :=
  .element document.rootName document.rootAttributes document.rootChildren

/-- `descendants()`; the document node itself is no element and left out. -/
def descendants (document : XmlDocument) : List XmlNode :=
  XmlNode.descendantsList (document.before ++ document.rootElement :: document.after)

end XmlDocument

/-! ## The message -/

/-- `first_child`: the first element of each name in turn. -/
def firstChild (node : XmlNode) : List String → Option XmlNode
  | [] => some node
  | name :: path =>
    (node.children.find? (XmlNode.isElementNamed name)).bind fun child => firstChild child path

/-- A text trimmed, unless nothing is left of it. -/
def nonEmptyTrimmed (text : String) : Option String :=
  if (trim text).isEmpty then none else some (trim text)

/-- `child_text`. -/
def childText (node : XmlNode) (path : List String) : Option String :=
  (firstChild node path).bind fun child => child.textOf.bind nonEmptyTrimmed

/-- `ok_or(Iso20022Error::MissingField(field))`. -/
def orMissing {α : Type} (field : String) : Option α → Except Iso20022Error α
  | some a => .ok a
  | none => .error (.missingField field)

/-- `required_child_text`. -/
def requiredChildText (node : XmlNode) (path : List String) (field : String) :
    Except Iso20022Error String :=
  orMissing field (childText node path)

/-- `parse::<i128>()` of decimal digits: none past the largest value. -/
def parseI128 (digits : List Char) : Option Int :=
  let n := digits.foldl (fun n c => 10 * n + (c.toNat - '0'.toNat)) 0
  if n < 2 ^ 127 then some n else none

/-- `parse_minor_units`. -/
def parseMinorUnits (value : String) : Except Iso20022Error Int :=
  let digits := (trim value).toList
  if digits.isEmpty ∨ ¬ digits.all Char.isDigit ∨ (digits.head? = some '0' ∧ 1 < digits.length) then
    .error .invalidAmount
  else
    match parseI128 digits with
    | none => .error .invalidAmount
    | some amount => if amount ≤ 0 then .error .invalidAmount else .ok amount

/-- `parse_pacs008_credit_transfer`. -/
def parsePacs008CreditTransfer (parseXml : String → Except String XmlDocument)
    (rawXml : String) : Except Iso20022Error Pacs008CreditTransfer := do
  if (trim rawXml).isEmpty then .error .emptyMessage
  else
    let document ← (parseXml rawXml).mapError .invalidXml
    let messageId ← requiredChildText document.rootElement
      ["FIToFICstmrCdtTrf", "GrpHdr", "MsgId"] "GrpHdr/MsgId"
    match document.descendants.filter (XmlNode.isElementNamed "CdtTrfTxInf") with
    | [transaction] =>
      let instructionId := childText transaction ["PmtId", "InstrId"]
      let endToEndId ←
        requiredChildText transaction ["PmtId", "EndToEndId"] "PmtId/EndToEndId"
      let amountNode ← orMissing "IntrBkSttlmAmt"
        ((firstChild transaction ["IntrBkSttlmAmt"]).or (firstChild transaction ["InstdAmt"]))
      let asset ← orMissing "IntrBkSttlmAmt/@Ccy"
        ((amountNode.attributeValue "Ccy").bind nonEmptyTrimmed)
      let amount ← parseMinorUnits (amountNode.textOf.getD "")
      let debtorAccount ← orMissing "DbtrAcct/Id/Othr/Id"
        ((childText transaction ["DbtrAcct", "Id", "Othr", "Id"]).or
          (childText transaction ["Dbtr", "Id", "OrgId", "Othr", "Id"]))
      let creditorAccount ← orMissing "CdtrAcct/Id/Othr/Id"
        ((childText transaction ["CdtrAcct", "Id", "Othr", "Id"]).or
          (childText transaction ["Cdtr", "Id", "OrgId", "Othr", "Id"]))
      return {
        messageId := messageId
        instructionId := instructionId
        endToEndId := endToEndId
        debtorAccount := debtorAccount
        creditorAccount := creditorAccount
        asset := asset
        amount := amount }
    | transactions => .error (.unsupportedTransactionCount transactions.length)

/-! ## Accepted messages are well formed -/

/-- No required text of the transfer is empty, and its amount is a positive
`i128`. -/
structure Pacs008CreditTransfer.WellFormed (transfer : Pacs008CreditTransfer) : Prop where
  messageId : transfer.messageId.isEmpty = false
  endToEndId : transfer.endToEndId.isEmpty = false
  debtorAccount : transfer.debtorAccount.isEmpty = false
  creditorAccount : transfer.creditorAccount.isEmpty = false
  asset : transfer.asset.isEmpty = false
  amount : 0 < transfer.amount ∧ transfer.amount < 2 ^ 127

theorem orMissing_eq_ok_iff {α : Type} {field : String} {o : Option α} {a : α} :
    orMissing field o = .ok a ↔ o = some a := by
  cases o <;> simp [orMissing]

theorem nonEmptyTrimmed_nonEmpty {text s : String} (h : nonEmptyTrimmed text = some s) :
    s.isEmpty = false := by
  unfold nonEmptyTrimmed at h
  split at h
  · cases h
  · rename_i hne
    cases h
    simpa using hne

theorem nonEmptyTrimmed_trimmed {text s : String} (h : nonEmptyTrimmed text = some s) :
    trim s = s := by
  unfold nonEmptyTrimmed at h
  split at h
  · cases h
  · cases h
    exact trim_trim text

/-- A child text is a text trimmed. -/
theorem childText_eq_some {node : XmlNode} {path : List String} {s : String}
    (h : childText node path = some s) : ∃ text, nonEmptyTrimmed text = some s := by
  obtain ⟨child, -, h⟩ := Option.bind_eq_some_iff.mp h
  obtain ⟨text, -, h⟩ := Option.bind_eq_some_iff.mp h
  exact ⟨text, h⟩

theorem childText_nonEmpty {node : XmlNode} {path : List String} {s : String}
    (h : childText node path = some s) : s.isEmpty = false := by
  obtain ⟨text, h⟩ := childText_eq_some h
  exact nonEmptyTrimmed_nonEmpty h

theorem childText_trimmed {node : XmlNode} {path : List String} {s : String}
    (h : childText node path = some s) : trim s = s := by
  obtain ⟨text, h⟩ := childText_eq_some h
  exact nonEmptyTrimmed_trimmed h

theorem parseMinorUnits_bounds {value : String} {amount : Int}
    (h : parseMinorUnits value = .ok amount) : 0 < amount ∧ amount < 2 ^ 127 := by
  simp only [parseMinorUnits] at h
  split at h
  · cases h
  split at h
  · cases h
  rename_i n hparse
  split at h
  · cases h
  rename_i hpos
  cases h
  refine ⟨not_le.mp hpos, ?_⟩
  simp only [parseI128] at hparse
  split at hparse
  · rename_i hlt
    cases hparse
    exact_mod_cast hlt
  · cases hparse

/-- Where the fields of the transfer were read in the document. -/
structure Pacs008CreditTransfer.ReadFrom (transfer : Pacs008CreditTransfer)
    (document : XmlDocument) (transaction amountNode : XmlNode) : Prop where
  messageId : childText document.rootElement ["FIToFICstmrCdtTrf", "GrpHdr", "MsgId"] =
    some transfer.messageId
  transactions : document.descendants.filter (XmlNode.isElementNamed "CdtTrfTxInf") = [transaction]
  instructionId : childText transaction ["PmtId", "InstrId"] = transfer.instructionId
  endToEndId : childText transaction ["PmtId", "EndToEndId"] = some transfer.endToEndId
  amountElement :
    (firstChild transaction ["IntrBkSttlmAmt"]).or (firstChild transaction ["InstdAmt"]) =
      some amountNode
  asset : (amountNode.attributeValue "Ccy").bind nonEmptyTrimmed = some transfer.asset
  amount : parseMinorUnits (amountNode.textOf.getD "") = .ok transfer.amount
  debtorAccount : (childText transaction ["DbtrAcct", "Id", "Othr", "Id"]).or
    (childText transaction ["Dbtr", "Id", "OrgId", "Othr", "Id"]) = some transfer.debtorAccount
  creditorAccount : (childText transaction ["CdtrAcct", "Id", "Othr", "Id"]).or
    (childText transaction ["Cdtr", "Id", "OrgId", "Othr", "Id"]) = some transfer.creditorAccount

/-- A message is accepted as the transfer that is read from its tree. -/
theorem parsePacs008CreditTransfer_eq_ok_iff
    {parseXml : String → Except String XmlDocument} {rawXml : String}
    {transfer : Pacs008CreditTransfer} :
    parsePacs008CreditTransfer parseXml rawXml = .ok transfer ↔
      (trim rawXml).isEmpty = false ∧ ∃ document transaction amountNode,
        parseXml rawXml = .ok document ∧ transfer.ReadFrom document transaction amountNode := by
  unfold parsePacs008CreditTransfer
  split
  · rename_i hblank
    simp only [hblank, reduceCtorEq, Bool.true_eq_false, false_and]
  rename_i hblank
  simp only [Bool.not_eq_true] at hblank
  simp only [hblank, true_and, bind_eq_ok_iff, requiredChildText, orMissing_eq_ok_iff,
    mapError_eq_ok_iff]
  constructor
  · intro h
    obtain ⟨document, hdocument, messageId, hmessageId, h⟩ := h
    split at h
    · rename_i transaction htransaction
      simp only [bind_eq_ok_iff, orMissing_eq_ok_iff] at h
      obtain ⟨endToEndId, hendToEndId, amountNode, hamountNode, asset, hasset, amount, hamount,
        debtorAccount, hdebtor, creditorAccount, hcreditor, hret⟩ := h
      cases hret
      exact ⟨document, transaction, amountNode, hdocument, {
        messageId := hmessageId
        transactions := htransaction
        instructionId := rfl
        endToEndId := hendToEndId
        amountElement := hamountNode
        asset := hasset
        amount := hamount
        debtorAccount := hdebtor
        creditorAccount := hcreditor }⟩
    · cases h
  · intro h
    obtain ⟨document, transaction, amountNode, hdocument, hread⟩ := h
    refine ⟨document, hdocument, transfer.messageId, hread.messageId, ?_⟩
    simp only [hread.transactions, bind_eq_ok_iff, orMissing_eq_ok_iff]
    refine ⟨_, hread.endToEndId, _, hread.amountElement, _, hread.asset, _, hread.amount,
      _, hread.debtorAccount, _, hread.creditorAccount, ?_⟩
    rw [hread.instructionId]
    rfl

theorem parsePacs008CreditTransfer_eq_ok
    {parseXml : String → Except String XmlDocument} {rawXml : String}
    {transfer : Pacs008CreditTransfer}
    (h : parsePacs008CreditTransfer parseXml rawXml = .ok transfer) :
    ∃ document transaction amountNode, parseXml rawXml = .ok document ∧
      transfer.ReadFrom document transaction amountNode :=
  (parsePacs008CreditTransfer_eq_ok_iff.mp h).2

/-- All that matters of a message that is not blank is its tree. -/
theorem parsePacs008CreditTransfer_of_document
    {parseXml : String → Except String XmlDocument} {rawXml : String} {document : XmlDocument}
    (hblank : (trim rawXml).isEmpty = false) (h : parseXml rawXml = .ok document) :
    parsePacs008CreditTransfer parseXml rawXml =
      parsePacs008CreditTransfer (fun _ => .ok document) "<" := by
  have hblank' : (trim "<").isEmpty = false := by decide
  unfold parsePacs008CreditTransfer
  rw [hblank, hblank', h]

theorem parsePacs008CreditTransfer_wellFormed
    {parseXml : String → Except String XmlDocument} {rawXml : String}
    {transfer : Pacs008CreditTransfer}
    (h : parsePacs008CreditTransfer parseXml rawXml = .ok transfer) : transfer.WellFormed := by
  obtain ⟨document, transaction, amountNode, -, hread⟩ := parsePacs008CreditTransfer_eq_ok h
  have hor {a b : Option String} {s : String} (ha : ∀ s, a = some s → s.isEmpty = false)
      (hb : ∀ s, b = some s → s.isEmpty = false) (hs : a.or b = some s) : s.isEmpty = false := by
    rcases Option.or_eq_some_iff.mp hs with hs | ⟨-, hs⟩
    · exact ha s hs
    · exact hb s hs
  obtain ⟨ccy, -, hasset⟩ := Option.bind_eq_some_iff.mp hread.asset
  exact {
    messageId := childText_nonEmpty hread.messageId
    endToEndId := childText_nonEmpty hread.endToEndId
    debtorAccount :=
      hor (fun _ => childText_nonEmpty) (fun _ => childText_nonEmpty) hread.debtorAccount
    creditorAccount :=
      hor (fun _ => childText_nonEmpty) (fun _ => childText_nonEmpty) hread.creditorAccount
    asset := nonEmptyTrimmed_nonEmpty hasset
    amount := parseMinorUnits_bounds hread.amount }

/-- The identifiers of an accepted message are trimmed. -/
theorem parsePacs008CreditTransfer_trimmed
    {parseXml : String → Except String XmlDocument} {rawXml : String}
    {transfer : Pacs008CreditTransfer}
    (h : parsePacs008CreditTransfer parseXml rawXml = .ok transfer) :
    trim transfer.messageId = transfer.messageId ∧
      trim transfer.endToEndId = transfer.endToEndId := by
  obtain ⟨document, transaction, amountNode, -, hread⟩ := parsePacs008CreditTransfer_eq_ok h
  exact ⟨childText_trimmed hread.messageId, childText_trimmed hread.endToEndId⟩

end KaniNetwork
