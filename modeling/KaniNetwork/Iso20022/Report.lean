/-
KaniNetwork.Iso20022.Report — the pacs.002 status report and the camt.053
statement as XML (`kani-iso20022`).

The source pushes text on a string, line by line. A line with a value is
`elementLine` or `amountElementLine`; the values are escaped there and
nowhere else. A document is its lines put together in the order in which the
source pushes them.
-/
import KaniNetwork.Base.Text

namespace KaniNetwork

/-! ## Lines -/

/-- `replace` of one character by a text. -/
def replaceChar (s : String) (c : Char) (replacement : String) : String :=
  String.ofList (s.toList.flatMap fun x => if x = c then replacement.toList else [x])

/-- `escape_xml_text`. -/
def escapeXmlText (value : String) : String :=
  replaceChar (replaceChar (replaceChar value '&' "&amp;") '<' "&lt;") '>' "&gt;"

/-- `escape_xml_attribute`. -/
def escapeXmlAttribute (value : String) : String :=
  replaceChar (replaceChar (escapeXmlText value) '"' "&quot;") '\'' "&apos;"

/-- `" ".repeat(indent)`. -/
def spaces (indent : Nat) : String := String.ofList (List.replicate indent ' ')

/-- What `push_element` appends. -/
def elementLine (indent : Nat) (name value : String) : String :=
  spaces indent ++ "<" ++ name ++ ">" ++ escapeXmlText value ++ "</" ++ name ++ ">\n"

/-- What `push_amount_element` appends. -/
def amountElementLine (indent : Nat) (name asset : String) (amount : Int) : String :=
  spaces indent ++ "<" ++ name ++ " Ccy=\"" ++ escapeXmlAttribute asset ++ "\">"
    ++ toString amount ++ "</" ++ name ++ ">\n"

/-! ## pacs.002 -/

inductive Pacs002TransactionStatus where
  | acceptedSettlementCompleted | acceptedSettlementInProcess | rejected
  deriving DecidableEq, Repr

def Pacs002TransactionStatus.code : Pacs002TransactionStatus → String
  | .acceptedSettlementCompleted => "ACSC"
  | .acceptedSettlementInProcess => "ACSP"
  | .rejected => "RJCT"

structure Pacs002PaymentStatus where
  messageId : String
  createdAt : String
  originalMessageId : String
  originalMessageNameId : String
  originalInstructionId : String
  originalEndToEndId : String
  transactionId : String
  status : Pacs002TransactionStatus
  statusReason : Option String
  asset : String
  amount : Int
  debtorAccount : String
  creditorAccount : String
  deriving DecidableEq, Repr

/-- The lines of a status reason, none when it is blank. -/
def statusReasonLines (statusReason : Option String) : List String :=
  match statusReason with
  | none => []
  | some reason =>
    if (trim reason).isEmpty then []
    else
      ["      <StsRsnInf>\n", "        <Rsn>\n", elementLine 10 "Prtry" "KANI_SANDBOX",
        "        </Rsn>\n", elementLine 8 "AddtlInf" (trim reason), "      </StsRsnInf>\n"]

/-- `build_pacs002_status_report`. -/
def buildPacs002StatusReport (status : Pacs002PaymentStatus) : String :=
  String.join (
    ["<?xml version=\"1.0\" encoding=\"UTF-8\"?>", "\n",
      "<Document xmlns=\"urn:iso:std:iso:20022:tech:xsd:pacs.002.001.10\">", "\n",
      "  <FIToFIPmtStsRpt>\n", "    <GrpHdr>\n",
      elementLine 6 "MsgId" status.messageId,
      elementLine 6 "CreDtTm" status.createdAt,
      "    </GrpHdr>\n", "    <OrgnlGrpInfAndSts>\n",
      elementLine 6 "OrgnlMsgId" status.originalMessageId,
      elementLine 6 "OrgnlMsgNmId" status.originalMessageNameId,
      "    </OrgnlGrpInfAndSts>\n", "    <TxInfAndSts>\n",
      elementLine 6 "OrgnlInstrId" status.originalInstructionId,
      elementLine 6 "OrgnlEndToEndId" status.originalEndToEndId,
      elementLine 6 "TxId" status.transactionId,
      elementLine 6 "TxSts" status.status.code]
    ++ statusReasonLines status.statusReason
    ++ ["      <OrgnlTxRef>\n",
      amountElementLine 8 "IntrBkSttlmAmt" status.asset status.amount,
      "        <DbtrAcct>\n", "          <Id>\n", "            <Othr>\n",
      elementLine 14 "Id" status.debtorAccount,
      "            </Othr>\n", "          </Id>\n", "        </DbtrAcct>\n",
      "        <CdtrAcct>\n", "          <Id>\n", "            <Othr>\n",
      elementLine 14 "Id" status.creditorAccount,
      "            </Othr>\n", "          </Id>\n", "        </CdtrAcct>\n",
      "      </OrgnlTxRef>\n", "    </TxInfAndSts>\n", "  </FIToFIPmtStsRpt>\n",
      "</Document>\n"])

end KaniNetwork
