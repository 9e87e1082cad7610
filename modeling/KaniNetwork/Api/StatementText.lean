/-
KaniNetwork.Api.StatementText — a camt.053 statement can be read off its
XML.

Every value of the document stands in a line of its own, escaped, between
markup that does not depend on the values. No escaped value has an angle
bracket in it, and no escaped asset a quote: a value ends where the markup
goes on, whatever it imitates. The lines of an entry begin deeper than the
line behind the entries.
-/
import KaniNetwork.Api.Statement
import KaniNetwork.Base.Decimal
import KaniNetwork.Base.Reading
import KaniNetwork.Iso20022.Escaping

namespace KaniNetwork

/-! ## Lines -/

theorem lt_notMem_escapeXmlText (s : String) : '<' ∉ (escapeXmlText s).toList := by
  rw [escapeXmlText_toList]
  exact notMem_encode (by decide) (by decide) s.toList

theorem quote_notMem_escapeXmlAttribute (s : String) : '"' ∉ (escapeXmlAttribute s).toList := by
  rw [escapeXmlAttribute_toList]
  exact notMem_encode (by decide) (by decide) s.toList

theorem lt_notMem_toString (n : Int) : '<' ∉ (toString n).toList := by
  intro h
  rcases isDigit_or_of_mem_toString h with hdigit | hsign
  · cases hdigit
  · cases hsign

theorem toString_injective : Function.Injective (toString : Int → String) :=
  fun _ _ => toString_int_injective

/-- A line with a value tells the value, and where it ends. -/
theorem elementLine_append_inj {indent : Nat} {name value value' : String} {r r' : List Char} :
    (elementLine indent name value).toList ++ r = (elementLine indent name value').toList ++ r' ↔
      value = value' ∧ r = r' := by
  have hclose : "</".toList = '<' :: "/".toList := by decide
  simp only [elementLine, String.toList_append, List.append_assoc, List.append_cancel_left_eq,
    hclose, List.cons_append]
  rw [append_delimiter_inj (lt_notMem_escapeXmlText value) (lt_notMem_escapeXmlText value'),
    String.toList_inj, escapeXmlText_injective.eq_iff]
  simp only [List.append_cancel_left_eq]

theorem amountElementLine_append_inj {indent : Nat} {name asset asset' : String}
    {amount amount' : Int} {r r' : List Char} :
    (amountElementLine indent name asset amount).toList ++ r =
        (amountElementLine indent name asset' amount').toList ++ r' ↔
      asset = asset' ∧ amount = amount' ∧ r = r' := by
  have hopen : "\">".toList = '"' :: ">".toList := by decide
  have hclose : "</".toList = '<' :: "/".toList := by decide
  simp only [amountElementLine, String.toList_append, List.append_assoc,
    List.append_cancel_left_eq, hopen, hclose, List.cons_append]
  rw [append_delimiter_inj (quote_notMem_escapeXmlAttribute asset)
      (quote_notMem_escapeXmlAttribute asset'),
    String.toList_inj, escapeXmlAttribute_injective.eq_iff]
  simp only [List.append_cancel_left_eq]
  rw [append_delimiter_inj (lt_notMem_toString amount) (lt_notMem_toString amount'),
    String.toList_inj]
  simp only [List.append_cancel_left_eq, toString_injective.eq_iff]

/-! ## Entries -/

theorem camt053Direction_code_inj {d d' : Camt053CreditDebitIndicator} :
    d.code = d'.code ↔ d = d' := by
  cases d <;> cases d' <;> decide

theorem positiveAmount_of_nonneg {amount : Int} (h : 0 ≤ amount) :
    positiveAmount amount = amount := by
  rw [positiveAmount, if_neg (by omega), Int.natAbs_of_nonneg h]

/-- The text of an entry. -/
def camt053EntryText (entry : Camt053Entry) : List Char :=
  (camt053EntryLines entry).flatMap String.toList

theorem toList_camt053EntryLines (entries : List Camt053Entry) :
    (entries.flatMap camt053EntryLines).flatMap String.toList =
      entries.flatMap camt053EntryText := List.flatMap_assoc

/-- An entry with a positive amount can be read off its lines. -/
theorem readable_camt053EntryText :
    Readable (fun entry : Camt053Entry => 0 < entry.amount) camt053EntryText := by
  intro e e' he he' r r' h
  simp only [camt053EntryText, camt053EntryLines, List.flatMap_cons, List.flatMap_nil,
    List.append_nil, List.append_assoc, List.append_cancel_left_eq, elementLine_append_inj,
    amountElementLine_append_inj, camt053Direction_code_inj, positiveAmount_of_nonneg he.le,
    positiveAmount_of_nonneg he'.le] at h
  obtain ⟨hid, hasset, hamount, hdirection, hbooked, htransaction, hheight, hrest⟩ := h
  refine ⟨?_, hrest⟩
  obtain ⟨id, transactionId, asset, amount, direction, blockHeight, bookedAt⟩ := e
  obtain ⟨id', transactionId', asset', amount', direction', blockHeight', bookedAt'⟩ := e'
  have hblock : blockHeight = blockHeight' :=
    toString_injective ((String.append_right_inj _).mp hheight)
  simp only [Camt053Entry.mk.injEq]
  exact ⟨hid, htransaction, hasset, hamount, hdirection, hblock, hbooked⟩

/-- What stands behind the entries. -/
def statementEnd : List Char :=
  "    </Stmt>\n".toList ++ ("  </BkToCstmrStmt>\n".toList ++ "</Document>\n".toList)

/-- No entry begins like the end of the statement. -/
theorem camt053EntryText_ne_statementEnd (e : Camt053Entry) (r r' : List Char) :
    camt053EntryText e ++ r ≠ statementEnd ++ r' := by
  intro h
  have hfifth := congrArg (fun text : List Char => text[4]?) h
  change some ' ' = some '<' at hfifth
  cases hfifth

/-! ## Statements -/

/-- Balances that are not negative, and entries that move something. -/
structure Camt053Statement.Positive (statement : Camt053Statement) : Prop where
  balance : 0 ≤ statement.balance
  entries : ∀ entry ∈ statement.entries, 0 < entry.amount

/-- **A statement cannot be forged through its values.** Statements with a
balance that is not negative and positive amounts have the same XML only if
they are the same, entry by entry, whatever the texts in them are. -/
theorem buildCamt053Statement_inj (s s' : Camt053Statement) (hs : s.Positive)
    (hs' : s'.Positive) : buildCamt053Statement s = buildCamt053Statement s' ↔ s = s' := by
  refine ⟨?_, congrArg buildCamt053Statement⟩
  intro h
  have htext := congrArg String.toList h
  simp only [buildCamt053Statement, String.toList_join, List.flatMap_append, List.flatMap_cons,
    List.flatMap_nil, List.append_nil, List.append_assoc, List.append_cancel_left_eq,
    elementLine_append_inj, amountElementLine_append_inj, positiveAmount_of_nonneg hs.balance,
    positiveAmount_of_nonneg hs'.balance, toList_camt053EntryLines] at htext
  obtain ⟨hmessage, hcreated, hstatement, haccount, hasset, -, hbalance, -, -, hentries⟩ := htext
  have hread := readable_flatMap readable_camt053EntryText camt053EntryText_ne_statementEnd
  have hlist : s.entries = s'.entries := by
    have hend : s.entries.flatMap camt053EntryText ++ statementEnd ++ [] =
        s'.entries.flatMap camt053EntryText ++ statementEnd ++ [] := by
      rw [List.append_nil, List.append_nil]
      exact hentries
    exact (hread hs.entries hs'.entries [] [] hend).1
  obtain ⟨messageId, createdAt, statementId, accountId, asset, balance, entries⟩ := s
  simp only at hmessage hcreated hstatement haccount hasset hbalance hlist
  rw [hmessage, hcreated, hstatement, haccount, hasset, hbalance, hlist]

/-- A statement whose message id imitates the markup behind it. -/
def exampleForgedStatement : Camt053Statement :=
  ⟨"m</MsgId>\n      <CreDtTm>c", "c", "s", "a", "K\" Ccy=\"X", 0, []⟩

/-- It is not the statement it imitates. -/
theorem buildCamt053Statement_inj_example :
    buildCamt053Statement exampleForgedStatement ≠
      buildCamt053Statement { exampleForgedStatement with messageId := "m" } := by
  intro h
  have heq := (buildCamt053Statement_inj exampleForgedStatement
    { exampleForgedStatement with messageId := "m" } ⟨by decide, by decide⟩
    ⟨by decide, by decide⟩).mp h
  exact absurd heq (by decide)

end KaniNetwork
