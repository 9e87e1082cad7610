/-
KaniNetwork.Iso20022.Escaping — the escaping of values in XML documents is
undone by one pass, and leaves no markup.

`escape_xml_text` and `escape_xml_attribute` replace one character after
the other in the whole text, the ampersand first. Were it later in the
chain, it would be replaced within the entities written before it. In this
order the chain is one spelling of the characters by a table
(`escapeXmlText_toList`, `escapeXmlAttribute_toList`), and the rest is
`Base.Escaping`.
-/
import KaniNetwork.Base.Escaping
import KaniNetwork.Iso20022.Report

namespace KaniNetwork

/-- The entities of text content. -/
def textEntities : EntityTable Char where
  marker := '&'
  entities := [('&', "&amp;".toList), ('<', "&lt;".toList), ('>', "&gt;".toList)]
  marked := by decide
  escaped := by decide
  prefixFree := by decide

/-- The entities of attribute values. -/
def attributeEntities : EntityTable Char where
  marker := '&'
  entities := textEntities.entities ++ [('"', "&quot;".toList), ('\'', "&apos;".toList)]
  marked := by decide
  escaped := by decide
  prefixFree := by decide

theorem replaceChar_toList (s : String) (c : Char) (replacement : String) :
    (replaceChar s c replacement).toList =
      s.toList.flatMap fun x => if x = c then replacement.toList else [x] := by
  rw [replaceChar, String.toList_ofList]

/-- What the chain of replacements makes of one character. -/
theorem escape_text_char (x : Char) :
    (((if x = '&' then "&amp;".toList else [x]).flatMap fun y =>
        if y = '<' then "&lt;".toList else [y]).flatMap fun z =>
      if z = '>' then "&gt;".toList else [z]) = textEntities.spell x := by
  by_cases hamp : x = '&'
  · subst hamp
    decide
  · by_cases hlt : x = '<'
    · subst hlt
      decide
    · by_cases hgt : x = '>'
      · subst hgt
        decide
      · have hfree : x ∉ textEntities.entities.map Prod.fst := by
          change x ∉ ['&', '<', '>']
          simp only [List.mem_cons, List.not_mem_nil, or_false, not_or]
          exact ⟨hamp, hlt, hgt⟩
        rw [textEntities.spell_of_notMem hfree]
        simp only [if_neg hamp, if_neg hlt, if_neg hgt, List.flatMap_singleton]

theorem escapeXmlText_toList (s : String) :
    (escapeXmlText s).toList = textEntities.encode s.toList := by
  simp only [escapeXmlText, replaceChar_toList, List.flatMap_assoc]
  refine congrArg (fun f => s.toList.flatMap f) (funext fun x => ?_)
  rw [← escape_text_char x, List.flatMap_assoc]

theorem escape_attribute_char (x : Char) :
    (((textEntities.spell x).flatMap fun y => if y = '"' then "&quot;".toList else [y]).flatMap
      fun z => if z = '\'' then "&apos;".toList else [z]) = attributeEntities.spell x := by
  by_cases hquot : x = '"'
  · subst hquot
    decide
  · by_cases hapos : x = '\''
    · subst hapos
      decide
    · by_cases htext : x ∈ textEntities.entities.map Prod.fst
      · -- no entity of text content has a quote in it
        change x ∈ ['&', '<', '>'] at htext
        clear hquot hapos
        simp only [List.mem_cons, List.not_mem_nil, or_false] at htext
        rcases htext with rfl | rfl | rfl <;> decide
      · have hfree : x ∉ attributeEntities.entities.map Prod.fst := by
          change x ∉ ['&', '<', '>'] at htext
          change x ∉ ['&', '<', '>'] ++ ['"', '\'']
          simp only [List.mem_append, List.mem_cons, List.not_mem_nil, or_false, not_or]
          exact ⟨by simpa using htext, hquot, hapos⟩
        rw [textEntities.spell_of_notMem htext, attributeEntities.spell_of_notMem hfree]
        simp only [if_neg hquot, if_neg hapos, List.flatMap_singleton]

theorem escapeXmlAttribute_toList (s : String) :
    (escapeXmlAttribute s).toList = attributeEntities.encode s.toList := by
  simp only [escapeXmlAttribute, replaceChar_toList, escapeXmlText_toList, EntityTable.encode,
    List.flatMap_assoc]
  refine congrArg (fun f => s.toList.flatMap f) (funext fun x => ?_)
  rw [← escape_attribute_char x, List.flatMap_assoc]

/-! ## Texts -/

/-- The entities of a table are replaced by their characters, in one pass
from left to right. -/
def unescapeXml (entities : EntityTable Char) (s : String) : String :=
  String.ofList (entities.decode s.toList)

/-- A character that an entity stands for is in an escaped text only where
an entity is written with it. -/
theorem notMem_encode {t : EntityTable Char} {c : Char} (hc : c ∈ t.entities.map Prod.fst)
    (hentity : ∀ e ∈ t.entities, c ∉ e.2) (xs : List Char) : c ∉ t.encode xs := by
  intro h
  rcases EntityTable.mem_encode h with ⟨-, hfree⟩ | ⟨e, he, -, hmem⟩
  · exact hfree hc
  · exact hentity e he hmem

theorem unescapeXml_encode {t : EntityTable Char} {s escaped : String}
    (h : escaped.toList = t.encode s.toList) : unescapeXml t escaped = s := by
  rw [unescapeXml, h, EntityTable.decode_encode, String.ofList_toList]

/-- Every ampersand of a text escaped by a table begins one of its
entities. -/
theorem entity_of_ampersand {t : EntityTable Char} {s escaped : String} {entities : List String}
    (h : escaped.toList = t.encode s.toList) (hmarker : t.marker = '&')
    (htexts : entities.map String.toList = t.entities.map Prod.snd) {before after : List Char}
    (hamp : escaped.toList = before ++ '&' :: after) :
    ∃ entity ∈ entities, entity.toList <+: '&' :: after := by
  rw [h, ← hmarker] at hamp
  obtain ⟨e, he, hprefix⟩ := t.entity_of_marker hamp
  have htext : e.2 ∈ entities.map String.toList := by
    rw [htexts]
    exact List.mem_map_of_mem he
  obtain ⟨entity, hmem, hentity⟩ := List.mem_map.mp htext
  rw [← hentity, hmarker] at hprefix
  exact ⟨entity, hmem, hprefix⟩

/-- **Values are escaped without loss, and leave no markup.** An escaped
text has no angle bracket in it, every ampersand in it begins an entity,
and one pass over the entities gives the text back. The same holds of
attribute values, which have no quotes in them either. -/
theorem escape_xml_correct (s : String) :
    (('<' ∉ (escapeXmlText s).toList ∧ '>' ∉ (escapeXmlText s).toList) ∧
      (∀ before after, (escapeXmlText s).toList = before ++ '&' :: after →
        ∃ entity ∈ ["&amp;", "&lt;", "&gt;"], entity.toList <+: '&' :: after) ∧
      unescapeXml textEntities (escapeXmlText s) = s) ∧
    ('<' ∉ (escapeXmlAttribute s).toList ∧ '>' ∉ (escapeXmlAttribute s).toList ∧
      '"' ∉ (escapeXmlAttribute s).toList ∧ '\'' ∉ (escapeXmlAttribute s).toList) ∧
    (∀ before after, (escapeXmlAttribute s).toList = before ++ '&' :: after →
      ∃ entity ∈ ["&amp;", "&lt;", "&gt;", "&quot;", "&apos;"],
        entity.toList <+: '&' :: after) ∧
    unescapeXml attributeEntities (escapeXmlAttribute s) = s := by
  have htext := escapeXmlText_toList s
  have hattribute := escapeXmlAttribute_toList s
  refine ⟨⟨?_, ?_, ?_⟩, ?_, ?_, ?_⟩
  · rw [htext]
    exact ⟨notMem_encode (by decide) (by decide) _, notMem_encode (by decide) (by decide) _⟩
  · intro before after hamp
    exact entity_of_ampersand htext rfl (by decide) hamp
  · exact unescapeXml_encode htext
  · rw [hattribute]
    exact ⟨notMem_encode (by decide) (by decide) _, notMem_encode (by decide) (by decide) _,
      notMem_encode (by decide) (by decide) _, notMem_encode (by decide) (by decide) _⟩
  · intro before after hamp
    exact entity_of_ampersand hattribute rfl (by decide) hamp
  · exact unescapeXml_encode hattribute

/-- What already looks like an entity is escaped once more. -/
example : escapeXmlText "&lt;" = "&amp;lt;" := by decide

theorem escapeXmlText_injective : Function.Injective escapeXmlText := by
  intro s s' h
  have hlist := congrArg String.toList h
  rw [escapeXmlText_toList, escapeXmlText_toList] at hlist
  exact String.toList_injective (textEntities.encode_injective hlist)

theorem escapeXmlAttribute_injective : Function.Injective escapeXmlAttribute := by
  intro s s' h
  have hlist := congrArg String.toList h
  rw [escapeXmlAttribute_toList, escapeXmlAttribute_toList] at hlist
  exact String.toList_injective (attributeEntities.encode_injective hlist)

end KaniNetwork
