import EventLedger.Proofs.Json.Extent
import EventLedger.Proofs.Refusal
import Mathlib.Data.List.DropRight

/-!
# Damaged bodies

A body is complete at one byte only: what is cut short, by however little, is malformed, and so is
what goes on with anything but blanks, while blanks around a body say nothing: `ofBody_isFramed`.
None of this depends on what is cut, since a record is read up to the byte that ends its container
and never looks behind it.
-/
namespace EventLedger

open Json (Bytes Record Schema isSpace skipSpace)
open Json.Grammar

/-- A body without the blanks at its end. -/
def trimmed (body : Bytes) : Bytes := body.rdropWhile isSpace

/-- Trimming drops the blanks up to the last byte that is none. -/
theorem trimmed_append {content blanks : Bytes} {b : UInt8} (blank : Blanks blanks)
    (other : isSpace b = false) : trimmed (content ++ b :: blanks) = content ++ [b] := by
  have skipped : trimmed (content ++ b :: blanks) = (b :: content.reverse).reverse :=
    congrArg List.reverse (Json.skipSpace_reverse blank other)
  rw [skipped, List.reverse_cons, List.reverse_reverse]

variable {schema : Schema} {body : Bytes} {record : Record}

/-- What is left of a document is its container after blanks. -/
theorem exists_trimmed (document : Document schema body record) :
    ∃ container content before after, Body schema container content record ∧ Blanks before ∧
      Blanks after ∧ body = trimmed body ++ after ∧
      trimmed body = before ++ opener container :: (content ++ [container.closer]) := by
  obtain ⟨container, content, given, before, after, left, right, rfl⟩ := document
  have whole : before ++ opener container :: (content ++ [container.closer]) ++ after =
      before ++ opener container :: content ++ container.closer :: after := by simp
  have trim : trimmed (before ++ opener container :: (content ++ [container.closer]) ++ after) =
      before ++ opener container :: (content ++ [container.closer]) := by
    rw [whole, trimmed_append right (Json.isSpace_opener container).2]
    simp
  exact ⟨container, content, before, after, given, left, right, by rw [trim], trim⟩

/-- A document is read up to the byte that ends it, whatever comes behind that. -/
theorem readRecord_trimmed (unique : schema.Distinct) (document : Document schema body record)
    (rest : Bytes) :
    Json.readRecord schema (trimmed body ++ rest) = some (record.reverse, rest) := by
  obtain ⟨container, content, before, after, given, left, _, _, trim⟩ := exists_trimmed document
  have read : Json.readRecord schema
      (before ++ opener container :: (content ++ container.closer :: rest)) =
        some (record.reverse, rest) := Json.readRecord_append unique given left
  have whole : trimmed body ++ rest =
      before ++ opener container :: (content ++ container.closer :: rest) := by simp [trim]
  rw [whole, read]

/-- No document begins with a shorter one. -/
theorem trimmed_unique {cut : Bytes} {other : Record} (unique : schema.Distinct)
    (document : Document schema body record) (shorter : Document schema cut other)
    (before : cut <+: trimmed body) : cut = trimmed body := by
  obtain ⟨rest, whole⟩ := before
  obtain ⟨_, _, _, after, _, _, _, ends, _⟩ := exists_trimmed shorter
  have read := readRecord_trimmed unique document []
  have early := readRecord_trimmed unique shorter (after ++ rest)
  -- The shorter one would be read to its own end, which must then be that of the body.
  rw [← List.append_assoc, ← ends, whole, ← List.append_nil (trimmed body), read] at early
  have nothing : after ++ rest = [] := (congrArg Prod.snd (Option.some.inj early)).symm
  rw [← whole, (List.append_eq_nil_iff.mp nothing).2, List.append_nil]

/-- Nothing but blanks may come behind a document. -/
theorem blanks_of_ofDocument {more : Bytes} (unique : schema.Distinct)
    (document : Document schema body record) {other : Record}
    (read : Record.ofDocument schema (body ++ more) = some other) : Blanks more := by
  obtain ⟨_, _, _, after, _, _, _, ends, _⟩ := exists_trimmed document
  have whole : body ++ more = trimmed body ++ (after ++ more) := by
    rw [← List.append_assoc, ← ends]
  rw [Record.ofDocument, whole, readRecord_trimmed unique document] at read
  dsimp only at read
  split at read
  next empty =>
    have skipped : skipSpace (after ++ more) = [] := by simpa using empty
    obtain ⟨blanks, blank, same⟩ := Json.exists_blanks skipped
    rw [List.append_nil] at same
    intro b inside
    exact blank b (same ▸ List.mem_append_right after inside)
  · cases read

/-- Blanks around a document change nothing in what is read from it. -/
theorem document_between (document : Document schema body record) {before after : Bytes}
    (left : Blanks before) (right : Blanks after) :
    Document schema (before ++ trimmed body ++ after) record := by
  obtain ⟨container, content, inner, _, given, blank, _, _, trim⟩ := exists_trimmed document
  refine ⟨container, content, given, before ++ inner, after, ?_, right, by simp [trim]⟩
  exact Json.blanks_append left blank

namespace Event

/-- A body that can be decoded is framed by its own bytes: cut short anywhere before the blanks at
its end it is malformed, with anything behind it but blanks it is malformed, and with other blanks
around it it is the same. -/
theorem ofBody_isFramed {kind : EventKind} {body : Bytes} (decodes : ¬IsMalformed kind body) :
    (∀ cut, cut <+: trimmed body → cut ≠ trimmed body → IsMalformed kind cut) ∧
    (∀ more, ¬Blanks more → IsMalformed kind (body ++ more)) ∧
    ∀ before after, Blanks before → Blanks after →
      Event.ofBody kind (before ++ trimmed body ++ after) = Event.ofBody kind body := by
  obtain ⟨record, document⟩ := exists_document decodes
  have unique := kind.layout_distinct
  refine ⟨fun cut before shorter => ?_, fun more other => ?_, fun before after left right => ?_⟩
  · by_contra decodesCut
    obtain ⟨_, shorterDocument⟩ := exists_document decodesCut
    exact shorter (trimmed_unique unique document shorterDocument before)
  · rw [isMalformed_iff, Option.eq_none_iff_forall_ne_some]
    intro _ read
    exact other (blanks_of_ofDocument unique document read)
  · apply ofBody_congr
    rw [ofDocument_of_document (document_between document left right),
      ofDocument_of_document document]

/-- An event whose action has a character of two bytes, with blanks behind it. -/
def spacedEntry : Bytes :=
  Text.Utf8.encode "\x7b\"action\":\"entrée\",\"type\":\"audit_event\"\x7d \n"

/-- Cut within that character, with another bracket behind it, and with other blanks around it. -/
theorem spacedEntry_isFramed :
    ¬IsMalformed .audit spacedEntry ∧
      IsMalformed .audit (spacedEntry.take 16) ∧
      IsMalformed .audit (spacedEntry ++ word "\x7d") ∧
      Event.ofBody .audit (word "\t" ++ trimmed spacedEntry ++ word "\r") =
        Event.ofBody .audit spacedEntry := by
  have decodes : ¬IsMalformed .audit spacedEntry := by
    rw [isMalformed_iff, ← Ne, Option.ne_none_iff_isSome]
    decide +kernel
  have bracket : ¬Blanks (word "\x7d") :=
    fun blank => absurd (blank (Json.byte '\x7d') (by decide)) (by decide)
  have tab : Blanks (word "\t") := List.forall_mem_singleton.mpr (by decide)
  have carriage : Blanks (word "\r") := List.forall_mem_singleton.mpr (by decide)
  obtain ⟨cut, followed, between⟩ := ofBody_isFramed decodes
  exact ⟨decodes, cut _ (by decide +kernel) (by decide +kernel), followed _ bracket,
    between _ _ tab carriage⟩

end Event

end EventLedger
