import CostJournal.Line
import CostJournal.Proofs.Calendar.Date
import CostJournal.Proofs.Json.Decoding
import CostJournal.Proofs.Json.Prices
import CostJournal.Text.Split
import Mathlib.Data.List.Forall2

/-!
# Records of a journal file

No record has a control character in it, so the line breaks of a journal file cut it into one record for
each line (`splitText_fileText`), whatever characters there are in the line. A record is read as its line
again but for the prices, which go through doubles; only a price that rounds to `2 ^ 96` makes it a record
that cannot be read (`fileText_records`).
-/

namespace CostJournal
open Json

theorem SearchCriteria.restores (s : SearchCriteria) : Restores toJson ofJson? s :=
  ⟨(ArePlain.cons (.string _) (.cons (.string _) .nil)).object, rfl⟩

theorem Json.Restores.date (d : Date) : Restores ofDate date? d := ⟨.string _, Date.ofText?_toText d⟩

namespace JournalLine

/-- The text of a line without the line break. -/
def record (l : JournalLine) : String := l.toJson.render

theorem isPlain_toJson (l : JournalLine) : l.toJson.IsPlain := by
  have hdescription : ArePlain [("value1", .string l.serviceName), ("value2", .string l.accountAndEntity)] :=
    .cons (.string _) (.cons (.string _) .nil)
  have hids : ArePlain [("invoice", .string l.invoiceId), ("reference", .string l.agreementId),
      ("vendor", .string l.mpaId)] := .cons (.string _) (.cons (.string _) (.cons (.string _) .nil))
  have hperiod : ArePlain [("start", ofDate l.startDate), ("end", ofDate l.endDate)] :=
    .cons (.string _) (.cons (.string _) .nil)
  have hprice : ArePlain [("PPx1", ofDecimal l.price), ("unitPP", ofDecimal l.unitPrice)] :=
    .cons (isPlain_ofDecimal _) (.cons (isPlain_ofDecimal _) .nil)
  have hsearch : ArePlain [("item", l.itemSearch.toJson), ("subscription", l.subscriptionSearch.toJson)] :=
    .cons l.itemSearch.restores.plain (.cons l.subscriptionSearch.restores.plain .nil)
  unfold toJson
  exact ArePlain.object (.append (.cons hdescription.object (.cons hids.object (.cons hperiod.object
    (.cons hprice.object (.cons (isPlain_ofNat _) (.cons hsearch.object (.cons (.string _) .nil)))))))
    (.field? fun _ _ => .string _))

theorem splitText_fileText (lines : List JournalLine) :
    splitText '\n' (fileText lines) = lines.map record ++ [""] := by
  have hrecords : ∀ s ∈ lines.map record, '\n' ∉ s.toList := by
    refine List.forall_mem_map.mpr fun l _ hmem => ?_
    rw [record, render, String.toList_ofList] at hmem
    -- a line break would be a control character
    exact absurd (l.isPlain_toJson.isControlFree '\n' hmem) (by decide)
  have htext : fileText lines = String.join ((lines.map record).map (· ++ String.singleton '\n')) := by
    rw [List.map_map]
    rfl
  rw [htext, splitText_join hrecords]

/-- Read as a line, a record loses nothing but what its prices lose as doubles. -/
theorem ofJson?_toJson {l : JournalLine} (h : l.quantity < twoPow 32) :
    ofJson? l.toJson =
      (decimal? (ofDecimal l.price)).bind fun price => (decimal? (ofDecimal l.unitPrice)).bind fun unitPrice =>
        some { l with price, unitPrice } := by
  have hread : ofJson? l.toJson =
      ((date? (ofDate l.startDate)).bind fun startDate => (date? (ofDate l.endDate)).bind fun endDate =>
        some (startDate, endDate)).bind fun dates =>
      ((decimal? (ofDecimal l.price)).bind fun price => (decimal? (ofDecimal l.unitPrice)).bind fun unitPrice =>
        some (price, unitPrice)).bind fun prices =>
      (natural? (twoPow 32) (ofNat l.quantity)).bind fun quantity =>
        some { l with
          startDate := dates.1, endDate := dates.2, price := prices.1, unitPrice := prices.2, quantity } := by
    obtain ⟨_, _, _, _, _, _, _, _, _, _, _, _, _, error⟩ := l
    unfold ofJson? toJson
    -- only the record is to be evaluated, not what reads its fields
    generalize date? = date?
    generalize decimal? = decimal?
    generalize natural? = natural?
    cases error <;> rfl
  rw [hread, (Restores.date l.startDate).read, (Restores.date l.endDate).read, natural?_ofNat h (by decide)]
  simp only [Option.bind_some, Option.bind_assoc]

/-- The line that a record is read as. -/
def ofRecord? (record : String) : Option JournalLine := (ofText? record).bind ofJson?

/-- The record is an object with the key of an error. -/
def hasErrorKey (record : String) : Bool :=
  match ofText? record with
  | some (.object fields) => fields.any (·.1 == "error")
  | _ => false

theorem ofRecord?_record {l : JournalLine} (h : l.quantity < twoPow 32) :
    ofRecord? l.record =
      (decimal? (ofDecimal l.price)).bind fun price => (decimal? (ofDecimal l.unitPrice)).bind fun unitPrice =>
        some { l with price, unitPrice } := by
  rw [ofRecord?, record, ofText?_render l.isPlain_toJson, Option.bind_some, ofJson?_toJson h]

theorem hasErrorKey_record (l : JournalLine) : hasErrorKey l.record = !l.isValid := by
  rw [hasErrorKey, record, ofText?_render l.isPlain_toJson]
  obtain ⟨_, _, _, _, _, _, _, _, _, _, _, _, _, error⟩ := l
  cases error <;> rfl

/-- The lines differ in their prices at most. -/
def AgreeButForPrices (l l' : JournalLine) : Prop :=
  { l' with price := l.price, unitPrice := l.unitPrice } = l

/-- The text is an object that stands for the line. -/
structure IsRecordOf (record : String) (l : JournalLine) : Prop where
  isObject : ∃ fields, ofText? record = some (.object fields)
  error : hasErrorKey record = !l.isValid
  isRead : (ofRecord? record).isSome = true ↔ ¬l.price.RoundsToLimit ∧ ¬l.unitPrice.RoundsToLimit
  restored : ∀ l' ∈ ofRecord? record, l.AgreeButForPrices l'

theorem isRecordOf_record {l : JournalLine} (h : l.quantity < twoPow 32) : IsRecordOf l.record l where
  isObject := ⟨_, ofText?_render l.isPlain_toJson⟩
  error := hasErrorKey_record l
  isRead := by
    rw [ofRecord?_record h, ← decimal?_ofDecimal_isSome_iff l.price, ← decimal?_ofDecimal_isSome_iff l.unitPrice]
    cases decimal? (ofDecimal l.price) <;> cases decimal? (ofDecimal l.unitPrice) <;> simp
  restored l' hl' := by
    rw [ofRecord?_record h] at hl'
    obtain ⟨price, -, hl'⟩ := Option.bind_eq_some_iff.mp hl'
    obtain ⟨unitPrice, -, hl'⟩ := Option.bind_eq_some_iff.mp hl'
    rw [← Option.some.inj hl']
    rfl

/-- A journal file is one record for each line and an empty rest. A quantity has 32 bits. -/
theorem fileText_records (lines : List JournalLine) (h : ∀ l ∈ lines, l.quantity < twoPow 32) :
    ∃ records, splitText '\n' (fileText lines) = records ++ [""] ∧ List.Forall₂ IsRecordOf records lines := by
  refine ⟨_, splitText_fileText lines, ?_⟩
  rw [List.forall₂_map_left_iff, List.forall₂_same]
  exact fun l hl => isRecordOf_record (h l hl)

/-- A line with quotes, backslashes, line breaks and control characters in its texts. -/
def withMarks : JournalLine :=
  (create ⟨"AGR\t1", "\"12\"", ⟨2025, 5, 1, by decide⟩, ⟨2025, 5, 31, by decide⟩, "C\\M"⟩ "21\n09"
    "Amazon\x00 \"É𝄞\"" ((Decimal.ofParts? (-105) 1).getD .zero)).withError "not\r\nbilled\x7f"

theorem fileText_records_withMarks :
    (∀ l ∈ [withMarks, { withMarks with error := none }], l.quantity < twoPow 32) ∧
      ∃ records, splitText '\n' (fileText [withMarks, { withMarks with error := none }]) = records ++ [""] ∧
        List.Forall₂ IsRecordOf records [withMarks, { withMarks with error := none }] := by
  have hquantity : ∀ l ∈ [withMarks, { withMarks with error := none }], l.quantity < twoPow 32 := by decide
  exact ⟨hquantity, fileText_records _ hquantity⟩

/-- A line at the largest price there is. -/
def atLargestPrice : JournalLine :=
  create ⟨"AGR-1", "123456789012", ⟨2025, 5, 1, by decide⟩, ⟨2025, 5, 31, by decide⟩, "COM"⟩ "210987654321"
    "Amazon EC2" ((Decimal.ofParts? (coefficientLimit - 1) 0).getD .zero)

/-- The record of the largest price is not read. -/
theorem fileText_atLargestPrice :
    ¬∃ records, splitText '\n' (fileText [atLargestPrice]) = records ++ [""] ∧
      List.Forall₂ (fun record l => ∃ l', ofRecord? record = some l' ∧ l.AgreeButForPrices l') records
        [atLargestPrice] := by
  rintro ⟨records, hsplit, hrestored⟩
  rw [splitText_fileText] at hsplit
  rw [← List.append_cancel_right hsplit] at hrestored
  obtain ⟨⟨_, hread, -⟩, -⟩ := List.forall₂_cons.mp hrestored
  have hprices := (isRecordOf_record (l := atLargestPrice) (by decide)).isRead.mp (by rw [hread]; rfl)
  exact hprices.1 (by decide)

end JournalLine

end CostJournal
