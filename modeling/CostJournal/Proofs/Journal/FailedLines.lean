import CostJournal.Proofs.Authorization.CutShort
import CostJournal.Proofs.Authorization.Protocol
import CostJournal.Proofs.Journal.Records

/-!
# The failed lines of a journal file

Lines are selected before they are written, but selecting the records of the journal file by the key of an
error comes to the same (`failedRecords_fileText`). So what is attached as failed lines, what the closing
notice says and what the upload returns all agree with the file that was uploaded (`uploadJournal_counts`).
-/

namespace CostJournal

namespace JournalLine

/-- What stands before each line break. -/
def recordsOf (file : String) : List String := (splitText '\n' file).dropLast

/-- The records of a file that have the key of an error. -/
def failedRecords (file : String) : List String := (recordsOf file).filter hasErrorKey

variable (lines : List JournalLine)

theorem recordsOf_fileText : recordsOf (fileText lines) = lines.map record := by
  rw [recordsOf, splitText_fileText, List.dropLast_concat]

theorem failedRecords_fileText : failedRecords (fileText lines) = (lines.filter (!·.isValid)).map record := by
  have hkey : hasErrorKey ∘ record = (!·.isValid) := by
    funext l
    rw [Function.comp_apply, hasErrorKey_record]
  rw [failedRecords, recordsOf_fileText, List.filter_map, hkey]

theorem length_recordsOf_fileText : (recordsOf (fileText lines)).length = lines.length := by
  rw [recordsOf_fileText, List.length_map]

theorem length_failedRecords_fileText :
    (failedRecords (fileText lines)).length = (lines.filter (!·.isValid)).length := by
  rw [failedRecords_fileText, List.length_map]

end JournalLine

open JournalLine

/-- The attachment is the failed records of a journal file, and says how many there are. -/
structure Attachment.HoldsFailed (file : String) (a : Attachment FileContent) : Prop where
  content : ∃ text, a.content = .text text ∧ splitText '\n' text = failedRecords file ++ [""]
  description : a.description =
    natText (failedRecords file).length ++ " journal lines could not be reconciled"

section
variable {journalId : String} {lines : List JournalLine}

theorem failedLinesAttachment_eq_none_iff :
    failedLinesAttachment journalId lines = none ↔ ∀ l ∈ lines, l.isValid = true := by
  have hfilter : lines.filter (!·.isValid) = [] ↔ ∀ l ∈ lines, l.isValid = true := by
    simp only [List.filter_eq_nil_iff, Bool.not_eq_true', Bool.not_eq_false]
  rw [← hfilter, failedLinesAttachment]
  cases lines.filter (!·.isValid) <;> simp only [reduceCtorEq]

theorem holdsFailed_of_failedLinesAttachment {a : Attachment FileContent}
    (h : failedLinesAttachment journalId lines = some a) : a.HoldsFailed (fileText lines) := by
  have hfields : a.content = .text (fileText (lines.filter (!·.isValid))) ∧
      a.description = natText (lines.filter (!·.isValid)).length ++ " journal lines could not be reconciled" := by
    rw [failedLinesAttachment] at h
    generalize lines.filter (!·.isValid) = invalid at h ⊢
    cases invalid with
    | nil => cases h
    | cons l invalid =>
      cases h
      exact ⟨rfl, rfl⟩
  refine ⟨⟨_, hfields.1, ?_⟩, ?_⟩
  · rw [splitText_fileText, failedRecords_fileText]
  · rw [hfields.2, length_failedRecords_fileText]

end

namespace Generator
variable {σ : Type} {c : Collaborators σ} {p : Plan} {context : AuthorizationContext} {w w' : World σ}
  {result : AuthorizationResult}

/-- What the operators are told of a journal file by its records and the failed ones among them. -/
def closingText (p : Plan) (authorizationId : String) (total failed : Nat) : String :=
  let of := " for authorization " ++ authorizationId ++ " (" ++ p.period.toText ++ ")"
  if failed = 0 then natText total ++ " lines uploaded" ++ of ++ "."
  else natText failed ++ " of " ++ natText total ++ " lines" ++ of ++ " could not be reconciled."

theorem text_closingNotice {failedLinesId : Option String}
    (h : failedLinesId = none ↔ context.invalidLines = []) :
    (closingNotice p context failedLinesId).text =
      closingText p context.authorization.id context.lines.length context.invalidLines.length := by
  rw [← List.length_eq_zero_iff] at h
  cases failedLinesId with
  | none => exact (if_pos (h.mp rfl)).symm
  | some id => exact (if_neg (mt h.mpr (Option.some_ne_none id))).symm

theorem closeUpload_calls {failedLinesId : Option String}
    (h : (closeUpload c p context failedLinesId).Ends w (.ok result) w') :
    ∃ archive, w'.calls = w.calls ++
        [.attach context.journalId archive, .notify (closingNotice p context failedLinesId)] ∧
      result = .uploaded context.journalId context.lines.length context.invalidLines.length := by
  rcases Task.ends_compute_bind.mp h with ⟨_, -, he, -⟩ | ⟨archive, -, h⟩
  · cases he
  rcases Task.ends_call_bind.mp h with ⟨_, _, -, he, -⟩ | ⟨_, s, -, h⟩
  · cases he
  obtain ⟨_, w₁, htell, h⟩ := Task.ends_liftM_bind.mp h
  obtain ⟨hresult, rfl⟩ := Task.ends_pure.mp h
  rw [Run.ends_tell.mp htell]
  exact ⟨archive, List.append_assoc .., Except.ok.inj hresult⟩

/-- An upload that goes through makes all its calls, and then tells of it. -/
theorem uploadJournal_calls (h : (uploadJournal c p context).Ends w (.ok result) w') :
    ∃ archive failedLinesId, (failedLinesId = none ↔ context.invalidLines = []) ∧
      w'.calls = w.calls ++ uploads p context archive ++ [.notify (closingNotice p context failedLinesId)] ∧
      result = .uploaded context.journalId context.lines.length context.invalidLines.length := by
  rcases Task.ends_call_bind.mp h with ⟨_, _, -, he, -⟩ | ⟨_, s, -, h⟩
  · cases he
  unfold uploads
  simp only [← failedLinesAttachment_eq_none]
  match hfailed : failedLinesAttachment context.journalId context.lines with
  | none =>
    rw [hfailed] at h
    obtain ⟨archive, hcalls, hresult⟩ :=
      closeUpload_calls ((Task.ends_bind_of_ends (Task.ends_pure.mpr ⟨rfl, rfl⟩)).mp h)
    exact ⟨archive, none, iff_of_true rfl rfl, hcalls.trans (by simp), hresult⟩
  | some attachment =>
    rw [hfailed] at h
    replace h : (some <$> Task.call (.attach context.journalId attachment)
        (c.attach context.journalId attachment) >>= closeUpload c p context).Ends _ (.ok result) w' := h
    rw [map_eq_pure_bind, bind_assoc] at h
    rcases Task.ends_call_bind.mp h with ⟨_, _, -, he, -⟩ | ⟨attachmentId, s', -, h⟩
    · cases he
    obtain ⟨archive, hcalls, hresult⟩ :=
      closeUpload_calls ((Task.ends_bind_of_ends (Task.ends_pure.mpr ⟨rfl, rfl⟩)).mp h)
    exact ⟨archive, some attachmentId, iff_of_false nofun nofun, hcalls.trans (by simp), hresult⟩

/-- What is attached, told and returned counts the failed records of the file that is uploaded. -/
theorem uploadJournal_counts (c : Collaborators σ) (p : Plan) (context : AuthorizationContext) (w : World σ) :
    let file := fileText context.lines
    let failed := failedRecords file
    (failedLinesAttachment context.journalId context.lines = none ↔ ∀ l ∈ context.lines, l.isValid = true) ∧
    (∀ a ∈ failedLinesAttachment context.journalId context.lines, a.HoldsFailed file) ∧
    ∃ r w', (uploadJournal c p context).Ends w r w' ∧ ∀ result, r = .ok result →
      result = .uploaded context.journalId (recordsOf file).length failed.length ∧
      ∃ archive notice, w'.calls = w.calls ++ uploads p context archive ++ [.notify notice] ∧
        notice.text = closingText p context.authorization.id (recordsOf file).length failed.length := by
  intro file failed
  refine ⟨failedLinesAttachment_eq_none_iff, fun a ha => holdsFailed_of_failedLinesAttachment ha, ?_⟩
  -- decimals have no part in an upload, so it comes to an end
  obtain ⟨r, w', hends⟩ := Run.ends_of_not_overflows (x := ExceptT.run (uploadJournal c p context)) (w := w)
    fun hoverflows => by
      obtain ⟨o, w', hstops⟩ := Run.overflows_iff.mp hoverflows
      exact uploadJournal_not_stops hstops
  refine ⟨r, w', hends, ?_⟩
  rintro result rfl
  obtain ⟨archive, failedLinesId, hfailed, hcalls, hresult⟩ := uploadJournal_calls hends
  rw [length_recordsOf_fileText, length_failedRecords_fileText]
  exact ⟨hresult, archive, _, hcalls, text_closingNotice hfailed⟩

end Generator

end CostJournal
