/-!
# Notices

What operators are told, with a button that links to the portal.
-/

namespace CostJournal

structure Button where
  label : String
  url : String
deriving DecidableEq

inductive NoticeKind where
  | error
  | success
deriving DecidableEq

def NoticeKind.name : NoticeKind → String
  | error => "error"
  | success => "success"

structure Notice where
  kind : NoticeKind
  title : String
  text : String
  button : Option Button := none
deriving DecidableEq

/-- The text without the slashes at its end. -/
def trimSlashes (s : String) : String :=
  String.ofList (s.toList.reverse.dropWhile (· == '/')).reverse

/-- The pages of journals under the base address of the portal. -/
structure Portal where
  base : String

namespace Portal

def ofBase (url : String) : Portal := ⟨trimSlashes url⟩

def journalUrl (p : Portal) (journalId : String) : String := p.base ++ "/billing/journals/" ++ journalId

def journalLink (p : Portal) (journalId : String) : Button :=
  ⟨"Open journal " ++ journalId, p.journalUrl journalId⟩

def attachmentLink (p : Portal) (journalId attachmentId : String) : Button :=
  ⟨"Open failed journal lines", p.journalUrl journalId ++ "/attachments/" ++ attachmentId⟩

end Portal

end CostJournal
