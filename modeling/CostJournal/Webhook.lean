import CostJournal.Failure
import CostJournal.Http.Conversation
import CostJournal.Notice

/-!
# Webhook

Notices as message cards that are posted to a channel.
-/

namespace CostJournal

namespace Notice

/-- The color of a card: red for errors and green for success. -/
def color : NoticeKind → String
  | .error => "DF3422"
  | .success => "00FF00"

def buttonAction (b : Button) : Json :=
  .object [("@type", .string "OpenUri"), ("name", .string b.label),
    ("targets", .array [.object [("os", .string "default"), ("uri", .string b.url)]])]

def card (n : Notice) : Json :=
  .object <|
    [("@type", .string "MessageCard"), ("@context", .string "https://schema.org/extensions"),
      ("themeColor", .string (color n.kind)), ("summary", .string n.title), ("title", .string n.title),
      ("text", .string n.text)]
    ++ n.button.toList.map fun b => ("potentialAction", .array [buttonAction b])

end Notice

/-- The address that cards are posted to. -/
structure Webhook where
  url : String

namespace Webhook

def notify (w : Webhook) (n : Notice) (c : Conversation) : Except Failure Unit × Conversation :=
  let (response, c) := c.request w.url fun u => { method := "POST", url := u, body := .json n.card }
  let result := match response with
    | none => .error (.notification Conversation.transportText)
    | some r =>
      if r.isSuccess then .ok ()
      else .error (.notification ("Teams webhook returned " ++ r.statusText ++ ": " ++ r.text))
  (result, c)

end Webhook

end CostJournal
