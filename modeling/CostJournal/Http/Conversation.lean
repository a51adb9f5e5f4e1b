import CostJournal.Http.Message
import CostJournal.Http.Proxy

/-!
# Conversations with servers

The answers still to come, and the requests that were sent. Each request takes the next answer
(`Conversation.send`), so that a loop which goes on only after an answer ends.
-/

namespace CostJournal

/-- What a request is answered with. -/
inductive ServerAnswer where
  | response (r : Response)
  /-- The connection is closed without a response. -/
  | closed
deriving DecidableEq

namespace ServerAnswer

/-- The answer where no other is left. -/
def exhausted : ServerAnswer := .response ⟨500, "script exhausted"⟩

end ServerAnswer

structure Conversation where
  answers : List ServerAnswer
  requests : List Request := []
  proxies : Proxies := {}

namespace Conversation

def send (r : Request) (c : Conversation) : ServerAnswer × Conversation :=
  match c.answers with
  | a :: rest => (a, { c with answers := rest, requests := c.requests ++ [r] })
  | [] => (.exhausted, { c with requests := c.requests ++ [r] })

/-- What went wrong below the level of responses. -/
def transportText : String := "<transport>"

/-- A request as it is sent: a user in the URL takes the place of other credentials. -/
def prepared (c : Conversation) (r : Request) : Request :=
  { r with
    authorization := r.url.credentials?.or r.authorization
    target := c.proxies.target r.url }

/-- Sends a request to a text that should be a URL; without a response there is no answer. A text
that is no URL of a web server reaches none. -/
def request (url : String) (make : Url → Request) (c : Conversation) :
    Option Response × Conversation :=
  match (Url.ofText? url).filter Url.isHttp with
  | none => (none, c)
  | some u =>
    match c.send (c.prepared (make u)) with
    | (.response r, c) => (if r.isFinal then some r else none, c)
    | (.closed, c) => (none, c)

/-- A successful response is one of the answers to come. -/
theorem length_answers_request_lt {url : String} {make : Url → Request} {c : Conversation}
    {r : Response} (h : (c.request url make).1 = some r) (hr : r.isSuccess = true) :
    (c.request url make).2.answers.length < c.answers.length := by
  revert h
  unfold request
  split
  · simp
  · unfold send
    rcases c with ⟨_ | ⟨a, rest⟩, requests, proxies⟩
    · intro h
      simp only [ServerAnswer.exhausted, Response.isFinal] at h
      simp only [Nat.reduceBEq, Nat.reduceLeDiff, decide_true, Nat.reduceLT, Bool.and_self,
        Bool.or_true, if_true, Option.some.injEq] at h
      rw [← h] at hr
      simp [Response.isSuccess] at hr
    · cases a <;> simp

end Conversation

end CostJournal
