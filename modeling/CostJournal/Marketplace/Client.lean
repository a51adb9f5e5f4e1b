import CostJournal.Failure
import CostJournal.Http.Conversation
import CostJournal.Http.MediaType
import CostJournal.Json.Printer
import CostJournal.Json.Reader
import CostJournal.Marketplace.Page
import CostJournal.Notice
import CostJournal.Text.Blank

/-!
# Marketplace client

The catalog and the ledger behind the marketplace's interface: collections that are read to their
last page (`MarketplaceClient.collect`), and journals that are created, uploaded to and attached to.
-/

namespace CostJournal

/-- Why a call to the marketplace failed. -/
inductive ClientFailure where
  | connection (text : String)
  | status (status : Nat) (body : String)
  | parse (text : String)
  | config (text : String)
deriving DecidableEq

namespace ClientFailure

def message : ClientFailure → String
  | connection text => "Connection error: " ++ text
  | status n body => "HTTP error: status " ++ natText n ++ ": " ++ body
  | parse text => "Parse error: " ++ text
  | config text => "Configuration error: " ++ text

def toLedger (e : ClientFailure) : Failure := .ledger e.message

def toCommerce (e : ClientFailure) : Failure := .commerce e.message

end ClientFailure

/-- How a page is fetched that starts at an offset. -/
abbrev FetchPage (α : Type) := Nat → Conversation → Except ClientFailure (Page α) × Conversation

/-- Each page that arrives is one of the answers to come. -/
def TakesAnswer {α : Type} (fetch : FetchPage α) : Prop :=
  ∀ offset c page, (fetch offset c).1 = .ok page →
    (fetch offset c).2.answers.length < c.answers.length

/-- The items from an offset on, after those that were fetched, until no page follows. -/
def collectFrom {α : Type} (fetch : FetchPage α) (takes : TakesAnswer fetch) (pageSize offset : Nat)
    (done : List α) (c : Conversation) : Except ClientFailure (List α) × Conversation :=
  match _h : (fetch offset c).1 with
  | .error e => (.error e, (fetch offset c).2)
  | .ok page =>
    let next := offset + page.items.length
    if page.continues pageSize next then
      collectFrom fetch takes pageSize next (done ++ page.items) (fetch offset c).2
    else (.ok (done ++ page.items), (fetch offset c).2)
termination_by c.answers.length
decreasing_by exact takes offset c page _h

structure MarketplaceClient where
  /-- The address of the server, without a slash at its end. -/
  baseUrl : String
  /-- The header that every request carries. -/
  authorization : String
  pageSize : Nat
deriving DecidableEq

namespace MarketplaceClient

/-- Headers hold no control characters but tabs. -/
def isHeaderText (s : String) : Bool := s.toList.all fun c => c == '\t' || !isControl c

def create (baseUrl token : String) (pageSize : Nat) : Except ClientFailure MarketplaceClient :=
  if isHeaderText token then
    let header := ("Bearer " ++ token).toList
    .ok {
      baseUrl := trimSlashes baseUrl
      authorization := String.ofList (trimLeft header.reverse).reverse
      pageSize := max pageSize 1 }
  else .error (.config "Invalid API token: failed to parse header value")

/-- The address of a path, which may begin with slashes. -/
def url (m : MarketplaceClient) (path : String) : String :=
  m.baseUrl ++ "/public/v1/" ++ String.ofList (path.toList.dropWhile (· == '/'))

def make (m : MarketplaceClient) (method : String) (body : RequestBody) (u : Url) : Request :=
  { method, url := u, authorization := m.authorization, body }

/-- The text of a response, unless it tells of a failure. -/
def bodyOf : Option Response → Except ClientFailure String
  | none => .error (.connection Conversation.transportText)
  | some r => if r.isSuccess then .ok r.text else .error (.status r.status r.text)

def readBody {α : Type} (read : Json → Option α) (response : Option Response) :
    Except ClientFailure α :=
  match bodyOf response with
  | .error e => .error e
  | .ok body =>
    match (Json.ofText? body).bind read with
    | some a => .ok a
    | none => .error (.parse ("Failed to parse JSON: " ++ Json.unreadableText ++ " - Body: " ++ body))

/-- Only a successful response has a body to read. -/
theorem exists_response_of_readBody {α : Type} {read : Json → Option α} {response : Option Response}
    {a : α} (h : readBody read response = .ok a) : ∃ r, response = some r ∧ r.isSuccess = true := by
  unfold readBody bodyOf at h
  cases response with
  | none => simp at h
  | some r =>
    refine ⟨r, rfl, ?_⟩
    cases hr : r.isSuccess
    · simp [hr] at h
    · rfl

/-- The address of the page of a collection that starts at an offset. -/
def pageUrl (m : MarketplaceClient) (path query : String) (offset : Nat) : String :=
  m.url path ++ "?" ++ query ++ "&limit=" ++ natText m.pageSize ++ "&offset=" ++ natText offset

/-- The page of a collection that starts at an offset. -/
def pageAt {α : Type} (m : MarketplaceClient) (item : Json → Option α) (path query : String)
    (offset : Nat) (c : Conversation) : Except ClientFailure (Page α) × Conversation :=
  let sent := c.request (m.pageUrl path query offset) (m.make "GET" .empty)
  (readBody (Page.ofJson? item) sent.1, sent.2)

theorem pageAt_takesAnswer {α : Type} (m : MarketplaceClient) (item : Json → Option α)
    (path query : String) : TakesAnswer (m.pageAt item path query) := by
  intro offset c page h
  unfold pageAt at h ⊢
  generalize m.pageUrl path query offset = address at h ⊢
  obtain ⟨r, hr, hs⟩ := exists_response_of_readBody h
  exact Conversation.length_answers_request_lt hr hs

/-- All items of a collection that a query selects. -/
def collect {α : Type} (m : MarketplaceClient) (item : Json → Option α) (path query : String)
    (c : Conversation) : Except ClientFailure (List α) × Conversation :=
  collectFrom (m.pageAt item path query) (m.pageAt_takesAnswer item path query) m.pageSize 0 [] c

def post (m : MarketplaceClient) (path : String) (body : RequestBody) (c : Conversation) :
    Option Response × Conversation :=
  c.request (m.url path) (m.make "POST" body)

def journalsPath : String := "billing/journals"

def journals (m : MarketplaceClient) (query : String) (c : Conversation) :
    Except Failure (List Journal) × Conversation :=
  let (result, c) := m.collect Journal.ofJson? journalsPath query c
  (result.mapError ClientFailure.toLedger, c)

def createJournal (m : MarketplaceClient) (journal : NewJournal) (c : Conversation) :
    Except Failure Journal × Conversation :=
  let (response, c) := m.post journalsPath (.json journal.toJson) c
  ((readBody Journal.ofJson? response).mapError ClientFailure.toLedger, c)

def journalFileType : String := "application/jsonl"

/-- The part of a form that carries a file. -/
def filePart (filename mediaType : String) (content : FileContent) : Except ClientFailure FormPart :=
  match MediaType.ofText mediaType with
  | .ok t => .ok (.file "file" filename t content)
  | .error e =>
    .error (.config ("Invalid mime type " ++ mediaType ++ ": builder error: " ++ e.message))

/-- Uploads a file to a journal; the answer is not looked at. -/
def upload (m : MarketplaceClient) (journalId content filename : String) (c : Conversation) :
    Except Failure Unit × Conversation :=
  match filePart filename journalFileType (.text content) with
  | .error e => (.error e.toLedger, c)
  | .ok part =>
    let (response, c) := m.post (journalsPath ++ "/" ++ journalId ++ "/upload") (.form [part]) c
    (((bodyOf response).map fun _ => ()).mapError ClientFailure.toLedger, c)

/-- The name and the description of an attachment. -/
def attachmentLabel {α : Type} (a : Attachment α) : Json :=
  .object [("name", .string a.name), ("description", .string a.description)]

/-- Attaches a file to a journal, and answers the id of the attachment. -/
def attach (m : MarketplaceClient) (journalId : String) (a : Attachment FileContent)
    (c : Conversation) : Except Failure String × Conversation :=
  match filePart a.filename a.mimeType a.content with
  | .error e => (.error e.toLedger, c)
  | .ok part =>
    let form := [.text "attachment" (attachmentLabel a).render, part]
    let (response, c) := m.post (journalsPath ++ "/" ++ journalId ++ "/attachments") (.form form) c
    ((readBody referenceId? response).mapError ClientFailure.toLedger, c)

/-- The authorizations that a query selects; none when there are none. -/
def authorizations (m : MarketplaceClient) (query : String) (c : Conversation) :
    Except Failure (Option (List Authorization)) × Conversation :=
  let (result, c) := m.collect Authorization.ofJson? "catalog/authorizations" query c
  ((result.map fun xs => if xs.isEmpty then none else some xs).mapError ClientFailure.toCommerce, c)

def agreements (m : MarketplaceClient) (query : String) (c : Conversation) :
    Except Failure (List Agreement) × Conversation :=
  let (result, c) := m.collect Agreement.ofJson? "commerce/agreements" query c
  (result.mapError ClientFailure.toCommerce, c)

end MarketplaceClient

end CostJournal
