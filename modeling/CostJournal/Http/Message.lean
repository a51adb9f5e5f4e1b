import CostJournal.Archive
import CostJournal.Http.Url

/-!
# Requests and responses

What is sent to a server and what comes back, as far as the program looks at it.
-/

namespace CostJournal

/-- One part of a form, with its headers in order. -/
structure FormPart where
  headers : List String
  content : FileContent
deriving DecidableEq

namespace FormPart

/-- A file name between quotes: quotes, backslashes and line ends follow a backslash. -/
def quotedName (s : String) : String :=
  String.ofList <| s.toList.flatMap fun c =>
    if c == '"' || c == '\\' || c == '\n' || c == '\r' then ['\\', c] else [c]

def text (name content : String) : FormPart :=
  ⟨["Content-Disposition: form-data; name=\"" ++ name ++ "\""], .text content⟩

def file (name filename mediaType : String) (content : FileContent) : FormPart :=
  ⟨["Content-Disposition: form-data; name=\"" ++ name ++ "\"; filename=\"" ++ quotedName filename ++ "\"",
    "Content-Type: " ++ mediaType], content⟩

end FormPart

inductive RequestBody where
  | empty
  | json (j : Json)
  | form (parts : List FormPart)

structure Request where
  method : String
  url : Url
  /-- The header of that name, without blanks at its end. -/
  authorization : Option String := none
  body : RequestBody := .empty
  /-- What the server is asked for. -/
  target : String := url.target

structure Response where
  status : Nat := 200
  body : String := ""
deriving DecidableEq

namespace Response

def isSuccess (r : Response) : Bool := 200 ≤ r.status && r.status < 300

/-- The statuses of responses that end an exchange; after others none would follow. -/
def isFinal (r : Response) : Bool := r.status == 101 || (200 ≤ r.status && r.status < 1000)

/-- The body as text: without a byte order mark, and empty for a status that has no body. -/
def text (r : Response) : String :=
  if [101, 204, 304].contains r.status then ""
  else match r.body.toList with
    | '\uFEFF' :: cs => String.ofList cs
    | _ => r.body

/-- The standard phrases for statuses. -/
def reasons : List (Nat × String) :=
  [(100, "Continue"), (101, "Switching Protocols"), (102, "Processing"),
    (200, "OK"), (201, "Created"), (202, "Accepted"), (203, "Non Authoritative Information"),
    (204, "No Content"), (205, "Reset Content"), (206, "Partial Content"), (207, "Multi-Status"),
    (208, "Already Reported"), (226, "IM Used"),
    (300, "Multiple Choices"), (301, "Moved Permanently"), (302, "Found"), (303, "See Other"),
    (304, "Not Modified"), (305, "Use Proxy"), (307, "Temporary Redirect"),
    (308, "Permanent Redirect"),
    (400, "Bad Request"), (401, "Unauthorized"), (402, "Payment Required"), (403, "Forbidden"),
    (404, "Not Found"), (405, "Method Not Allowed"), (406, "Not Acceptable"),
    (407, "Proxy Authentication Required"), (408, "Request Timeout"), (409, "Conflict"),
    (410, "Gone"), (411, "Length Required"), (412, "Precondition Failed"),
    (413, "Payload Too Large"), (414, "URI Too Long"), (415, "Unsupported Media Type"),
    (416, "Range Not Satisfiable"), (417, "Expectation Failed"), (418, "I'm a teapot"),
    (421, "Misdirected Request"), (422, "Unprocessable Entity"), (423, "Locked"),
    (424, "Failed Dependency"), (426, "Upgrade Required"), (428, "Precondition Required"),
    (429, "Too Many Requests"), (431, "Request Header Fields Too Large"),
    (451, "Unavailable For Legal Reasons"),
    (500, "Internal Server Error"), (501, "Not Implemented"), (502, "Bad Gateway"),
    (503, "Service Unavailable"), (504, "Gateway Timeout"), (505, "HTTP Version Not Supported"),
    (506, "Variant Also Negotiates"), (507, "Insufficient Storage"), (508, "Loop Detected"),
    (510, "Not Extended"), (511, "Network Authentication Required")]

/-- The status and its standard phrase. -/
def statusText (r : Response) : String :=
  natText r.status ++ " " ++ (reasons.lookup r.status).getD "<unknown status code>"

end Response

end CostJournal
