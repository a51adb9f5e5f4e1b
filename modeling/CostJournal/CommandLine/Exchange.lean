import CostJournal.Http.Conversation
import CostJournal.Json.Decode
import CostJournal.Json.Printer
import CostJournal.Json.Reader

/-!
# Lines of an exchange

The program leaves the network to whoever runs it: a request is one line of JSON, and so is the
answer.
-/

namespace CostJournal

open Json

def FileContent.toJson : FileContent → Json
  | .text s => .string s
  | .archive entries =>
    .array (entries.map fun e => .object [("name", .string e.1), ("text", .string e.2)])

def FormPart.toJson (p : FormPart) : Json :=
  .object [("headers", Json.ofList .string p.headers), ("content", p.content.toJson)]

def RequestBody.fields : RequestBody → List (String × Json)
  | .empty => []
  | .json j => [("content_type", .string "application/json"), ("json", j)]
  | .form parts =>
    [("content_type", .string "multipart/form-data"), ("parts", Json.ofList FormPart.toJson parts)]

def Request.toJson (r : Request) : Json :=
  .object ([("method", .string r.method), ("url", .string r.url.text), ("target", .string r.target),
    ("authorization", ofOption .string r.authorization)] ++ r.body.fields)

/-- Reads a status and a body, or that the connection was closed. -/
def ServerAnswer.ofJson? (j : Json) : Option ServerAnswer := do
  let r ← j.record? ["status", "body", "drop"]
  if ← r.withDefault "drop" flag? false then return .closed
  return .response ⟨← r.withDefault "status" (natural? 1000) 200, ← r.withDefault "body" text? ""⟩

def ServerAnswer.ofLine? (line : String) : Option ServerAnswer :=
  (Json.ofText? line).bind ServerAnswer.ofJson?

end CostJournal
