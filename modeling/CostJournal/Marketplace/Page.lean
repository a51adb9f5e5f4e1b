import CostJournal.Json.Decode

/-!
# Pages of collections

A collection is read page by page. A page may say how long the collection is; if it does not, a full
page means that another one follows.
-/

namespace CostJournal

structure Page (α : Type) where
  /-- The length of the whole collection. -/
  total : Option Nat
  items : List α
deriving DecidableEq

namespace Page

open Json

/-- The total of a description of pages; its other fields only have to be naturals. -/
def paginationTotal? (j : Json) : Option Nat := do
  let r ← j.record? ["offset", "limit", "total"]
  let _ ← r.withDefault "offset" (natural? (twoPow 64)) 0
  let _ ← r.withDefault "limit" (natural? (twoPow 64)) 0
  r.required "total" (natural? (twoPow 64))

def metaTotal? (j : Json) : Option (Option Nat) := do
  (← j.record? ["pagination"]).optional "pagination" paginationTotal?

def ofJson? {α : Type} (item : Json → Option α) (j : Json) : Option (Page α) := do
  let r ← j.record? ["$meta", "data"]
  let total ← r.optional "$meta" metaTotal?
  return ⟨total.bind id, ← r.withDefault "data" (list? item) []⟩

/-- Another page follows one that ends at `offset`. -/
def continues {α : Type} (p : Page α) (pageSize offset : Nat) : Bool :=
  match p.total with
  | some total => offset < total && !p.items.isEmpty
  | none => p.items.length == pageSize

end Page

end CostJournal
