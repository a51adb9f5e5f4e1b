import CostJournal.Proofs.Decimal.Text
import CostJournal.Proofs.Json.Printing
import CostJournal.Proofs.SortedMap

/-!
# Values that are read back

`Restores write read? a` says that what `write` makes of `a` can be written as JSON, and that `read?` makes
`a` of it again; then it does so of its text (`Restores.ofText?_pretty`). Lists and maps are restored when what
is in them is.
-/

namespace CostJournal.Json

structure Restores {α : Type} (write : α → Json) (read? : Json → Option α) (a : α) : Prop where
  plain : (write a).IsPlain
  read : read? (write a) = some a

def ArePlain (fields : List (String × Json)) : Prop := ∀ f ∈ fields, f.2.IsPlain

namespace ArePlain
variable {α : Type} {name : String} {j : Json} {fields more : List (String × Json)}

theorem nil : ArePlain [] := fun _ h => nomatch h

theorem cons (hj : j.IsPlain) (h : ArePlain fields) : ArePlain ((name, j) :: fields) :=
  List.forall_mem_cons.mpr ⟨hj, h⟩

theorem append (h : ArePlain fields) (hmore : ArePlain more) : ArePlain (fields ++ more) :=
  List.forall_mem_append.mpr ⟨h, hmore⟩

theorem field? {write : α → Json} {value : Option α} (h : ∀ a ∈ value, (write a).IsPlain) :
    ArePlain (field? name write value) := by
  cases value with
  | none => exact nil
  | some a => exact cons (h a rfl) nil

theorem object (h : ArePlain fields) : (Json.object fields).IsPlain := .object h

end ArePlain

namespace Restores
variable {α : Type} {write : α → Json} {read? : Json → Option α} {a : α}

theorem ofText?_pretty (h : Restores write read? a) : (ofText? (write a).pretty).bind read? = some a := by
  rw [Json.ofText?_pretty h.plain, Option.bind_some, h.read]

theorem text (s : String) : Restores .string text? s := ⟨.string s, rfl⟩

theorem list {xs : List α} (h : ∀ x ∈ xs, Restores write read? x) : Restores (ofList write) (list? read?) xs where
  plain := .array (List.forall_mem_map.mpr fun x hx => (h x hx).plain)
  read := mapM_map_eq_some fun x hx => (h x hx).read

theorem map {m : SortedMap α} (h : ∀ e ∈ m.entries, Restores write read? e.2) :
    Restores (ofMap write) (map? read?) m where
  plain := .object (List.forall_mem_map.mpr fun e he => (h e he).plain)
  read := by
    have hentries : (m.entries.map fun e => (e.1, write e.2)).mapM (fun f => (read? f.2).map (f.1, ·)) =
        some m.entries := mapM_map_eq_some fun e he => by rw [(h e he).read, Option.map_some]
    rw [ofMap, map?, hentries, Option.map_some, SortedMap.ofList_entries]

theorem decimal {d : Decimal} (h : ¬d.IsNegativeZero) : Restores ofDecimalText decimal? d where
  plain := .string d.toText
  read := by
    show (Decimal.ofAnyText d.toText).toOption = some d
    rw [Decimal.ofAnyText_toText h]
    rfl

end Restores

end CostJournal.Json
