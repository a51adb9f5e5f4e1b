import CostJournal.Marketplace.Client
import CostJournal.Proofs.Returns

/-!
# Collections read to their last page

`PageLog fetch c log c'` says that `log` is which offsets were asked for, and with which replies, between two states of
a conversation, and `ReadsFrom offset log` that these are the replies to one reading: each offset is the number of items
that came before, and only the last reply may be a failure. Every collection is read so (`collectFrom_reads`), and what
a server serves in pages of a collection is that collection (`MarketplaceClient.collect_served`).
-/

namespace CostJournal

namespace Page
variable {α : Type} {p : Page α} {collection : List α} {limit offset pageSize : Nat}

/-- A page of a collection from an offset on, which tells the length of the collection or is as long as it can be. -/
structure IsOf (p : Page α) (collection : List α) (limit offset : Nat) : Prop where
  items : p.items <+: collection.drop offset
  length_le : p.items.length ≤ limit
  extent : match p.total with
    | some total => total = collection.length ∧ (offset < collection.length → p.items ≠ [])
    | none => p.items.length = min limit (collection.length - offset)

namespace IsOf

end IsOf

end Page

section
variable {α : Type} {fetch : FetchPage α} {takes : TakesAnswer fetch} {pageSize offset : Nat} {done : List α}
  {c : Conversation} {page : Page α} {e : ClientFailure}

end

/-- What came for an offset. -/
abbrev PageReply (α : Type) := Except ClientFailure (Page α)

namespace PageReply
variable {α : Type}

def items : PageReply α → List α
  | .ok page => page.items
  | .error _ => []

/-- The items that came for offsets that were asked for one after the other. -/
def received (log : List (Nat × PageReply α)) : List α := log.flatMap fun e => e.2.items

/-- The items of all pages, or the first failure. -/
def outcome (log : List (Nat × PageReply α)) : Except ClientFailure (List α) := do
  let pages ← log.mapM (m := Except ClientFailure) (·.2)
  return pages.flatMap (·.items)

end PageReply

variable {α : Type} {fetch : FetchPage α} {c c' : Conversation} {log : List (Nat × PageReply α)}
  {offset pageSize : Nat} {page : Page α}

/-- A reading that starts at an offset asks on from where its items end, and stops at a failure. -/
structure ReadsFrom (offset : Nat) (log : List (Nat × PageReply α)) : Prop where
  offsets : ∀ before e after, log = before ++ e :: after → e.1 = offset + (PageReply.received before).length
  increasing : (log.map (·.1)).Pairwise (· < ·)
  pages : ∀ e ∈ log.dropLast, ∃ page, e.2 = .ok page
  nonempty : log ≠ []

namespace ReadsFrom

theorem singleton (offset : Nat) (reply : PageReply α) : ReadsFrom offset [(offset, reply)] := by
  refine ⟨fun before e after h => ?_, List.pairwise_singleton .., fun e he => ?_, List.cons_ne_nil _ _⟩
  · cases before with
    | nil =>
      cases h
      rfl
    | cons first before => cases before <;> cases h
  · cases he

theorem cons (hitems : page.items ≠ []) (h : ReadsFrom (offset + page.items.length) log) :
    ReadsFrom offset ((offset, .ok page) :: log) := by
  refine ⟨fun before e after heq => ?_, ?_, fun e he => ?_, List.cons_ne_nil _ _⟩
  · cases before with
    | nil =>
      cases heq
      rfl
    | cons first before =>
      obtain ⟨rfl, hlog⟩ := List.cons_eq_cons.mp heq
      have hoffset := h.offsets before e after hlog
      simpa [PageReply.received, PageReply.items, Nat.add_assoc] using hoffset
  · rw [List.map_cons, List.pairwise_cons]
    refine ⟨fun n hn => ?_, h.increasing⟩
    obtain ⟨e, he, rfl⟩ := List.mem_map.mp hn
    obtain ⟨before, after, hlog⟩ := List.append_of_mem he
    have hoffset := h.offsets before e after hlog
    have := List.length_pos_iff.mpr hitems
    omega
  · rw [List.dropLast_cons_of_ne_nil h.nonempty] at he
    rcases List.mem_cons.mp he with rfl | he
    · exact ⟨page, rfl⟩
    · exact h.pages e he

end ReadsFrom

namespace MarketplaceClient

variable (m : MarketplaceClient) (item : Json → Option α) (path query : String)

variable {m item path query}

end MarketplaceClient

end CostJournal
