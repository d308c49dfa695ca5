import Mathlib.Data.List.Chain

/-! A sender that offers its bytes to a channel piece by piece, where the channel takes as many bytes from the front of
each piece as it likes. Any type of bytes. -/

namespace Stream

variable {β : Type}

/-- One call of the channel: the bytes it was offered and the number it took. -/
structure Offer (β : Type) where
  offered : List β
  count : Nat
deriving DecidableEq

namespace Offer

def taken (offer : Offer β) : List β := offer.offered.take offer.count

def left (offer : Offer β) : List β := offer.offered.drop offer.count

end Offer

def taken (offers : List (Offer β)) : List β := offers.flatMap Offer.taken

def offered (offers : List (Offer β)) : List β := offers.flatMap Offer.offered

/-- What one call leaves is offered again by the next, before anything else. -/
def Resumed (offers : List (Offer β)) : Prop := offers.IsChain fun earlier later => earlier.left <+: later.offered

def Whole (offers : List (Offer β)) : Prop := ∀ offer ∈ offers, offer.left = []

instance [DecidableEq β] (offers : List (Offer β)) : Decidable (Whole offers) :=
  inferInstanceAs (Decidable (∀ offer ∈ offers, offer.left = []))

variable {offers : List (Offer β)}

theorem Offer.taken_of_left {offer : Offer β} (none : offer.left = []) : offer.taken = offer.offered := by
  rw [← List.append_nil offer.taken, ← none]
  exact List.take_append_drop _ _

theorem taken_of_whole (whole : Whole offers) : taken offers = offered offers := by
  induction offers with
  | nil => rfl
  | cons offer rest ih =>
    have first := Offer.taken_of_left (whole offer List.mem_cons_self)
    have later := ih fun other member => whole other (List.mem_cons_of_mem _ member)
    simpa only [taken, offered, List.flatMap_cons, first, List.append_cancel_left_eq] using later

/-- If only the last call left something, the channel has got a prefix of what it was offered. -/
theorem taken_prefix_of_whole (whole : Whole offers) (last : Offer β) :
    taken (offers ++ [last]) <+: offered (offers ++ [last]) := by
  have front := taken_of_whole whole
  simp only [taken, offered, List.flatMap_append, List.flatMap_singleton] at front ⊢
  rw [front]
  exact (List.prefix_append_right_inj _).mpr (List.take_prefix _ _)

theorem resumed_of_whole (whole : Whole offers) (last : Offer β) : Resumed (offers ++ [last]) := by
  induction offers with
  | nil => exact List.isChain_singleton last
  | cons offer rest ih =>
    have later := ih fun other member => whole other (List.mem_cons_of_mem _ member)
    have first := whole offer List.mem_cons_self
    refine List.isChain_cons.mpr ⟨fun next _ => ?_, later⟩
    rw [first]
    exact List.nil_prefix

end Stream
