import Mathlib.Data.List.Forall2
import Mathlib.Tactic.Common

/-!
# Links that deliver exactly once

The messages in flight on a link form a list, oldest first.  A delivery takes
out the message at some place; a link keeps the order if it always takes the
first one.  A link that keeps what was sent delivers any message at any time.
-/

namespace MinimalSip.Lib.Links

universe u v

variable {α : Type u} {β : Type v}

/-- Take out one message, if there is one at that place. -/
def pick : List α → Nat → Option (α × List α)
  | [], _ => none
  | head :: tail, 0 => some (head, tail)
  | head :: tail, index + 1 =>
      (pick tail index).map (fun picked => (picked.1, head :: picked.2))

theorem pick_split
    {link rest : List α} {index : Nat} {message : α}
    (picked : pick link index = some (message, rest)) :
    ∃ before after, link = before ++ message :: after ∧
      rest = before ++ after := by
  induction link generalizing index rest with
  | nil => cases picked
  | cons head tail ih =>
      cases index with
      | zero =>
          cases picked
          exact ⟨[], tail, rfl, rfl⟩
      | succ index =>
          obtain ⟨⟨later, others⟩, found, same⟩ :=
            Option.map_eq_some_iff.mp picked
          cases same
          obtain ⟨before, after, rfl, rfl⟩ := ih found
          exact ⟨head :: before, after, rfl, rfl⟩

theorem pick_first
    {link rest : List α} {message : α}
    (picked : pick link 0 = some (message, rest)) :
    link = message :: rest := by
  cases link with
  | nil => cases picked
  | cons head tail =>
      cases picked
      rfl

/-- There is a message at every place within the link. -/
theorem pick_eq_none_iff {link : List α} {index : Nat} :
    pick link index = none ↔ link.length ≤ index := by
  induction link generalizing index with
  | nil => exact iff_of_true rfl (Nat.zero_le index)
  | cons head tail ih =>
      cases index with
      | zero => simp [pick]
      | succ index => simp [pick, ih]

/-- Related links deliver related messages at the same place. -/
theorem pick_related
    {related : α → β → Prop} {link : List α} {other : List β}
    (matched : List.Forall₂ related link other) (index : Nat) :
    (pick link index = none ∧ pick other index = none) ∨
      ∃ message rest message' rest',
        pick link index = some (message, rest) ∧
        pick other index = some (message', rest') ∧
        related message message' ∧ List.Forall₂ related rest rest' := by
  induction matched generalizing index with
  | nil => exact Or.inl ⟨rfl, rfl⟩
  | @cons head head' tail tail' here later ih =>
      cases index with
      | zero => exact Or.inr ⟨head, tail, head', tail', rfl, rfl, here, later⟩
      | succ index =>
          rcases ih index with ⟨left, right⟩ |
            ⟨message, rest, message', rest', left, right, same, others⟩
          · exact Or.inl ⟨by rw [pick, left]; rfl, by rw [pick, right]; rfl⟩
          · exact Or.inr ⟨message, head :: rest, message', head' :: rest',
              by rw [pick, left]; rfl, by rw [pick, right]; rfl, same,
              List.Forall₂.cons here others⟩

/-! ## Links that keep what was sent -/

/-- Related links have related messages at every place. -/
theorem getElem?_related
    {related : α → β → Prop}
    {first : List α} {second : List β}
    (links : List.Forall₂ related first second) (index : Nat) :
    first[index]? = none ∧ second[index]? = none ∨
      ∃ one other, first[index]? = some one ∧
        second[index]? = some other ∧ related one other := by
  induction links generalizing index with
  | nil => exact Or.inl ⟨rfl, rfl⟩
  | cons here others ih =>
      cases index with
      | zero => exact Or.inr ⟨_, _, rfl, rfl, here⟩
      | succ index => exact ih index

/-- Copies of one message, each related to its own. -/
theorem forall₂_replicate
    {related : α → β → Prop} {one : α} {messages : List β}
    (each : ∀ message ∈ messages, related one message) :
    List.Forall₂ related (List.replicate messages.length one) messages := by
  induction messages with
  | nil => exact List.Forall₂.nil
  | cons message messages ih =>
      exact List.Forall₂.cons (each message List.mem_cons_self)
        (ih (fun other member => each other (List.mem_cons_of_mem _ member)))

end MinimalSip.Lib.Links
