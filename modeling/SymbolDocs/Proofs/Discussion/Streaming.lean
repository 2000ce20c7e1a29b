/-
What a stream answers, request by request.

A stream is asked for one fragment at a time, and the answers are fixed by the nodes
alone. Number the nodes. Before the first one whose showing is a fault, every node that
shows something not empty is a delivery, with its number. The requests are answered with
the deliveries in their order; the one after the last delivery is answered with the fault,
if there is one, and whatever is asked later is answered with the end. At each answer the
stream has looked at the nodes up to the one that the answer is about, and at no other.

The deliveries are defined by filtering the whole sequence, without a stream. A request
takes the first of them off, whatever the stream had looked at before (`answer_next`);
the answers to any number of requests follow by induction on that number.
-/
import SymbolDocs.Discussion.Fragment

set_option autoImplicit false

namespace SymbolDocs.Discussion

/-! ## The answers by filtering -/

/-- What a node contributes to a discussion: what is shown of it, unless it is empty. -/
def Node.delivery? (n : Node) : Option String :=
  match n.render with
  | .ok (some text) => if text = "" then none else some text
  | _ => none

/-- The fault in showing a node, if it is one. -/
def Node.fault? (n : Node) : Option RenderFault :=
  match n.render with
  | .error fault => some fault
  | .ok _ => none

/-- A node is a fault, contributes a text, or is passed over. -/
theorem fragment?_eq (n : Node) :
    n.fragment? = match n.fault? with
      | some fault => .error fault
      | none => .ok n.delivery? := by
  rw [Node.fragment?, Node.fault?, Node.delivery?]
  cases n.render with
  | error fault => rfl
  | ok shown =>
    cases shown with
    | none => rfl
    | some text =>
      by_cases hempty : text = ""
      · subst hempty
        rfl
      · simp [hempty, Except.map, Option.filter]

namespace Stream

/-- The nodes a stream has not looked at, each with the number of nodes that have been
looked at once it has. -/
def numbered (s : Stream) : List (Node × Nat) :=
  s.pending.zipIdx (s.consumed + 1)

/-- What the nodes before the first fault contribute, with their numbers. -/
def deliveries (s : Stream) : List (String × Nat) :=
  (s.numbered.takeWhile fun place => place.1.fault?.isNone).filterMap fun place =>
    place.1.delivery?.map fun text => (text, place.2)

/-- The first fault, with the number of its node. -/
def firstFault? (s : Stream) : Option (RenderFault × Nat) :=
  s.numbered.findSome? fun place => place.1.fault?.map fun fault => (fault, place.2)

/-- The answer to a request, counted from zero, and the number of nodes looked at when it
is given. -/
def answer (s : Stream) (k : Nat) : Pull × Nat :=
  match s.deliveries[k]? with
  | some (text, number) => (.fragment text, number)
  | none =>
    match s.firstFault? with
    | some (fault, number) =>
      if k = s.deliveries.length then (.failed fault, number) else (.finished, number)
    | none => (.finished, s.consumed + s.pending.length)

/-- A stream after some requests. -/
def after (s : Stream) : Nat → Stream
  | 0 => s
  | count + 1 => s.next.2.after count

/-! ## One node -/

section OneNode

variable {n : Node} {rest : List Node} {consumed : Nat}

theorem numbered_cons :
    numbered ⟨n :: rest, consumed⟩ = (n, consumed + 1) :: numbered ⟨rest, consumed + 1⟩ :=
  rfl

theorem firstFault?_cons_of_none (h : n.fault? = none) :
    firstFault? ⟨n :: rest, consumed⟩ = firstFault? ⟨rest, consumed + 1⟩ := by
  rw [firstFault?, numbered_cons, List.findSome?_cons, h]
  rfl

theorem firstFault?_cons_of_some {fault : RenderFault} (h : n.fault? = some fault) :
    firstFault? ⟨n :: rest, consumed⟩ = some (fault, consumed + 1) := by
  rw [firstFault?, numbered_cons, List.findSome?_cons, h]
  rfl

theorem deliveries_cons_of_none (h : n.fault? = none) :
    deliveries ⟨n :: rest, consumed⟩
      = (n.delivery?.map fun text => (text, consumed + 1)).toList
        ++ deliveries ⟨rest, consumed + 1⟩ := by
  rw [deliveries, numbered_cons, List.takeWhile_cons, if_pos (by rw [h]; rfl),
    List.filterMap_cons]
  cases n.delivery? <;> rfl

theorem deliveries_cons_of_some {fault : RenderFault} (h : n.fault? = some fault) :
    deliveries ⟨n :: rest, consumed⟩ = [] := by
  rw [deliveries, numbered_cons, List.takeWhile_cons, if_neg (by rw [h]; exact nofun),
    List.filterMap_nil]

/-! ### The answers with a node in front -/

/-- Nothing changes if a node is passed over. -/
theorem answer_cons_of_silent (hfault : n.fault? = none) (hsilent : n.delivery? = none)
    (k : Nat) : answer ⟨n :: rest, consumed⟩ k = answer ⟨rest, consumed + 1⟩ k := by
  have hdeliveries : deliveries ⟨n :: rest, consumed⟩ = deliveries ⟨rest, consumed + 1⟩ := by
    rw [deliveries_cons_of_none hfault, hsilent]
    rfl
  have hall : consumed + (n :: rest).length = consumed + 1 + rest.length := by
    rw [List.length_cons]
    omega
  rw [answer, answer, hdeliveries, firstFault?_cons_of_none hfault, hall]

theorem answer_zero_of_delivery {text : String} (hfault : n.fault? = none)
    (htext : n.delivery? = some text) :
    answer ⟨n :: rest, consumed⟩ 0 = (.fragment text, consumed + 1) := by
  rw [answer, deliveries_cons_of_none hfault, htext]
  rfl

/-- A delivery in front is answered first, and moves the other answers on. -/
theorem answer_succ_of_delivery {text : String} (hfault : n.fault? = none)
    (htext : n.delivery? = some text) (k : Nat) :
    answer ⟨n :: rest, consumed⟩ (k + 1) = answer ⟨rest, consumed + 1⟩ k := by
  have hdeliveries : deliveries ⟨n :: rest, consumed⟩
      = (text, consumed + 1) :: deliveries ⟨rest, consumed + 1⟩ := by
    rw [deliveries_cons_of_none hfault, htext]
    rfl
  have hall : consumed + (n :: rest).length = consumed + 1 + rest.length := by
    rw [List.length_cons]
    omega
  rw [answer, answer, hdeliveries, firstFault?_cons_of_none hfault, hall,
    List.getElem?_cons_succ, List.length_cons]
  simp only [Nat.add_right_cancel_iff]

theorem answer_zero_of_fault {fault : RenderFault} (h : n.fault? = some fault) :
    answer ⟨n :: rest, consumed⟩ 0 = (.failed fault, consumed + 1) := by
  rw [answer, deliveries_cons_of_some h, firstFault?_cons_of_some h]
  rfl

theorem answer_succ_of_fault {fault : RenderFault} (h : n.fault? = some fault) (k : Nat) :
    answer ⟨n :: rest, consumed⟩ (k + 1) = (.finished, consumed + 1) := by
  rw [answer, deliveries_cons_of_some h, firstFault?_cons_of_some h]
  rfl

theorem answer_nil (k : Nat) : answer ⟨[], consumed⟩ k = (.finished, consumed) :=
  rfl

end OneNode

/-! ## One request -/

/-- A request gives the first answer and leaves the others. The induction is on the nodes:
those that are passed over change no answer. -/
theorem answer_next (s : Stream) :
    (s.next.1, s.next.2.consumed) = s.answer 0 ∧ ∀ k, s.next.2.answer k = s.answer (k + 1) := by
  obtain ⟨pending, consumed⟩ := s
  rw [next]
  induction pending generalizing consumed with
  | nil => exact ⟨rfl, fun k => by rw [answer_nil]; rfl⟩
  | cons n rest ih =>
    simp only [pullFrom, fragment?_eq]
    cases hfault : n.fault? with
    | some fault =>
      refine ⟨(answer_zero_of_fault hfault).symm, fun k => ?_⟩
      rw [answer_succ_of_fault hfault]
      rfl
    | none =>
      cases htext : n.delivery? with
      | some text =>
        exact ⟨(answer_zero_of_delivery hfault htext).symm,
          fun k => (answer_succ_of_delivery hfault htext k).symm⟩
      | none =>
        obtain ⟨hzero, hlater⟩ := ih (consumed + 1)
        refine ⟨hzero.trans (answer_cons_of_silent hfault htext 0).symm, fun k => ?_⟩
        exact (hlater k).trans (answer_cons_of_silent hfault htext (k + 1)).symm

/-- Unless a request fails, a stream is left with the nodes it has not looked at. -/
theorem pending_next (s : Stream) :
    (∃ fault, s.next.1 = .failed fault)
      ∨ s.consumed ≤ s.next.2.consumed
        ∧ s.next.2.pending = s.pending.drop (s.next.2.consumed - s.consumed) := by
  obtain ⟨pending, consumed⟩ := s
  rw [next]
  induction pending generalizing consumed with
  | nil => exact .inr ⟨Nat.le_refl _, by rw [List.drop_nil]; rfl⟩
  | cons n rest ih =>
    simp only [pullFrom]
    cases n.fragment? with
    | error fault => exact .inl ⟨fault, rfl⟩
    | ok shown =>
      cases shown with
      | some text => exact .inr ⟨Nat.le_succ _, by rw [Nat.add_sub_cancel_left]; rfl⟩
      | none =>
        refine (ih (consumed + 1)).imp_right fun ⟨hle, hrest⟩ => ?_
        simp only at hle hrest ⊢
        refine ⟨Nat.le_of_succ_le hle, ?_⟩
        rw [hrest, show (pullFrom (consumed + 1) rest).2.consumed - consumed
          = (pullFrom (consumed + 1) rest).2.consumed - (consumed + 1) + 1 by omega,
          List.drop_succ_cons]

/-! ## Many requests -/

/-- The answers to requests in a row are the first ones. -/
theorem pulls_eq (s : Stream) (count : Nat) :
    s.pulls count = (List.range count).map s.answer := by
  induction count generalizing s with
  | zero => rfl
  | succ count ih =>
    obtain ⟨hnow, hlater⟩ := answer_next s
    have hpulls : s.pulls (count + 1)
        = (s.next.1, s.next.2.consumed) :: s.next.2.pulls count := rfl
    rw [hpulls, List.range_succ_eq_map, List.map_cons, List.map_map, hnow, ih s.next.2]
    exact congrArg _ (List.map_congr_left fun k _ => hlater k)

/-- What a stream has not looked at after some requests, unless one of them failed. -/
theorem pending_after (s : Stream) (count : Nat) :
    (∃ k < count, ∃ fault, (s.answer k).1 = .failed fault)
      ∨ s.consumed ≤ (s.after count).consumed
        ∧ (s.after count).pending
          = s.pending.drop ((s.after count).consumed - s.consumed) := by
  induction count generalizing s with
  | zero => exact .inr ⟨Nat.le_refl _, by rw [after, Nat.sub_self, List.drop_zero]⟩
  | succ count ih =>
    obtain ⟨hnow, hlater⟩ := answer_next s
    rcases pending_next s with ⟨fault, hfault⟩ | ⟨hle, hpending⟩
    · exact .inl ⟨0, Nat.succ_pos count, fault, by rw [← hnow]; exact hfault⟩
    rcases ih s.next.2 with ⟨k, hk, fault, hfault⟩ | ⟨hle', hpending'⟩
    · exact .inl ⟨k + 1, Nat.succ_lt_succ hk, fault, by rw [← hlater]; exact hfault⟩
    refine .inr ⟨Nat.le_trans hle hle', ?_⟩
    rw [after, hpending', hpending, List.drop_drop]
    congr 1
    omega

end Stream

/-- All fragments at once are the deliveries, unless there is a fault. -/
theorem fragments_eq (nodes : List Node) (consumed : Nat) :
    fragments nodes = match Stream.firstFault? ⟨nodes, consumed⟩ with
      | some (fault, _) => .error fault
      | none => .ok ((Stream.deliveries ⟨nodes, consumed⟩).map Prod.fst) := by
  induction nodes generalizing consumed with
  | nil => rfl
  | cons n rest ih =>
    rw [fragments, fragment?_eq]
    cases hfault : n.fault? with
    | some fault =>
      rw [Stream.firstFault?_cons_of_some hfault]
      rfl
    | none =>
      rw [Stream.firstFault?_cons_of_none hfault, Stream.deliveries_cons_of_none hfault,
        ih (consumed + 1)]
      cases Stream.firstFault? ⟨rest, consumed + 1⟩ with
      | some fault => rfl
      | none => cases n.delivery? <;> rfl

/-- **A stream delivers what filtering delivers, one at a time.** Before the first request
nothing is looked at. The answers to any number of requests are the deliveries in order,
each given when the nodes up to its own have been looked at, then the first fault, if
there is one, given when its node has been looked at, and from then on the end, without a
further look; without a fault the end is reported once all nodes have been looked at.
What was not looked at is left as it is, until a request fails. Showing all nodes at once
gives the same fragments, or the same fault. -/
theorem pulls_eq_answers (nodes : List Node) :
    (Stream.ofNodes nodes).consumed = 0
    ∧ (∀ count, (Stream.ofNodes nodes).pulls count
        = (List.range count).map (Stream.ofNodes nodes).answer)
    ∧ (∀ count, (∃ k < count, ∃ fault, ((Stream.ofNodes nodes).answer k).1 = .failed fault)
        ∨ ((Stream.ofNodes nodes).after count).pending
          = nodes.drop ((Stream.ofNodes nodes).after count).consumed)
    ∧ fragments nodes = match (Stream.ofNodes nodes).firstFault? with
        | some (fault, _) => .error fault
        | none => .ok ((Stream.ofNodes nodes).deliveries.map Prod.fst) := by
  refine ⟨rfl, Stream.pulls_eq _, fun count => ?_, fragments_eq nodes 0⟩
  exact (Stream.pending_after (Stream.ofNodes nodes) count).imp_right And.right

/-- A node put together by hand, without children: it shows its text, or it is a link that
begins with no element. -/
def childless (kind : Kind) (text : String) : Node :=
  { name := some "Para", description := text, text := some text, isElement := true
    attributes := [], children := [], kind := kind }

/-- An empty text is passed over, and what comes after a fault is not looked at. -/
example :
    (Stream.ofNodes [childless .text "a", childless .text "", childless .link "b",
        childless .text "c"]).pulls 3
      = [(.fragment "a", 1), (.failed .noFirstElement, 3), (.finished, 3)] := by
  decide

end SymbolDocs.Discussion
