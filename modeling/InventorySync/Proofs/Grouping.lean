import InventorySync.Transaction.Operation
import Mathlib.Data.List.Chain

/-!
How operations are divided between requests. A division cuts the operations into
groups, none of them empty, in which an operation that needs a request of its own is
alone. There are many of them. The grouping of a policy is the one that leaves no two
neighbours apart which could share a request, and for that reason the shortest one;
every other division is longer.
-/

namespace InventorySync.GroupingPolicy

set_option autoImplicit false

variable (policy : GroupingPolicy)

/-- Whether a group is made of operations that share a request. -/
def shares (members : List Operation) : Bool :=
  members.all fun operation => !policy.isDedicated operation.kind

/-- The groups are one way to divide the operations. -/
structure Divides (operations : List Operation) (groups : List (List Operation)) : Prop where
  flatten : groups.flatten = operations
  filled : ∀ members ∈ groups, members ≠ []
  alone : ∀ members ∈ groups, ∀ operation ∈ members,
    policy.isDedicated operation.kind → members = [operation]

/-- Puts a group in front. It becomes one with the next group if the two can share a request. -/
def join (members : List Operation) : List (List Operation) → List (List Operation)
  | [] => [members]
  | next :: others =>
      if policy.shares members && policy.shares next then (members ++ next) :: others
      else members :: next :: others

section Joining

variable {policy} {members : List Operation} {groups : List (List Operation)}

theorem join_cons (next : List Operation) (others : List (List Operation)) :
    policy.join members (next :: others) =
      if policy.shares members && policy.shares next then (members ++ next) :: others
      else members :: next :: others := rfl

theorem shares_append (first second : List Operation) :
    policy.shares (first ++ second) = (policy.shares first && policy.shares second) :=
  List.all_append

theorem shares_singleton (operation : Operation) :
    policy.shares [operation] = !policy.isDedicated operation.kind := by
  simp [shares]

/-- A group of a division shares a request, or it is one operation that does not. -/
theorem Divides.shares_or_alone {operations : List Operation}
    (divides : policy.Divides operations groups) (member : members ∈ groups) :
    policy.shares members ∨
      ∃ operation, members = [operation] ∧ policy.isDedicated operation.kind := by
  by_cases shared : policy.shares members
  · exact Or.inl shared
  · obtain ⟨operation, inside, dedicated⟩ : ∃ operation ∈ members,
        policy.isDedicated operation.kind := by
      simpa [shares] using shared
    exact Or.inr ⟨operation, divides.alone members member operation inside dedicated, dedicated⟩

theorem Divides.tail {operations : List Operation}
    (divides : policy.Divides operations (members :: groups)) :
    policy.Divides groups.flatten groups :=
  ⟨rfl, fun other member => divides.filled other (List.mem_cons_of_mem _ member),
    fun other member => divides.alone other (List.mem_cons_of_mem _ member)⟩

/-- What shares a request can be put in front at once, or part by part. -/
theorem join_join {first second : List Operation} (head : policy.shares first)
    (next : policy.shares second) :
    policy.join first (policy.join second groups) = policy.join (first ++ second) groups := by
  have both : policy.shares (first ++ second) := by rw [shares_append, head, next]; rfl
  cases groups with
  | nil => simp [join, head, next]
  | cons other groups =>
      by_cases shared : policy.shares other
      · simp [join, shares_append, head, next, shared]
      · simp [join, head, next, both, shared]

theorem length_join_le : (policy.join members groups).length ≤ groups.length + 1 := by
  cases groups with
  | nil => exact Nat.le_refl _
  | cons next others =>
      rw [join_cons]
      split
      · exact Nat.le_add_right _ 1
      · exact Nat.le_refl _

/-- A group that does not merge with the next one only comes on top. -/
theorem join_of_length (longer : (policy.join members groups).length = groups.length + 1) :
    policy.join members groups = members :: groups := by
  cases groups with
  | nil => rfl
  | cons next others =>
      rw [join_cons] at longer ⊢
      split
      · next merged =>
          rw [if_pos merged] at longer
          simp at longer
      · rfl

/-- No group could have been joined to its neighbour. -/
def Merged (policy : GroupingPolicy) (groups : List (List Operation)) : Prop :=
  groups.IsChain fun first second => ¬(policy.shares first ∧ policy.shares second)

theorem Merged.join (merged : policy.Merged groups) : policy.Merged (policy.join members groups) := by
  unfold Merged at *
  cases groups with
  | nil => exact List.isChain_singleton members
  | cons next others =>
      rw [join_cons]
      split
      · cases others with
        | nil => exact List.isChain_singleton _
        | cons other others =>
            rw [List.isChain_cons_cons] at merged ⊢
            refine ⟨fun shared => merged.1 ⟨?_, shared.2⟩, merged.2⟩
            rw [shares_append, Bool.and_eq_true] at shared
            exact shared.1.2
      · next apart =>
          rw [Bool.and_eq_true] at apart
          exact List.isChain_cons_cons.2 ⟨apart, merged⟩

end Joining

section Grouping

theorem alone_in_group {operations members : List Operation} {operation : Operation}
    (member : members ∈ policy.group operations) (inside : operation ∈ members)
    (dedicated : policy.isDedicated operation.kind) : members = [operation] := by
  induction operations generalizing members with
  | nil => cases member
  | cons first later induction =>
      unfold group at member
      split at member
      · next next others groups found =>
          rw [found] at induction
          split at member
          · rcases List.mem_cons.1 member with same | rest
            · rw [same] at inside ⊢
              rw [List.mem_singleton.1 inside]
            · exact induction rest inside
          · next shared =>
              rw [Bool.or_eq_true, not_or] at shared
              rcases List.mem_cons.1 member with same | rest
              · -- The head group has two members at least, so none of them is a dedicated one.
                rw [same, List.mem_cons] at inside
                rcases inside with first | later
                · rw [first] at dedicated
                  exact absurd dedicated shared.1
                · have single := induction List.mem_cons_self later
                  rw [List.cons.injEq] at single
                  rw [← single.1] at dedicated
                  exact absurd dedicated shared.2
              · exact induction (List.mem_cons_of_mem _ rest) inside
      · rcases List.mem_cons.1 member with same | rest
        · rw [same] at inside ⊢
          rw [List.mem_singleton.1 inside]
        · exact induction rest inside

theorem divides_group (operations : List Operation) :
    policy.Divides operations (policy.group operations) :=
  ⟨policy.flatten_group operations, fun _ => policy.ne_nil_of_mem_group,
    fun _ member _ => policy.alone_in_group member⟩

/-- An operation is grouped by putting it, as a group of its own, in front of the others. -/
theorem group_cons (operation : Operation) (later : List Operation) :
    policy.group (operation :: later) = policy.join [operation] (policy.group later) := by
  have divides := policy.divides_group later
  conv_lhs => unfold group
  generalize policy.group later = groups at divides
  cases groups with
  | nil => rfl
  | cons head groups =>
      cases head with
      | nil => exact absurd rfl (divides.filled [] List.mem_cons_self)
      | cons next others =>
          have shared : policy.shares (next :: others) = !policy.isDedicated next.kind := by
            rcases divides.shares_or_alone List.mem_cons_self with all | ⟨other, single, dedicated⟩
            · have first := List.all_eq_true.1 all next List.mem_cons_self
              rw [all, first]
            · rw [single, shares_singleton]
              rw [List.cons.injEq] at single
              rw [single.1]
          rw [join_cons, shared, shares_singleton, ← Bool.not_or]
          simp only
          cases policy.isDedicated operation.kind || policy.isDedicated next.kind <;> rfl

/-- The group with which a division begins can be set aside before the rest is grouped. -/
theorem group_append {operations members : List Operation} {groups : List (List Operation)}
    (divides : policy.Divides operations (members :: groups)) (rest : List Operation) :
    policy.group (members ++ rest) = policy.join members (policy.group rest) := by
  rcases divides.shares_or_alone List.mem_cons_self with shared | ⟨operation, single, -⟩
  · have filled := divides.filled members List.mem_cons_self
    clear divides
    induction members with
    | nil => exact absurd rfl filled
    | cons operation others induction =>
        have own : policy.shares [operation] ∧ policy.shares others := by
          have split := policy.shares_append [operation] others
          rw [List.singleton_append, shared] at split
          simpa using split.symm
        rw [List.cons_append, group_cons]
        by_cases none : others = []
        · rw [none, List.nil_append]
        · rw [induction own.2 none, join_join own.1 own.2, List.singleton_append]
  · rw [single]
    exact policy.group_cons operation rest

theorem merged_group (operations : List Operation) : policy.Merged (policy.group operations) := by
  induction operations with
  | nil => exact List.isChain_nil
  | cons operation later induction =>
      rw [group_cons]
      exact induction.join

/-- A division has at least as many groups as the grouping, and as many only if it is the
grouping. -/
theorem fewest_of_divides {operations : List Operation} {groups : List (List Operation)}
    (divides : policy.Divides operations groups) :
    (policy.group operations).length ≤ groups.length ∧
      (groups.length = (policy.group operations).length → groups = policy.group operations) := by
  induction groups generalizing operations with
  | nil =>
      rw [← divides.flatten]
      exact ⟨Nat.le_refl _, fun _ => rfl⟩
  | cons members groups induction =>
      obtain ⟨shorter, only⟩ := induction divides.tail
      have grouped : policy.group operations =
          policy.join members (policy.group groups.flatten) := by
        rw [← divides.flatten, List.flatten_cons]
        exact policy.group_append divides groups.flatten
      have bound : (policy.join members (policy.group groups.flatten)).length ≤
          (policy.group groups.flatten).length + 1 := policy.length_join_le
      rw [grouped, List.length_cons]
      refine ⟨by omega, fun same => ?_⟩
      -- Neither the rest of the division nor the join can have lost a group.
      have rest : groups = policy.group groups.flatten := only (by omega)
      rw [join_of_length (by omega), ← rest]

/-- The grouping divides the operations, joins all neighbours that can share a request, and is
the only division that has so few groups. -/
structure DividesBest (operations : List Operation) (groups : List (List Operation)) : Prop
    extends policy.Divides operations groups where
  merged : policy.Merged groups
  fewest : ∀ others, policy.Divides operations others → groups.length ≤ others.length
  only : ∀ others, policy.Divides operations others → others.length = groups.length →
    others = groups

theorem grouping_is_fewest (operations : List Operation) :
    policy.DividesBest operations (policy.group operations) where
  toDivides := policy.divides_group operations
  merged := policy.merged_group operations
  fewest _ divides := (policy.fewest_of_divides divides).1
  only _ divides := (policy.fewest_of_divides divides).2

end Grouping

end InventorySync.GroupingPolicy
