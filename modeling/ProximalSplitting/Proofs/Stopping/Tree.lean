import Mathlib.Data.List.Nodup
import ProximalSplitting.Proofs.Stopping.Agreement

/-!
The criteria of a tree and their numbers. A number stands for one criterion, so a criterion that
stands at two places repeats its single criteria; where these are all different, so are the numbers
of all criteria of the tree.
-/

namespace ProximalSplitting

namespace Criterion

variable {S : Type}

mutual

def nodes : Criterion S → List (Criterion S)
  | .single number test => [.single number test]
  | .set number connective members => .set number connective members :: nodesOfAll members

def nodesOfAll : List (Criterion S) → List (Criterion S)
  | [] => []
  | first :: rest => nodes first ++ nodesOfAll rest

end

structure Proper (criteria : List (Criterion S)) : Prop where
  identified : ∀ left ∈ criteria, ∀ right ∈ criteria, left.number = right.number → left = right
  inhabited : ∀ number connective, .set number connective [] ∉ criteria

theorem Proper.mono {fewer criteria : List (Criterion S)} (proper : Proper criteria)
    (among : ∀ criterion ∈ fewer, criterion ∈ criteria) : Proper fewer where
  identified := fun left member right memberToo =>
    proper.identified left (among left member) right (among right memberToo)
  inhabited := fun number connective member =>
    proper.inhabited number connective (among _ member)

theorem Proper.of_distinct {criteria : List (Criterion S)}
    (distinct : (criteria.map number).Nodup)
    (inhabited : ∀ number connective, .set number connective [] ∉ criteria) : Proper criteria where
  identified := fun _ member _ memberToo same =>
    List.inj_on_of_nodup_map distinct member memberToo same
  inhabited := inhabited

theorem mem_nodes_self (criterion : Criterion S) : criterion ∈ criterion.nodes := by
  cases criterion with
  | single number test => rw [nodes]; exact List.mem_singleton_self _
  | set number connective members => rw [nodes]; exact List.mem_cons_self

mutual

theorem nodes_trans : ∀ {criterion node inner : Criterion S}, node ∈ criterion.nodes →
    inner ∈ node.nodes → inner ∈ criterion.nodes
  | .single number test, node, inner, member, inside => by
      rw [nodes, List.mem_singleton] at member
      rwa [← member]
  | .set number connective members, node, inner, member, inside => by
      rw [nodes] at member
      rcases List.mem_cons.mp member with rfl | deeper
      · exact inside
      · rw [nodes]
        exact List.mem_cons_of_mem _ (nodesOfAll_trans deeper inside)

theorem nodesOfAll_trans : ∀ {members : List (Criterion S)} {node inner : Criterion S},
    node ∈ nodesOfAll members → inner ∈ node.nodes → inner ∈ nodesOfAll members
  | [], _, _, member, _ => by cases member
  | first :: rest, node, inner, member, inside => by
      rw [nodesOfAll] at member ⊢
      rcases List.mem_append.mp member with deeper | later
      · exact List.mem_append_left _ (nodes_trans deeper inside)
      · exact List.mem_append_right _ (nodesOfAll_trans later inside)

end

mutual

theorem map_number_nodes : ∀ criterion : Criterion S,
    criterion.nodes.map number = criterion.numbers
  | .single number test => by rw [nodes, numbers]; rfl
  | .set number connective members => by
      rw [nodes, numbers, List.map_cons, map_number_nodesOfAll members]
      rfl

theorem map_number_nodesOfAll : ∀ members : List (Criterion S),
    (nodesOfAll members).map number = numbersOfAll members
  | [] => rfl
  | first :: rest => by
      rw [nodesOfAll, numbersOfAll, List.map_append, map_number_nodes first,
        map_number_nodesOfAll rest]

end

mutual

theorem mem_leaves_iff {leaf : Nat × StoppingTest S} : ∀ {criterion : Criterion S},
    leaf ∈ criterion.leaves ↔ .single leaf.1 leaf.2 ∈ criterion.nodes
  | .single number test => by
      rw [leaves, nodes, List.mem_singleton, List.mem_singleton, Criterion.single.injEq,
        Prod.ext_iff]
  | .set number connective members => by
      rw [leaves, nodes, mem_leavesOfAll_iff, List.mem_cons]
      constructor
      · exact .inr
      · rintro (same | inside)
        · cases same
        · exact inside

theorem mem_leavesOfAll_iff {leaf : Nat × StoppingTest S} : ∀ {members : List (Criterion S)},
    leaf ∈ leavesOfAll members ↔ .single leaf.1 leaf.2 ∈ nodesOfAll members
  | [] => by rw [leavesOfAll, nodesOfAll]; simp
  | first :: rest => by
      rw [leavesOfAll, nodesOfAll, List.mem_append, List.mem_append, mem_leaves_iff,
        mem_leavesOfAll_iff]

end

mutual

theorem sizeOf_le_of_mem_nodes : ∀ {criterion node : Criterion S}, node ∈ criterion.nodes →
    sizeOf node ≤ sizeOf criterion
  | .single number test, node, member => by
      rw [nodes, List.mem_singleton] at member
      exact Nat.le_of_eq (congrArg sizeOf member)
  | .set number connective members, node, member => by
      rw [nodes] at member
      rcases List.mem_cons.mp member with rfl | inside
      · exact Nat.le_refl _
      · have smaller := sizeOf_lt_of_mem_nodesOfAll inside
        simp only [Criterion.set.sizeOf_spec]
        omega

theorem sizeOf_lt_of_mem_nodesOfAll : ∀ {members : List (Criterion S)} {node : Criterion S},
    node ∈ nodesOfAll members → sizeOf node < sizeOf members
  | [], node, member => by cases member
  | first :: rest, node, member => by
      rw [nodesOfAll] at member
      simp only [List.cons.sizeOf_spec]
      rcases List.mem_append.mp member with inside | later
      · have smaller := sizeOf_le_of_mem_nodes inside
        omega
      · have smaller := sizeOf_lt_of_mem_nodesOfAll later
        omega

end

theorem exists_leaf : ∀ {criterion : Criterion S}, Proper criterion.nodes →
    ∃ leaf, leaf ∈ criterion.leaves
  | .single number test, _ => ⟨_, List.mem_singleton_self _⟩
  | .set number connective [], proper =>
      absurd (mem_nodes_self _) (proper.inhabited number connective)
  | .set number connective (first :: rest), proper => by
      have firstProper : Proper first.nodes := proper.mono fun criterion member => by
        rw [nodes, nodesOfAll]
        exact List.mem_cons_of_mem _ (List.mem_append_left _ member)
      obtain ⟨leaf, inside⟩ := exists_leaf firstProper
      rw [leaves, leavesOfAll]
      exact ⟨leaf, List.mem_append_left _ inside⟩

mutual

theorem nodup_numbers : ∀ {criterion : Criterion S}, Proper criterion.nodes →
    (criterion.leaves.map Prod.fst).Nodup → criterion.numbers.Nodup
  | .single number test, _, distinct => distinct
  | .set number connective members, proper, distinct => by
      rw [nodes] at proper
      rw [numbers, List.nodup_cons]
      constructor
      · intro repeated
        rw [← map_number_nodesOfAll] at repeated
        obtain ⟨inner, inside, same⟩ := List.mem_map.mp repeated
        have isWhole := proper.identified inner (List.mem_cons_of_mem _ inside) _
          List.mem_cons_self same
        have smaller := sizeOf_lt_of_mem_nodesOfAll inside
        rw [isWhole, Criterion.set.sizeOf_spec] at smaller
        omega
      · exact nodup_numbersOfAll
          (proper.mono fun criterion member => List.mem_cons_of_mem _ member) distinct

theorem nodup_numbersOfAll : ∀ {members : List (Criterion S)}, Proper (nodesOfAll members) →
    ((leavesOfAll members).map Prod.fst).Nodup → (numbersOfAll members).Nodup
  | [], _, _ => List.nodup_nil
  | first :: rest, proper, distinct => by
      rw [nodesOfAll] at proper
      rw [leavesOfAll, List.map_append, List.nodup_append] at distinct
      obtain ⟨firstDistinct, restDistinct, apart⟩ := distinct
      have firstProper : Proper first.nodes :=
        proper.mono fun criterion member => List.mem_append_left _ member
      have restProper : Proper (nodesOfAll rest) :=
        proper.mono fun criterion member => List.mem_append_right _ member
      rw [numbersOfAll, List.nodup_append]
      refine ⟨nodup_numbers firstProper firstDistinct, nodup_numbersOfAll restProper restDistinct, ?_⟩
      rintro number inFirst _ inRest rfl
      rw [← map_number_nodes] at inFirst
      rw [← map_number_nodesOfAll] at inRest
      obtain ⟨node, member, rfl⟩ := List.mem_map.mp inFirst
      obtain ⟨again, memberAgain, same⟩ := List.mem_map.mp inRest
      -- The node stands in both parts, and brings a leaf with it into each.
      obtain rfl := proper.identified again (List.mem_append_right _ memberAgain) node
        (List.mem_append_left _ member) same
      obtain ⟨leaf, inside⟩ := exists_leaf (firstProper.mono fun _ => nodes_trans member)
      rw [mem_leaves_iff] at inside
      have leftLeaf := mem_leaves_iff.mpr (nodes_trans member inside)
      have rightLeaf := mem_leavesOfAll_iff.mpr (nodesOfAll_trans memberAgain inside)
      exact apart leaf.1 (List.mem_map_of_mem leftLeaf) leaf.1 (List.mem_map_of_mem rightLeaf) rfl

end

end Criterion

end ProximalSplitting
