import LineMachine.Value
import Mathlib.Algebra.BigOperators.Group.List.Basic
import Mathlib.Algebra.Ring.Int.Defs

namespace LineMachine.Value

variable {ν : Type}

mutual

/-- The numbers of a value at any depth, from left to right. -/
def leaves : Value ν → List ν
  | .number amount => [amount]
  | .list items => leavesOf items

def leavesOf : List (Value ν) → List ν
  | [] => []
  | item :: rest => leaves item ++ leavesOf rest

end

theorem leavesOf_eq_flatMap (items : List (Value ν)) : leavesOf items = items.flatMap leaves := by
  induction items with
  | nil => rfl
  | cons item rest inductionHypothesis =>
    rw [leavesOf, inductionHypothesis, List.flatMap_cons]

@[simp] theorem leavesOf_append (first second : List (Value ν)) :
    leavesOf (first ++ second) = leavesOf first ++ leavesOf second := by
  simp only [leavesOf_eq_flatMap, List.flatMap_append]

/-- A nested list counts as much as its items in its place. -/
@[simp] theorem leavesOf_list (inner after : List (Value ν)) :
    leavesOf (.list inner :: after) = leavesOf inner ++ leavesOf after := rfl

/-- A list with its items in another order or in other groups, at any level. A nested list may be
flattened in its place, and neighbours may be wrapped into a nested list. -/
inductive Rearranged : List (Value ν) → List (Value ν) → Prop
  | reorder {first second : List (Value ν)} (permuted : first.Perm second) :
      Rearranged first second
  | flatten (before inner after : List (Value ν)) :
      Rearranged (before ++ .list inner :: after) (before ++ (inner ++ after))
  | group (before inner after : List (Value ν)) :
      Rearranged (before ++ (inner ++ after)) (before ++ .list inner :: after)
  | inside {inner other : List (Value ν)} (before after : List (Value ν))
      (rearranged : Rearranged inner other) :
      Rearranged (before ++ .list inner :: after) (before ++ .list other :: after)
  | trans {first second third : List (Value ν)} (before : Rearranged first second)
      (after : Rearranged second third) : Rearranged first third

namespace Rearranged

variable {first second : List (Value ν)}

theorem symm (rearranged : Rearranged first second) : Rearranged second first := by
  induction rearranged with
  | reorder permuted => exact .reorder permuted.symm
  | flatten before inner after => exact .group before inner after
  | group before inner after => exact .flatten before inner after
  | inside before after _ inductionHypothesis => exact .inside before after inductionHypothesis
  | trans _ _ earlier later => exact later.trans earlier

/-- Neighbours may be rearranged among themselves: as a group of their own, for a while. -/
theorem between (rearranged : Rearranged first second) (before after : List (Value ν)) :
    Rearranged (before ++ (first ++ after)) (before ++ (second ++ after)) :=
  ((group before first after).trans (rearranged.inside before after)).trans
    (flatten before second after)

/-- Whatever is rearranged has the same numbers. -/
theorem leaves_perm (rearranged : Rearranged first second) :
    (leavesOf first).Perm (leavesOf second) := by
  induction rearranged with
  | reorder permuted =>
    rw [leavesOf_eq_flatMap, leavesOf_eq_flatMap]
    exact permuted.flatMap_right leaves
  | flatten before inner after => simp
  | group before inner after => simp
  | inside before after _ inductionHypothesis =>
    rw [leavesOf_append, leavesOf_append, leavesOf_list, leavesOf_list]
    exact (inductionHypothesis.append_right _).append_left _
  | trans _ _ earlier later => exact earlier.trans later

mutual

/-- A value can be broken up into its numbers. -/
theorem number_leaves : ∀ value : Value ν, Rearranged [value] (value.leaves.map .number)
  | .number _ => .reorder (.refl _)
  | .list items => by
    have broken : Rearranged [.list items] items := by simpa using flatten [] items []
    exact broken.trans (number_leavesOf items)

theorem number_leavesOf :
    ∀ items : List (Value ν), Rearranged items ((leavesOf items).map .number)
  | [] => .reorder (.refl _)
  | item :: rest => by
    have front : Rearranged (item :: rest) (item.leaves.map .number ++ rest) :=
      (number_leaves item).between [] rest
    have back := (number_leavesOf rest).between (item.leaves.map .number) []
    rw [List.append_nil, List.append_nil] at back
    rw [leavesOf, List.map_append]
    exact front.trans back

end

end Rearranged

/-- Two lists are rearrangements of each other exactly if they have the same numbers. -/
theorem rearranged_iff {first second : List (Value ν)} :
    Rearranged first second ↔ (leavesOf first).Perm (leavesOf second) := by
  constructor
  · exact Rearranged.leaves_perm
  · intro permuted
    have exchanged : Rearranged ((leavesOf first).map number) ((leavesOf second).map number) :=
      .reorder (permuted.map number)
    exact ((Rearranged.number_leavesOf first).trans exchanged).trans
      (Rearranged.number_leavesOf second).symm

/-- The exact sum of some words. -/
def exactSum (amounts : List Int64) : Int := (amounts.map Int64.toInt).sum

@[simp] theorem exactSum_append (first second : List Int64) :
    exactSum (first ++ second) = exactSum first + exactSum second := by
  simp [exactSum]

theorem exactSum_perm {first second : List Int64} (permuted : first.Perm second) :
    exactSum first = exactSum second :=
  (permuted.map Int64.toInt).sum_eq

mutual

/-- Adding up a value wraps its exact sum around. -/
theorem sum_eq : ∀ value : Value Int64, value.sum = Int64.ofInt (exactSum value.leaves)
  | .number amount => by simp [sum, leaves, exactSum]
  | .list items => by
    rw [sum, leaves, addItems_eq _ items]
    exact Int64.zero_add _

/-- Every total on the way has wrapped around, and the next one is right nevertheless. -/
theorem addItems_eq (total : Int64) :
    ∀ items : List (Value Int64),
      addItems total items = total + Int64.ofInt (exactSum (leavesOf items))
  | [] => by simp [addItems, leavesOf, exactSum]
  | item :: rest => by
    rw [addItems, addItems_eq _ rest, sum_eq item, leavesOf, exactSum_append, Int64.ofInt_add]
    exact Int64.add_assoc _ _ _

end

theorem sumItems_eq (items : List (Value Int64)) :
    sumItems items = Int64.ofInt (exactSum (leavesOf items)) :=
  sum_eq (.list items)

/-- The sum of a nested list is the exact sum of its numbers, reduced into the range of a word. So
no rearrangement of the list changes it, and its rearrangements are all the lists with the same
numbers. -/
theorem sum_wraps_leaves (items : List (Value Int64)) :
    (sumItems items).toInt = wrap ((leavesOf items).map Int64.toInt).sum ∧
      ∀ other : List (Value Int64),
        (Rearranged items other ↔ (leavesOf items).Perm (leavesOf other)) ∧
          (Rearranged items other → sumItems other = sumItems items) := by
  constructor
  · rw [sumItems_eq, Int64.toInt_ofInt]
    rfl
  · intro other
    refine ⟨rearranged_iff, fun rearranged => ?_⟩
    rw [sumItems_eq, sumItems_eq, exactSum_perm rearranged.leaves_perm]

/-- A list whose running total overflows at its second item and again at its third, and its numbers
in another order and in other groups. -/
theorem sum_wraps_leaves_overflowing :
    let items : List (Value Int64) := [.number 9223372036854775807, .list [.number 1, .list []],
      .list [.list [.number 9223372036854775807], .number 3]]
    let other : List (Value Int64) := [.list [.number 3, .list [.number 9223372036854775807]],
      .list [], .number 9223372036854775807, .number 1]
    Rearranged items other ∧ (sumItems (items.take 2)).toInt = -9223372036854775808 ∧
      ((leavesOf items).map Int64.toInt).sum = 18446744073709551618 ∧
      (sumItems items).toInt = 2 ∧ (sumItems other).toInt = 2 := by
  intro items other
  obtain ⟨permuted, overflown, unbounded, wrapped⟩ :
      (leavesOf items).Perm (leavesOf other) ∧
      (sumItems (items.take 2)).toInt = -9223372036854775808 ∧
      ((leavesOf items).map Int64.toInt).sum = 18446744073709551618 ∧
      wrap 18446744073709551618 = 2 := by
    decide +kernel
  obtain ⟨total, rearrangements⟩ := sum_wraps_leaves items
  obtain ⟨characterized, unchanged⟩ := rearrangements other
  have rearranged := characterized.mpr permuted
  rw [unbounded, wrapped] at total
  refine ⟨rearranged, overflown, unbounded, total, ?_⟩
  rw [unchanged rearranged, total]

end LineMachine.Value
