import Mathlib.Data.List.Nodup
import Testbed.Sorted

namespace Testbed

variable {α β : Type}

theorem map_insertSorted {before : α → α → Bool} {before' : β → β → Bool} (f : α → β)
    (same : ∀ x y, before' (f x) (f y) = before x y) (x : α) (xs : List α) :
    (insertSorted before x xs).map f = insertSorted before' (f x) (xs.map f) := by
  induction xs with
  | nil => rfl
  | cons y rest ih =>
    simp only [insertSorted, List.map_cons, same]
    split
    · rw [List.map_cons, ih]
    · rfl

theorem map_sortBy {before : α → α → Bool} {before' : β → β → Bool} (f : α → β)
    (same : ∀ x y, before' (f x) (f y) = before x y) (xs : List α) :
    (sortBy before xs).map f = sortBy before' (xs.map f) := by
  induction xs with
  | nil => rfl
  | cons x rest ih =>
    have step := map_insertSorted f same x (sortBy before rest)
    rw [ih] at step
    exact step

section Rank

variable (rank : α → Nat)

theorem insertSorted_pairwise {x : α} {xs : List α} (sorted : xs.Pairwise (rank · ≤ rank ·)) :
    (insertSorted (fun x y => decide (rank x < rank y)) x xs).Pairwise (rank · ≤ rank ·) := by
  induction xs with
  | nil => simp [insertSorted]
  | cons y rest ih =>
    obtain ⟨first, later⟩ := List.pairwise_cons.mp sorted
    simp only [insertSorted, decide_eq_true_eq]
    split
    next less =>
      refine List.pairwise_cons.mpr ⟨fun z member => ?_, ih later⟩
      rcases List.mem_cons.mp ((insertSorted_perm _ x rest).mem_iff.mp member) with rfl | member
      · omega
      · exact first z member
    next more =>
      refine List.pairwise_cons.mpr ⟨fun z member => ?_, sorted⟩
      rcases List.mem_cons.mp member with rfl | member
      · omega
      · have := first z member
        omega

theorem sortBy_pairwise (xs : List α) :
    (sortBy (fun x y => decide (rank x < rank y)) xs).Pairwise (rank · ≤ rank ·) := by
  induction xs with
  | nil => exact .nil
  | cons x rest ih => exact insertSorted_pairwise rank ih

theorem sortBy_eq_of_perm {xs ys : List α} (perm : xs.Perm ys)
    (increasing : ys.Pairwise (rank · < rank ·)) :
    sortBy (fun x y => decide (rank x < rank y)) xs = ys := by
  have sorted := sortBy_perm (fun x y => decide (rank x < rank y)) xs
  have distinct : (ys.map rank).Nodup :=
    (List.pairwise_map.mpr increasing).imp fun less => Nat.ne_of_lt less
  refine List.Perm.eq_of_pairwise ?_ (sortBy_pairwise rank xs)
    (increasing.imp Nat.le_of_lt) (sorted.trans perm)
  intro x y hx hy le ge
  exact List.inj_on_of_nodup_map distinct ((sorted.trans perm).mem_iff.mp hx) hy
    (Nat.le_antisymm le ge)

end Rank

theorem nodup_eraseDups [BEq α] [LawfulBEq α] (xs : List α) : xs.eraseDups.Nodup := by
  match xs with
  | [] => exact .nil
  | x :: rest =>
    rw [List.eraseDups_cons]
    have shorter := List.length_filter_le (fun y => !y == x) rest
    refine List.nodup_cons.mpr ⟨?_, nodup_eraseDups _⟩
    simp [List.mem_eraseDups]
termination_by xs.length

theorem flatMap_filter_perm [BEq β] [LawfulBEq β] (key : α → β) {keys : List β}
    (distinct : keys.Nodup) {xs : List α} (covered : ∀ x ∈ xs, key x ∈ keys) :
    (keys.flatMap fun k => xs.filter fun x => key x == k).Perm xs := by
  induction keys generalizing xs with
  | nil =>
    have none : xs = [] := List.eq_nil_iff_forall_not_mem.mpr fun x member => by
      simpa using covered x member
    simp [none]
  | cons k rest ih =>
    obtain ⟨absent, distinct⟩ := List.nodup_cons.mp distinct
    have others : ∀ x ∈ xs.filter (fun x => !(key x == k)), key x ∈ rest := by
      intro x member
      obtain ⟨member, other⟩ := List.mem_filter.mp member
      rcases List.mem_cons.mp (covered x member) with same | later
      · simp [same] at other
      · exact later
    have parted : (rest.flatMap fun k' => xs.filter fun x => key x == k') =
        rest.flatMap fun k' => (xs.filter fun x => !(key x == k)).filter fun x => key x == k' := by
      refine List.flatMap_congr fun k' member => ?_
      rw [List.filter_filter]
      refine List.filter_congr fun x _ => ?_
      by_cases same : key x = k'
      · have other : ¬ k' = k := fun eq => absent (eq ▸ member)
        simp [same, other]
      · simp [same]
    rw [List.flatMap_cons, parted]
    exact ((ih distinct others).append_left _).trans (List.filter_append_perm _ xs)

theorem perm_of_filter_eq [BEq α] [LawfulBEq α] [BEq β] [LawfulBEq β] (key : α → β)
    {xs ys : List α}
    (same : ∀ k, (xs.filter fun x => key x == k) = ys.filter fun x => key x == k) :
    xs.Perm ys := by
  refine List.perm_iff_count.mpr fun x => ?_
  have counted (zs : List α) : zs.count x = (zs.filter fun z => key z == key x).count x :=
    (List.count_filter (by simp)).symm
  rw [counted xs, counted ys, same]

theorem flatMap_filter_key [BEq β] [LawfulBEq β] {keys : List β} (distinct : keys.Nodup) (k : β)
    (f : β → List α) (missing : k ∉ keys → f k = []) :
    (keys.filter (· == k)).flatMap f = f k := by
  rw [List.filter_beq]
  by_cases member : k ∈ keys
  · simp [List.count_eq_one_of_mem distinct member]
  · simp [List.count_eq_zero_of_not_mem member, missing member]

end Testbed
