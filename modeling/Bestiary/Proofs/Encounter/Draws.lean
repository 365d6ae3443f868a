import Mathlib.Data.List.Perm.Subperm
import Bestiary.Proofs.Encounter.Seating
/-!
# Draws — as many as asked for, each from a place of its own

However a sample is made, it has as many items as were asked for and no place is drawn twice (`sample_subperm`).  An
item that is drawn goes and the last one takes its place, or the places are remembered and a free one is looked for.
-/
namespace Bestiary
namespace Draws

variable {α : Type}

theorem below_lt {n : Nat} (positive : 0 < n) (d : Draws) : (below n d).1 < n := by
  unfold below
  split
  · exact positive
  · have low := Int.emod_nonneg (d.numbers[d.drawn % d.numbers.length]?.getD 0) (b := n) (by omega)
    have high := Int.emod_lt_of_pos (d.numbers[d.drawn % d.numbers.length]?.getD 0) (b := n) (by omega)
    simp only
    omega

/-- **With the last item in the place of a drawn one, the others are left.** -/
theorem drawn_cons_perm (xs : List α) (last : α) {n : Nat} {drawn : α} (at_n : (xs ++ [last])[n]? = some drawn) :
    (drawn :: ((xs ++ [last]).set n last).dropLast).Perm (xs ++ [last]) := by
  obtain ⟨bound, here⟩ := List.getElem?_eq_some_iff.1 at_n
  rw [List.length_append, List.length_singleton] at bound
  by_cases inside : n < xs.length
  · -- The last item moves to the place of the drawn one.
    rw [List.getElem_append_left inside] at here
    rw [List.set_append_left _ _ inside, List.dropLast_concat, List.set_eq_take_append_cons_drop, if_pos inside]
    have parts : xs = xs.take n ++ drawn :: xs.drop (n + 1) := by
      rw [← here, ← List.drop_eq_getElem_cons inside, List.take_append_drop]
    calc (drawn :: (xs.take n ++ last :: xs.drop (n + 1))).Perm (drawn :: last :: (xs.take n ++ xs.drop (n + 1))) :=
          .cons _ List.perm_middle
      _ |>.Perm (last :: drawn :: (xs.take n ++ xs.drop (n + 1))) := .swap _ _ _
      _ |>.Perm (last :: (xs.take n ++ drawn :: xs.drop (n + 1))) := .cons _ List.perm_middle.symm
      _ |>.Perm (xs ++ [last]) := by
        rw [← parts]
        exact (List.perm_append_singleton last xs).symm
  · -- The drawn item is the last one, and nothing moves.
    have at_end : n = xs.length := by omega
    subst at_end
    rw [List.getElem_append_right (Nat.le_refl _)] at here
    simp at here
    subst here
    have kept : ((xs ++ [last]).set xs.length last).dropLast = xs := by simp
    rw [kept]
    exact (List.perm_append_singleton last xs).symm

/-- Items that are drawn and not put back are so many of those there are. -/
theorem drawFrom_subperm : ∀ (count : Nat) (pool : List α) (d : Draws), count ≤ pool.length →
    (drawFrom count pool d).1.length = count ∧ (drawFrom count pool d).1.Subperm pool
  | 0, pool, _, _ => ⟨rfl, List.nil_subperm⟩
  | count + 1, pool, d, room => by
    have some_left : pool ≠ [] := by
      rintro rfl
      cases room
    obtain rfl | ⟨xs, last, rfl⟩ := List.eq_nil_or_concat' pool
    · exact absurd rfl some_left
    have bound := below_lt (List.length_pos_iff.2 some_left) d
    have left := drawn_cons_perm xs last (List.getElem?_eq_getElem bound)
    have fewer : count ≤ (((xs ++ [last]).set (below (xs ++ [last]).length d).1 last).dropLast).length := by
      rw [List.length_dropLast, List.length_set]
      omega
    obtain ⟨length, rest⟩ := drawFrom_subperm count _ (below (xs ++ [last]).length d).2 fewer
    simp only [drawFrom, List.getElem?_eq_getElem bound, List.getLast?_concat]
    constructor
    · rw [List.length_cons, length]
    · exact ((List.subperm_cons _).2 rest).trans left.subperm

/-- As long as not all places are taken, a free one is found. -/
theorem freePlace_free {size : Nat} {taken : List Nat} (room : taken.length < size) : ∀ (fuel : Nat) (d : Draws),
    (freePlace size taken fuel d).1 < size ∧ (freePlace size taken fuel d).1 ∉ taken
  | 0, d => by
    rw [freePlace]
    cases found : (List.range size).find? fun n => !taken.contains n with
    | some n =>
      have free := List.find?_some found
      have among := List.mem_of_find?_eq_some found
      simp at free among
      exact ⟨among, free⟩
    | none =>
      -- Were every number below the size taken, there would be as many taken places as numbers.
      have all : List.range size ⊆ taken := by
        intro n hn
        have := List.find?_eq_none.1 found n hn
        simpa using this
      have := (List.nodup_range.subperm all).length_le
      rw [List.length_range] at this
      omega
  | fuel + 1, d => by
    rw [freePlace]
    simp only
    split
    · exact freePlace_free room fuel _
    · rename_i free
      rw [List.contains_iff_mem] at free
      exact ⟨below_lt (by omega) d, free⟩

theorem placesFrom_free (size : Nat) : ∀ (count : Nat) (taken : List Nat) (d : Draws), taken.length + count ≤ size →
    (placesFrom size count taken d).1.length = count ∧ (placesFrom size count taken d).1.Nodup ∧
      ∀ n ∈ (placesFrom size count taken d).1, n < size ∧ n ∉ taken
  | 0, _, _, _ => ⟨rfl, List.nodup_nil, nofun⟩
  | count + 1, taken, d, room => by
    have some_free : taken.length < size := by omega
    obtain ⟨bound, free⟩ := freePlace_free some_free (d.numbers.length + 1) d
    obtain ⟨length, distinct, others⟩ := placesFrom_free size count
      ((freePlace size taken (d.numbers.length + 1) d).1 :: taken) (freePlace size taken (d.numbers.length + 1) d).2
      (by rw [List.length_cons]; omega)
    simp only [placesFrom]
    refine ⟨by rw [List.length_cons, length], List.nodup_cons.2 ⟨?_, distinct⟩, ?_⟩
    · intro again
      exact (others _ again).2 List.mem_cons_self
    · rw [List.forall_mem_cons]
      exact ⟨⟨bound, free⟩, fun n hn => ⟨(others n hn).1, fun old => (others n hn).2 (List.mem_cons_of_mem _ old)⟩⟩

theorem filterMap_range_getElem? : ∀ items : List α, (List.range items.length).filterMap (fun n => items[n]?) = items
  | [] => rfl
  | x :: xs => by
    rw [List.length_cons, List.range_succ_eq_map, List.filterMap_cons_some (by rfl), List.filterMap_map]
    simpa [Function.comp_def] using filterMap_range_getElem? xs

/-- The items at different places are so many of those there are. -/
theorem items_at_subperm {items : List α} {places : List Nat} (distinct : places.Nodup)
    (bound : ∀ n ∈ places, n < items.length) :
    (places.filterMap fun n => items[n]?).length = places.length ∧
      (places.filterMap fun n => items[n]?).Subperm items := by
  constructor
  · rw [List.filterMap_length_eq_length]
    intro n hn
    rw [List.getElem?_eq_getElem (bound n hn)]
    rfl
  · obtain ⟨some_places, same, among⟩ := distinct.subperm fun n hn => List.mem_range.2 (bound n hn)
    have items_among := among.filterMap fun n => items[n]?
    rw [filterMap_range_getElem?] at items_among
    exact ⟨_, same.filterMap _, items_among⟩

/-- **A sample has as many items as were asked for, each from a place of its own.** -/
theorem sample_subperm {count : Nat} {items : List α} (room : count ≤ items.length) (d : Draws) :
    (sample count items d).1.length = count ∧ (sample count items d).1.Subperm items := by
  unfold sample
  split
  · exact drawFrom_subperm count items d room
  · obtain ⟨length, distinct, free⟩ := placesFrom_free items.length count [] d (by simpa using room)
    obtain ⟨same, among⟩ := items_at_subperm distinct fun n hn => (free n hn).1
    exact ⟨same.trans length, among⟩

end Draws
end Bestiary
