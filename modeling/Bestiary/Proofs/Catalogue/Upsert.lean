import Mathlib.Data.List.Basic
import Bestiary.Register
/-!
# Upsert — items put into a register one after the other

Putting items keeps what has none of their ids (`get?_putAll_of_notMem`) and answers an item under its own id if those
under one id are one (`get?_putAll_of_mem`); ids stand in the order in which they first came (`ids_putAll`).
`Upserted` says all that putting items makes of a register.
-/
namespace Bestiary.Register

variable {α : Type} {id : α → String}

/-- The register with the items put one after the other. -/
def putAll (items : List α) (r : Register α id) : Register α id := items.foldl (fun r a => r.put a) r

theorem get?_putAll_of_notMem {key : String} : ∀ {items : List α}, key ∉ items.map id → ∀ r : Register α id,
    (r.putAll items).get? key = r.get? key
  | [], _, _ => rfl
  | a :: items, fresh, r => by
    rw [List.map_cons, List.mem_cons, not_or] at fresh
    exact (get?_putAll_of_notMem fresh.2 (r.put a)).trans (get?_put_of_ne fresh.1 r)

/-- **An item is read under its id**, if it is the one that its id stands for among those that were put. -/
theorem get?_putAll_of_mem {read : String → Option α} : ∀ {items : List α}, (∀ a ∈ items, read (id a) = some a) →
    ∀ {a : α}, a ∈ items → ∀ r : Register α id, (r.putAll items).get? (id a) = some a
  | first :: items, own, a, mem, r => by
    have own_later := (List.forall_mem_cons.1 own).2
    by_cases later : id a ∈ items.map id
    · obtain ⟨b, listed, named⟩ := List.mem_map.1 later
      have same : b = a := Option.some.inj <| calc
        some b = read (id b) := (own_later b listed).symm
        _ = read (id a) := by rw [named]
        _ = some a := own a mem
      subst same
      exact get?_putAll_of_mem own_later listed (r.put first)
    · rcases List.mem_cons.1 mem with rfl | listed
      · exact (get?_putAll_of_notMem later (r.put a)).trans (get?_put_self a r)
      · exact absurd (List.mem_map_of_mem listed) later

theorem eraseDups_of_nodup : ∀ {l : List String}, l.Nodup → l.eraseDups = l
  | [], _ => rfl
  | a :: l, once => by
    have other : l.filter (fun b => !b == a) = l := by
      rw [List.filter_eq_self]
      rintro b mem
      simpa using fun same : b = a => (List.nodup_cons.1 once).1 (same ▸ mem)
    rw [List.eraseDups_cons, other, eraseDups_of_nodup (List.nodup_cons.1 once).2]

/-- **Ids stand in the order in which they first came.** -/
theorem ids_putAll : ∀ (items : List α) (r : Register α id), (r.putAll items).ids = (r.ids ++ items.map id).eraseDups
  | [], r => by
    rw [List.map_nil, List.append_nil]
    exact (eraseDups_of_nodup r.once).symm
  | a :: items, r => by
    have step : (r.putAll (a :: items)).ids = ((r.put a).putAll items).ids := rfl
    rw [step, ids_putAll items (r.put a), ids_put, List.map_cons]
    split
    · rename_i known
      have skipped : (id a :: items.map id).removeAll r.ids = (items.map id).removeAll r.ids := by
        simp [List.removeAll, known]
      rw [List.eraseDups_append, List.eraseDups_append, skipped]
    · rw [List.append_assoc, List.singleton_append]

/-- Known ids keep their places, and new ones come after them. -/
theorem ids_putAll_eq_append (items : List α) (r : Register α id) :
    (r.putAll items).ids = r.ids ++ ((items.map id).removeAll r.ids).eraseDups := by
  rw [ids_putAll, List.eraseDups_append]
  congr 1
  exact eraseDups_of_nodup r.once

/-- The last of the items with an id stands under it. -/
theorem get?_putAll_last {before after : List α} {a : α} (last : id a ∉ after.map id) (r : Register α id) :
    (r.putAll (before ++ a :: after)).get? (id a) = some a := by
  have split : r.putAll (before ++ a :: after) = ((r.putAll before).put a).putAll after := by
    simp [putAll, List.foldl_append]
  rw [split, get?_putAll_of_notMem last, get?_put_self]

/-- **What items put one after the other make of a register.** -/
structure Upserted (old : Register α id) (items : List α) (new : Register α id) : Prop where
  each : new = items.foldl (fun r a => r.put a) old
  /-- Known ids keep their places, and new ones come after them in the order in which they first came. -/
  places : new.ids = old.ids ++ ((items.map id).removeAll old.ids).eraseDups
  latest : ∀ before a after, items = before ++ a :: after → id a ∉ after.map id → new.get? (id a) = some a
  others : ∀ key, key ∉ items.map id → new.get? key = old.get? key

theorem upserted_putAll (items : List α) (r : Register α id) : r.Upserted items (r.putAll items) where
  each := rfl
  places := ids_putAll_eq_append items r
  latest := by
    rintro before a after rfl last
    exact get?_putAll_last last r
  others key fresh := get?_putAll_of_notMem fresh r

theorem get?_of_mem : ∀ {r : Register α id} {a : α}, a ∈ r.items → r.get? (id a) = some a
  | ⟨b :: rest, once⟩, a, mem => by
    have apart := List.nodup_cons.1 once
    rcases List.mem_cons.1 mem with rfl | later
    · exact List.find?_cons_of_pos (beq_self_eq_true _)
    · have other : id b ≠ id a := fun same => apart.1 (same ▸ List.mem_map_of_mem later)
      exact (List.find?_cons_of_neg (by simpa using other)).trans (get?_of_mem (r := ⟨rest, apart.2⟩) later)

theorem mem_of_get? {r : Register α id} {key : String} {a : α} (found : r.get? key = some a) :
    a ∈ r.items ∧ id a = key := by
  unfold get? at found
  exact ⟨List.mem_of_find?_eq_some found, by simpa using List.find?_some found⟩

/-- The items are those that are read under the ids, in their order. -/
theorem items_eq (r : Register α id) : r.items = r.ids.filterMap r.get? := by
  have each : r.items.filterMap (fun a => r.get? (id a)) = r.items.filterMap some :=
    List.filterMap_congr fun a mem => get?_of_mem mem
  rw [ids, List.filterMap_map]
  exact List.filterMap_some.symm.trans each.symm

/-- **A register that had no items lists those that were put**, in the order in which their ids first came. -/
theorem items_putAll {read : String → Option α} {items : List α} (own : ∀ a ∈ items, read (id a) = some a)
    {r : Register α id} (vacant : r.items = []) :
    (r.putAll items).items = (items.map id).eraseDups.filterMap read := by
  have none_yet : r.ids = [] := List.map_eq_nil_iff.2 vacant
  rw [items_eq, ids_putAll, none_yet, List.nil_append]
  refine List.filterMap_congr fun key mem => ?_
  obtain ⟨a, listed, rfl⟩ := List.mem_map.1 (List.mem_eraseDups.1 mem)
  exact (get?_putAll_of_mem own listed r).trans (own a listed).symm

end Bestiary.Register
