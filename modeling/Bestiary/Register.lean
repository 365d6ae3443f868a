/-!
# Registers

A register keeps items in the order in which their ids first came. An id stands for one item: putting an item
with a known id replaces the one that is there, in its place.
-/
namespace Bestiary

/-- Items in order, no two with one id. -/
structure Register (α : Type) (id : α → String) where
  items : List α
  once : (items.map id).Nodup

namespace Register

variable {α : Type} {id : α → String}

def empty : Register α id := ⟨[], List.nodup_nil⟩

/-- The item with this id. -/
def get? (r : Register α id) (key : String) : Option α := r.items.find? fun a => id a == key

/-- The ids, in order. -/
def ids (r : Register α id) : List String := r.items.map id

/-- The items with one put in the place of the one with its id, or at the end. -/
def putInto (id : α → String) (a : α) : List α → List α
  | [] => [a]
  | b :: rest => if id b = id a then a :: rest else b :: putInto id a rest

theorem ids_putInto (a : α) (items : List α) :
    (putInto id a items).map id = if id a ∈ items.map id then items.map id else items.map id ++ [id a] := by
  induction items with
  | nil => simp [putInto]
  | cons b rest ih =>
    simp only [putInto]
    split
    · rename_i h
      simp [h]
    · rename_i h
      have ne : ¬ id a = id b := fun e => h e.symm
      simp only [List.map_cons, ih, List.mem_cons, ne, false_or]
      split <;> simp

theorem find?_putInto_self (a : α) (items : List α) :
    (putInto id a items).find? (fun b => id b == id a) = some a := by
  induction items with
  | nil => simp [putInto]
  | cons b rest ih =>
    simp only [putInto]
    split
    · simp
    · rename_i h
      simp [h, ih]

theorem find?_putInto_of_ne {a : α} {key : String} (h : key ≠ id a) (items : List α) :
    (putInto id a items).find? (fun b => id b == key) = items.find? fun b => id b == key := by
  have ne : (id a == key) = false := by simpa using Ne.symm h
  induction items with
  | nil => simp [putInto, ne]
  | cons b rest ih =>
    simp only [putInto]
    split
    · rename_i hb
      simp [hb, ne]
    · simp [List.find?_cons, ih]

/-- The register with an item put under its id. -/
def put (a : α) (r : Register α id) : Register α id where
  items := putInto id a r.items
  once := by
    rw [ids_putInto]
    split
    · exact r.once
    · rename_i h
      exact List.nodup_append.2 ⟨r.once, by simp, fun x hx y hy => by
        rw [List.mem_singleton.1 hy]
        exact fun e => h (e ▸ hx)⟩

/-- The register without the item with this id. -/
def erase (key : String) (r : Register α id) : Register α id where
  items := r.items.filter fun a => id a != key
  once := r.once.sublist (List.Sublist.map _ List.filter_sublist)

/-- The register of items put one after the other. -/
def ofList (items : List α) : Register α id := items.foldl (fun r a => r.put a) empty

@[simp] theorem get?_put_self (a : α) (r : Register α id) : (r.put a).get? (id a) = some a :=
  find?_putInto_self a r.items

theorem get?_put_of_ne {a : α} {key : String} (h : key ≠ id a) (r : Register α id) :
    (r.put a).get? key = r.get? key := find?_putInto_of_ne h r.items

theorem ids_put (a : α) (r : Register α id) :
    (r.put a).ids = if id a ∈ r.ids then r.ids else r.ids ++ [id a] := ids_putInto a r.items

@[simp] theorem get?_erase_self (key : String) (r : Register α id) : (r.erase key).get? key = none := by
  simp [get?, erase]

theorem get?_erase_of_ne {key other : String} (h : other ≠ key) (r : Register α id) :
    (r.erase key).get? other = r.get? other := by
  simp only [get?, erase, List.find?_filter]
  congr 1
  funext a
  by_cases e : id a = other
  · simp [e, h]
  · simp [e]

end Register

end Bestiary
