import Bestiary.Scribe
import Bestiary.Proofs.Document.Form
import Bestiary.Proofs.Json.Text
/-!
# Shape — what a document nests, and what is dumped of it

A document nests deeper than what stands in it (`depth_lt_of_get?`, `depth_lt_of_mem`).  A dump is the document itself
if all its doubles are finite (`nulled_of_finite`), and a document that a text carries can always be dumped if it is
within the reach of the dumper (`dump_of_carried`).
-/
namespace Bestiary

namespace Json

/-! ## Depth -/

theorem depth_le_of_mem_items : ∀ {items : List Json} {item : Json}, item ∈ items → item.depth ≤ depthOfItems items
  | first :: items, item, mem => by
    rw [depthOfItems]
    rcases List.mem_cons.1 mem with rfl | later
    · exact Nat.le_max_left _ _
    · exact (depth_le_of_mem_items later).trans (Nat.le_max_right _ _)

theorem depth_le_of_mem_entries : ∀ {entries : List (String × Json)} {key : String} {value : Json},
    (key, value) ∈ entries → value.depth ≤ depthOfEntries entries
  | (_, first) :: entries, key, value, mem => by
    rw [depthOfEntries]
    rcases List.mem_cons.1 mem with same | later
    · cases same
      exact Nat.le_max_left _ _
    · exact (depth_le_of_mem_entries later).trans (Nat.le_max_right _ _)

/-- **A list nests deeper than its items.** -/
theorem depth_lt_of_mem {items : List Json} {item : Json} (mem : item ∈ items) : item.depth < (arr items).depth := by
  rw [depth]
  exact Nat.lt_succ_of_le (depth_le_of_mem_items mem)

/-- **An object nests deeper than its values.** -/
theorem depth_lt_of_get? {j value : Json} {key : String} (given : j.get? key = some value) : value.depth < j.depth := by
  cases j with
  | obj entries =>
    have own : (obj entries).depth = depthOfEntries entries + 1 := by rw [depth]
    rw [own]
    exact Nat.lt_succ_of_le (depth_le_of_mem_entries (Entries.mem_of_lookup given))
  | _ => cases given

/-- So many lists, one in the other. -/
def nest : Nat → Json
  | 0 => .null
  | n + 1 => .arr [nest n]

theorem depth_nest : ∀ n, (nest n).depth = n
  | 0 => rfl
  | n + 1 => by rw [nest, depth, depthOfItems, depthOfItems, depth_nest n, Nat.max_zero]

theorem carried_nest : ∀ n, (nest n).Carried
  | 0 => trivial
  | n + 1 => ⟨carried_nest n, trivial⟩

/-! ## What is dumped -/

mutual

/-- **Null stands for nothing in the dump of a document with finite doubles.** -/
theorem nulled_of_finite : ∀ j : Json, j.finite = true → j.nulled = j
  | .float x, finite => by
    have finite : x.isFinite = true := finite
    rw [nulled, if_pos finite]
  | .arr items, finite => by
    rw [nulled, nulledItems_of_finite items finite]
  | .obj entries, finite => by
    rw [nulled, nulledEntries_of_finite entries finite]
  | .null, _ | .bool _, _ | .int _, _ | .str _, _ | .torn _, _ => rfl

theorem nulledItems_of_finite : ∀ items : List Json, (arr items).finite = true → nulledItems items = items
  | [], _ => rfl
  | item :: items, finite => by
    obtain ⟨first, rest⟩ : item.finite = true ∧ (arr items).finite = true := Bool.and_eq_true_iff.1 finite
    rw [nulledItems, nulled_of_finite item first, nulledItems_of_finite items rest]

theorem nulledEntries_of_finite : ∀ entries : List (String × Json), (obj entries).finite = true →
    nulledEntries entries = entries
  | [], _ => rfl
  | (key, value) :: entries, finite => by
    obtain ⟨first, rest⟩ : value.finite = true ∧ (obj entries).finite = true := Bool.and_eq_true_iff.1 finite
    rw [nulledEntries, nulled_of_finite value first, nulledEntries_of_finite entries rest]

end

mutual

/-- What holds of any leaf that a text carries holds of all leaves of a document that it carries. -/
theorem every_of_carried {passes : Json → Bool} (leaves : ∀ j : Json, j.Carried → passes j = true) :
    ∀ j : Json, j.Carried → j.every passes = true
  | .arr items, carried => every_of_carriedItems leaves items carried
  | .obj entries, carried => every_of_carriedEntries leaves entries carried.2
  | .null, carried | .bool _, carried | .int _, carried | .float _, carried | .str _, carried | .torn _, carried =>
    leaves _ carried

theorem every_of_carriedItems {passes : Json → Bool} (leaves : ∀ j : Json, j.Carried → passes j = true) :
    ∀ items : List Json, CarriedItems items → everyItem passes items = true
  | [], _ => rfl
  | item :: items, carried =>
    Bool.and_eq_true_iff.2 ⟨every_of_carried leaves item carried.1, every_of_carriedItems leaves items carried.2⟩

theorem every_of_carriedEntries {passes : Json → Bool} (leaves : ∀ j : Json, j.Carried → passes j = true) :
    ∀ entries : List (String × Json), CarriedEntries entries → everyEntry passes entries = true
  | [], _ => rfl
  | (_, value) :: entries, carried =>
    Bool.and_eq_true_iff.2 ⟨every_of_carried leaves value carried.1, every_of_carriedEntries leaves entries carried.2⟩

end

theorem whole_of_carried {j : Json} (carried : j.Carried) : j.whole = true :=
  every_of_carried (fun leaf carried => by cases leaf <;> first | rfl | exact absurd carried id) j carried

theorem finite_of_carried {j : Json} (carried : j.Carried) : j.finite = true := by
  refine every_of_carried (fun leaf carried => ?_) j carried
  cases leaf with
  | float x =>
    obtain ⟨negative, mantissa, exponent, read⟩ := carried
    simp [Number.Double.isFinite, read]
  | _ => rfl

end Json

open Json (nulled_of_finite whole_of_carried finite_of_carried)

/-- A dumper dumps whole documents within its reach. -/
theorem Dumper.dump_of_whole {dumper : Dumper} {j : Json} (whole : j.whole = true) (within : j.depth ≤ dumper.reach) :
    dumper.dump j = .ok j.nulled := by
  rw [dump, dumper.shallow j whole within]

/-- **A document that a text carries is dumped as it is**, within the reach of the dumper. -/
theorem Dumper.dump_of_carried {dumper : Dumper} {j : Json} (carried : j.Carried) (within : j.depth ≤ dumper.reach) :
    dumper.dump j = .ok j := by
  rw [dump_of_whole (whole_of_carried carried) within, nulled_of_finite j (finite_of_carried carried)]

theorem Dumper.eq_nulled_of_dump {dumper : Dumper} {j dumped : Json} (ok : dumper.dump j = .ok dumped) :
    dumped = j.nulled := by
  unfold dump at ok
  split at ok
  · cases ok
  · exact (Except.ok.inj ok).symm

end Bestiary
