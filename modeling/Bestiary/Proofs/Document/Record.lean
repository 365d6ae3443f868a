import Mathlib.Data.List.Nodup
import Bestiary.Intake.Record
import Bestiary.WordSet
/-!
# Record — values that are written are read back

Reading what is written of a value answers the value: so it is for every kind of single value (`Reads.int` and the
rest), for null or a value (`Reads.nullable`), and for lists (`Reads.list`).  A field is read as its value is once it is
found (`Reads.required`, `Reads.made`).
-/
namespace Bestiary

namespace Entries

theorem put_of_fresh {key : String} (value : Json) : ∀ {entries : Entries}, key ∉ entries.map (·.1) →
    entries.put key value = entries ++ [(key, value)]
  | [], _ => rfl
  | entry :: entries, fresh => by
    rw [List.map_cons, List.mem_cons, not_or] at fresh
    rw [put, if_neg (Ne.symm fresh.1), put_of_fresh value fresh.2, List.cons_append]

/-- Entries put over others with none of their keys come after them. -/
theorem overlay_of_fresh : ∀ {upper base : Entries}, ((base ++ upper).map (·.1)).Nodup →
    base.overlay upper = base ++ upper
  | [], base, _ => (List.append_nil base).symm
  | entry :: upper, base, once => by
    have fresh : entry.1 ∉ base.map (·.1) := by
      rw [List.map_append, List.map_cons, List.nodup_middle, List.nodup_cons, List.mem_append, not_or] at once
      exact once.1.1
    have shifted : base ++ entry :: upper = base.put entry.1 entry.2 ++ upper := by
      rw [put_of_fresh entry.2 fresh, List.append_assoc, List.singleton_append]
    rw [shifted] at once ⊢
    exact overlay_of_fresh once

end Entries

namespace Intake
namespace Reads

variable {α : Type} {a : α} {read : Json → Intake α} {entries : Entries} {key : Key} {k : String} {j : Json}

/-! ## Fields -/

theorem required (given : key.find? entries = some (k, j)) (h : Reads (read j) a) :
    Reads (Intake.required entries key read) a := by
  rw [Intake.required, given]
  exact h.inside _

theorem made {make : Intake α} (given : key.find? entries = some (k, j)) (h : Reads (read j) a) :
    Reads (Intake.made entries key make read) a := by
  rw [Intake.made, given]
  exact h.inside _

/-! ## Values -/

theorem nullable {write : α → Json} (shown : ∀ a, write a ≠ .null) (o : Option α)
    (h : ∀ a ∈ o, Reads (read (write a)) a) : Reads (Intake.nullable read ((o.map write).getD .null)) o := by
  cases o with
  | none => exact pure none
  | some a =>
    have given : Intake.nullable read (write a) = Intake.map some (read (write a)) := by
      have shown := shown a
      unfold Intake.nullable
      split
      · contradiction
      · rfl
    simp only [Option.map_some, Option.getD_some, given]
    exact map some (h a rfl)

theorem list {write : α → Json} {as : List α} (h : ∀ a ∈ as, Reads (read (write a)) a) :
    Reads (Intake.list read (.arr (as.map write))) as :=
  itemsFrom as h 0

theorem int (n : Int) : Reads (Intake.int (.int n)) n := pure n

theorem nat (n : Nat) : Reads (Intake.nat (.int n)) n := check (int n) (by simp [atLeast])

theorem bool (b : Bool) : Reads (Intake.bool (.bool b)) b := pure b

theorem text (s : String) : Reads (Intake.text (.str s)) s := pure s

theorem label (l : Label) : Reads (Intake.label (.str l.text)) l := check (text l.text) (by simp)

theorem name {most : Nat} (n : Name most) : Reads (Intake.name most (.str n.text)) n :=
  check (text n.text) (by simp [n.fits])

theorem tag {α : Type} [Tag α] (a : α) : Reads (Intake.tag (.str (Tag.name a))) a := by
  simp only [Intake.tag, tagOf, Tag.ofName?_name]
  exact pure a

theorem ability (a : Ability) : Reads (Intake.ability (.str a.name)) a := by
  have parsed : Ability.parse? a.name = some a := by cases a <;> decide
  simp only [Intake.ability, abilityOf, parsed]
  exact pure a

theorem free (j : Json) : Reads (Intake.free j) j := pure j

theorem dictionary (x : Extras []) : Reads (Intake.dictionary (.obj x.entries)) x := by
  have unkeyed : Key.rest [] x.entries = x.entries := List.filter_eq_self.2 fun _ _ => rfl
  have kept : Entries.overlay [] x.entries = x.entries := Entries.overlay_of_fresh x.once
  have same : Extras.ofEntries [] x.entries = x := by
    cases x
    simp only [Extras.ofEntries, unkeyed, kept]
  rw [Intake.dictionary, same]
  exact pure x

theorem text? (o : Option String) : Reads (Intake.nullable Intake.text (Json.ofText? o)) o := by
  have written : Json.ofText? o = (o.map .str).getD .null := by cases o <;> rfl
  rw [written]
  exact nullable nofun o fun s _ => text s

theorem ability? (o : Option Ability) :
    Reads (Intake.nullable Intake.ability (Json.ofText? (o.map Ability.name))) o := by
  have written : Json.ofText? (o.map Ability.name) = (o.map fun a => .str a.name).getD .null := by cases o <;> rfl
  rw [written]
  exact nullable nofun o fun a _ => ability a

theorem int? (o : Option Int) : Reads (Intake.nullable Intake.int (Json.ofInt? o)) o := by
  have written : Json.ofInt? o = (o.map .int).getD .null := by cases o <;> rfl
  rw [written]
  exact nullable nofun o fun n _ => int n

theorem nat? (o : Option Nat) : Reads (Intake.nullable Intake.nat (Json.ofNat? o)) o := by
  have written : Json.ofNat? o = (o.map fun n => .int n).getD .null := by cases o <;> rfl
  rw [written]
  exact nullable nofun o fun n _ => nat n

end Reads
end Intake

namespace WordSet

theorem insertInto_of_lt {w : String} : ∀ {ws : List String}, (w :: ws).Pairwise (· < ·) → insertInto w ws = w :: ws
  | [], _ => rfl
  | v :: vs, ordered => by rw [insertInto, if_pos (List.rel_of_pairwise_cons ordered List.mem_cons_self)]

/-- A set of words is the set of the list of its words. -/
theorem ofList_words (s : WordSet) : ofList s.words = s := by
  have same : ∀ ws : List String, ws.Pairwise (· < ·) → (ofList ws).words = ws := by
    intro ws
    induction ws with
    | nil => exact fun _ => rfl
    | cons w ws ih =>
      intro ordered
      have rest : (ofList ws).words = ws := ih ordered.of_cons
      have step : (ofList (w :: ws)).words = insertInto w (ofList ws).words := rfl
      rw [step, rest, insertInto_of_lt ordered]
  obtain ⟨words, ordered⟩ := s
  have words_eq := same words ordered
  generalize ofList words = t at words_eq
  cases t
  cases words_eq
  rfl

theorem reads_write (s : WordSet) : Intake.Reads (WordSet.read s.write) s := by
  have items := Intake.Reads.map ofList (Intake.Reads.itemsFrom s.words (fun w _ => Intake.Reads.text w) 0)
  rw [ofList_words] at items
  exact items

end WordSet

end Bestiary
