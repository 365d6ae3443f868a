import Bestiary.Proofs.Json.Text
/-!
# Depth — a text that nests deeper than the reach is not read

What a text carries is read up to the first bracket that stands too deep (`value_exhausted`).  So of the documents that
texts carry exactly those are read back that nest no deeper than the reach (`parse_render_iff`).
-/
namespace Bestiary.Json

namespace Parser

/-- The reading came to a bracket that stands too deep. -/
def Exhausted {α : Type} (scan : Scan α) : Prop := ∃ list left, scan = .error (.tooDeep list, left)

namespace Exhausted

variable {α β : Type} {scan : Scan α}

theorem map (h : Exhausted scan) (f : α → β) : Exhausted (scan.map f) := by
  obtain ⟨list, left, rfl⟩ := h
  exact ⟨list, left, rfl⟩

theorem bind (h : Exhausted scan) (f : α → Scan β) : Exhausted (scan.bind f) := by
  obtain ⟨list, left, rfl⟩ := h
  exact ⟨list, left, rfl⟩

theorem items {reach fuel : Nat} {s : List Char} (h : Exhausted (value reach fuel s)) :
    Exhausted (items reach (fuel + 1) s) := by
  rw [Parser.items]
  exact h.bind _

end Exhausted

mutual

/-- **A document that nests too deep is not read**, whatever follows it. -/
theorem value_exhausted (layout : Layout) : ∀ (j : Json) (depth reach fuel : Nat) (rest : List Char), j.Carried →
    reach < j.depth → 2 * (layout.write depth j).length ≤ fuel + 1 →
    Exhausted (value reach (fuel + 1) (layout.write depth j ++ rest))
  | .arr [], _, 0, _, _, _, _, _ => by
    simp only [Layout.write]
    exact ⟨_, _, rfl⟩
  | .arr (item :: items), _, 0, _, _, _, _, _ => by
    simp only [Layout.write]
    exact ⟨_, _, rfl⟩
  | .arr (item :: items), depth, reach + 1, fuel, rest, carried, deep, enough => by
    rw [Carried] at carried
    rw [Json.depth] at deep
    simp only [Layout.write, List.length_append, List.length_cons] at enough
    have read := items_exhausted layout (item :: items) (depth + 1) depth reach fuel rest rfl carried
      (Nat.lt_of_succ_lt_succ deep) (by simp only [List.length_append]; omega)
    obtain ⟨c, cs, shown, dark, opens, -⟩ := write_head layout carried.1 (depth + 1)
    simp only [Layout.write, List.append_assoc, List.cons_append, List.nil_append] at read ⊢
    simp only [shown, List.cons_append] at read ⊢
    rw [value_list layout reach fuel (depth + 1) dark opens]
    exact read.map _
  | .obj [], _, 0, _, _, _, _, _ => by
    simp only [Layout.write]
    exact ⟨_, _, rfl⟩
  | .obj ((key, v) :: entries), _, 0, _, _, _, _, _ => by
    simp only [Layout.write]
    exact ⟨_, _, rfl⟩
  | .obj ((key, v) :: entries), depth, reach + 1, fuel, rest, carried, deep, enough => by
    rw [Carried] at carried
    rw [Json.depth] at deep
    simp only [Layout.write, List.length_append, List.length_cons] at enough
    have read := entries_exhausted layout ((key, v) :: entries) [] (depth + 1) depth reach fuel rest rfl carried.1
      carried.2 (Nat.lt_of_succ_lt_succ deep) (by simp only [List.length_append, List.length_cons]; omega)
    simp only [Layout.write, Layout.text, List.append_assoc, List.cons_append, List.nil_append] at read ⊢
    rw [value_object layout reach fuel (depth + 1)]
    exact read.map _

theorem items_exhausted (layout : Layout) : ∀ (all : List Json) (depth outer reach fuel : Nat) (rest : List Char)
    {item : Json} {items : List Json}, all = item :: items → CarriedItems all → reach < depthOfItems all →
    2 * (layout.write depth item ++ layout.writeItems depth items).length + 2 ≤ fuel →
    Exhausted (Parser.items reach fuel (layout.write depth item ++ layout.writeItems depth items ++
      (layout.lineBreak outer ++ ']' :: rest)))
  | item :: [], depth, outer, reach, fuel + 2, rest, _, _, rfl, carried, deep, enough => by
    simp only [Layout.writeItems, List.append_nil] at enough ⊢
    simp only [depthOfItems, Nat.max_zero] at deep
    exact (value_exhausted layout item depth reach fuel _ carried.1 deep (by omega)).items
  | item :: next :: items, depth, outer, reach, fuel + 2, rest, _, _, rfl, carried, deep, enough => by
    simp only [Layout.writeItems, separator_eq, List.length_append, List.length_cons] at enough
    rw [depthOfItems] at deep
    -- The first item nests too deep itself, or it is read and a further one does.
    by_cases first : reach < item.depth
    · rw [List.append_assoc]
      exact (value_exhausted layout item depth reach fuel _ carried.1 first (by omega)).items
    · have left := items_exhausted layout (next :: items) depth outer reach (fuel + 1) rest rfl carried.2 (by omega)
        (by simp only [List.length_append]; omega)
      obtain ⟨c, cs, shown, dark, -⟩ := write_head layout carried.2.1 depth
      have read := value_write layout item depth reach fuel (layout.separator depth ++
        (layout.write depth next ++ (layout.writeItems depth items ++ (layout.lineBreak outer ++ ']' :: rest))))
        carried.1 (by omega) (separator_eq layout depth ▸ ends_comma _) (by omega)
      simp only [Layout.writeItems, List.append_assoc] at left ⊢
      simp only [shown, List.cons_append] at read left ⊢
      rw [items_more layout dark read]
      exact left.map _

theorem entries_exhausted (layout : Layout) : ∀ (all : List (String × Json)) (before : Entries)
    (depth outer reach fuel : Nat) (rest : List Char) {key : String} {v : Json} {further : List (String × Json)},
    all = (key, v) :: further → ((before ++ all).map (·.1)).Nodup → CarriedEntries all → reach < depthOfEntries all →
    2 * (layout.text key ++ [':', ' '] ++ layout.write depth v ++ layout.writeEntries depth further).length + 2 ≤ fuel →
    Exhausted (Parser.entries reach fuel before (layout.text key ++ [':', ' '] ++ layout.write depth v ++
      layout.writeEntries depth further ++ (layout.lineBreak outer ++ '\x7d' :: rest)))
  | (key, v) :: [], before, depth, outer, reach, fuel + 2, rest, _, _, _, rfl, once, carried, deep, enough => by
    simp only [Layout.writeEntries, List.append_nil, List.length_append] at enough ⊢
    simp only [depthOfEntries, Nat.max_zero] at deep
    obtain ⟨c, cs, shown, dark, -⟩ := write_head layout carried.1 depth
    have read := value_exhausted layout v depth reach fuel (layout.lineBreak outer ++ '\x7d' :: rest) carried.1 deep
      (by omega)
    rw [shown, List.cons_append] at read
    rw [shown, List.append_assoc, List.cons_append, entries_entry layout before key dark]
    exact read.bind _
  | (key, v) :: (next, w) :: further, before, depth, outer, reach, fuel + 2, rest, _, _, _, rfl, once, carried, deep,
      enough => by
    simp only [Layout.writeEntries, separator_eq, List.length_append, List.length_cons] at enough
    rw [depthOfEntries] at deep
    obtain ⟨c, cs, shown, dark, -⟩ := write_head layout carried.1 depth
    by_cases first : reach < v.depth
    · have read := value_exhausted layout v depth reach fuel (layout.writeEntries depth ((next, w) :: further) ++
        (layout.lineBreak outer ++ '\x7d' :: rest)) carried.1 first (by omega)
      rw [shown, List.cons_append] at read
      rw [shown, List.append_assoc, List.append_assoc, List.cons_append, entries_entry layout before key dark]
      exact read.bind _
    · have shifted : before ++ (key, v) :: (next, w) :: further = before.put key v ++ (next, w) :: further := by
        rw [put_of_once once, List.append_assoc, List.singleton_append]
      have left := entries_exhausted layout ((next, w) :: further) (before.put key v) depth outer reach (fuel + 1) rest
        rfl (shifted ▸ once) carried.2 (by omega) (by simp only [List.length_append, List.length_cons]; omega)
      have read := value_write layout v depth reach fuel (layout.separator depth ++
        (layout.text next ++ ([':', ' '] ++ (layout.write depth w ++ (layout.writeEntries depth further ++
          (layout.lineBreak outer ++ '\x7d' :: rest)))))) carried.1 (by omega) (separator_eq layout depth ▸ ends_comma _)
        (by omega)
      rw [shown, List.cons_append, Layout.text, List.append_assoc, List.cons_append] at read
      have step := entries_more layout before key dark rfl read
      simp only [Layout.text, List.append_assoc, List.cons_append, List.nil_append] at step left
      simp only [Layout.writeEntries, Layout.text, shown, List.append_assoc, List.cons_append, List.nil_append]
      rw [step]
      exact left

end

end Parser

/-- **A document that a text carries is read back exactly if it nests no deeper than the reach**; else the reading comes
to a bracket that stands too deep. -/
theorem parse_render_iff (layout : Layout) {reach : Nat} {j : Json} (carried : j.Carried) :
    (parse reach (render layout j) = .ok j ↔ j.depth ≤ reach) ∧
    (reach < j.depth → ∃ list position, parse reach (render layout j) = .error ⟨.tooDeep list, position⟩) := by
  have exhausted (deep : reach < j.depth) :
      ∃ list position, parse reach (render layout j) = .error ⟨.tooDeep list, position⟩ := by
    obtain ⟨list, left, read⟩ := Parser.value_exhausted layout j 0 reach (2 * (layout.write 0 j).length) [] carried deep
      (by omega)
    obtain ⟨start, head⟩ := Parser.write_start layout carried
    rw [List.append_nil] at read
    refine ⟨list, (layout.write 0 j).length - left, ?_⟩
    simp only [parse, render, String.toList_ofList, if_neg head, start, read]
  refine ⟨⟨fun read => ?_, parse_render layout carried⟩, exhausted⟩
  by_contra deep
  obtain ⟨list, position, failed⟩ := exhausted (Nat.lt_of_not_le deep)
  rw [failed] at read
  cases read

end Bestiary.Json
