import Bestiary.Json.Printer
import Bestiary.Json.Shape
import Bestiary.Proofs.Document.Record
import Bestiary.Proofs.Json.Numeral
/-!
# Text — a document that is written is read back

Each character of a text is read back from its escape (`textPoints_escape`), and a document from its characters, whatever
the layout, if it nests no deeper than the reach (`parse_render`).  A text carries what a document holds except for
numbers that are not finite, integers with more digits than are read, texts that are torn, and keys that an object gives
twice (`Carried`).
-/
namespace Bestiary.Json

open Number (Double Style)

/-! ## Characters -/

theorem isText_chars (cs : List Char) : isText (cs.map Char.toNat) = true := by
  rw [isText, List.all_map, List.all_eq_true]
  exact fun c _ => decide_eq_true c.valid

theorem shown_chars (s : String) : shown (s.toList.map Char.toNat) = s := by
  have own (c : Char) : (if c.toNat.isValidChar then Char.ofNat c.toNat else '\ufffd') = c :=
    (if_pos c.valid).trans (Char.ofNat_toNat c)
  have all : s.toList.map ((fun n : Nat => if n.isValidChar then Char.ofNat n else '\ufffd') ∘ Char.toNat) = s.toList :=
    (List.map_congr_left fun c _ => own c).trans (List.map_id' _)
  rw [shown, List.map_map, all, String.ofList_toList]

theorem ofPoints_chars (s : String) : ofPoints (s.toList.map Char.toNat) = .str s := by
  rw [ofPoints, if_pos (isText_chars _), shown_chars]

namespace Parser

theorem hexValue?_digitChar : ∀ d < 16, hexValue? (Nat.digitChar d) = some d := by decide

/-- The last hexadecimal digit comes after those of the number without it. -/
theorem hexDigits_succ {width : Nat} (some : 0 < width) (n : Nat) :
    Text.hexDigits (width + 1) n = Text.hexDigits width (n / 16) ++ [Nat.digitChar (n % 16)] := by
  unfold Text.hexDigits
  dsimp only
  rcases Nat.lt_or_ge n 16 with one | more
  · obtain ⟨w, rfl⟩ : ∃ w, width = w + 1 := ⟨width - 1, by omega⟩
    rw [Nat.toDigits_of_lt_base one, Nat.div_eq_of_lt one, Nat.toDigits_zero, Nat.mod_eq_of_lt one]
    simp only [List.length_singleton, Nat.add_sub_cancel]
    rw [← List.replicate_succ']
  · rw [Nat.toDigits_of_base_le (by decide) more, List.length_append, List.length_singleton, Nat.add_sub_add_right,
      List.append_assoc]

theorem hexDigits_four {n : Nat} (small : n < 65536) :
    Text.hexDigits 4 n =
      [Nat.digitChar (n / 16 / 16 / 16), Nat.digitChar (n / 16 / 16 % 16), Nat.digitChar (n / 16 % 16),
        Nat.digitChar (n % 16)] := by
  have first : Text.hexDigits 1 (n / 16 / 16 / 16) = [Nat.digitChar (n / 16 / 16 / 16)] := by
    rw [Text.hexDigits, Nat.toDigits_of_lt_base (by omega)]
    rfl
  rw [hexDigits_succ (by decide), hexDigits_succ (by decide), hexDigits_succ (by decide), first]
  rfl

/-- **A code unit is read back from its digits.** -/
theorem unit?_hexDigits {n : Nat} (small : n < 65536) : unit? (Text.hexDigits 4 n) = some n := by
  have digit (d : Nat) (one : d < 16) : hexValue? (Nat.digitChar d) = some d := hexValue?_digitChar d one
  rw [hexDigits_four small]
  simp only [unit?, digit _ (show n / 16 / 16 / 16 < 16 by omega), digit _ (Nat.mod_lt _ (by decide : 16 > 0))]
  simp
  omega

theorem length_hexDigits {n : Nat} (small : n < 65536) : (Text.hexDigits 4 n).length = 4 := by
  rw [hexDigits_four small]
  rfl

/-- A character of one code unit is read back from it. -/
theorem unitEscape_unit {c : Char} (small : c.toNat < 65536) {more : List Char} (some : more ≠ []) :
    unitEscape (Text.hexDigits 4 c.toNat ++ more) = .ok (c.toNat, more) := by
  have four := length_hexDigits small
  have longer : ¬ (Text.hexDigits 4 c.toNat ++ more).length < 5 := by
    have := List.length_pos_iff.2 some
    rw [List.length_append]
    omega
  have valid : c.toNat < 0xd800 ∨ 0xdfff < c.toNat ∧ c.toNat < 0x110000 := c.valid
  have not_high : isHighUnit c.toNat = false := by
    simp only [isHighUnit, Bool.and_eq_false_iff, decide_eq_false_iff_not]
    omega
  simp only [unitEscape, if_neg longer, List.take_left' four, List.drop_left' four, unit?_hexDigits small, not_high,
    Bool.false_and, Bool.false_eq_true, if_false]

/-- The two code units of a pair are read as one code point. -/
theorem unitEscape_units {h l : Nat} (high : isHighUnit h = true) (low : isLowUnit l = true) {more : List Char}
    (some : more ≠ []) :
    unitEscape (Text.hexDigits 4 h ++ (Layout.unitEscape l ++ more)) =
      .ok (0x10000 + (h - 0xd800) * 1024 + (l - 0xdc00), more) := by
  have high_small : h < 65536 := by
    simp only [isHighUnit, Bool.and_eq_true, decide_eq_true_eq] at high
    omega
  have low_small : l < 65536 := by
    simp only [isLowUnit, Bool.and_eq_true, decide_eq_true_eq] at low
    omega
  have four := length_hexDigits high_small
  have four' := length_hexDigits low_small
  have length := List.length_pos_iff.2 some
  have longer : ¬ (Text.hexDigits 4 h ++ (Layout.unitEscape l ++ more)).length < 5 := by
    simp only [Layout.unitEscape, List.length_append, List.length_cons]
    omega
  have paired : (Layout.unitEscape l ++ more).take 2 == ['\\', 'u'] := by simp [Layout.unitEscape]
  have enough : 6 < (Layout.unitEscape l ++ more).length := by
    simp only [Layout.unitEscape, List.length_append, List.length_cons]
    omega
  have second : ((Layout.unitEscape l ++ more).drop 2).take 4 = Text.hexDigits 4 l := by
    simp [Layout.unitEscape, List.take_left' four']
  have left : (Layout.unitEscape l ++ more).drop 6 = more := by
    simp [Layout.unitEscape, List.drop_left' four']
  simp only [unitEscape, if_neg longer, List.take_left' four, List.drop_left' four, unit?_hexDigits high_small, high,
    Bool.true_and, paired, enough, decide_true, if_true, second, unit?_hexDigits low_small, low, left]

/-- A character of two code units is read back from them. -/
theorem unitEscape_pair {c : Char} (large : 65536 ≤ c.toNat) {more : List Char} (some : more ≠ []) :
    unitEscape (Text.hexDigits 4 (0xd800 + (c.toNat - 65536) / 1024) ++
      (Layout.unitEscape (0xdc00 + (c.toNat - 65536) % 1024) ++ more)) = .ok (c.toNat, more) := by
  have valid : c.toNat < 0xd800 ∨ 0xdfff < c.toNat ∧ c.toNat < 0x110000 := c.valid
  have high : isHighUnit (0xd800 + (c.toNat - 65536) / 1024) = true := by
    simp only [isHighUnit, Bool.and_eq_true, decide_eq_true_eq]
    omega
  have low : isLowUnit (0xdc00 + (c.toNat - 65536) % 1024) = true := by
    simp only [isLowUnit, Bool.and_eq_true, decide_eq_true_eq]
    omega
  have whole : 0x10000 + (0xd800 + (c.toNat - 65536) / 1024 - 0xd800) * 1024 +
      (0xdc00 + (c.toNat - 65536) % 1024 - 0xdc00) = c.toNat := by omega
  rw [unitEscape_units high low some, whole]

-- Rewriting with this keeps the digits closed, which run as many steps as the number is large.
theorem unitEscape_append (n : Nat) (more : List Char) :
    Layout.unitEscape n ++ more = '\\' :: 'u' :: (Text.hexDigits 4 n ++ more) := rfl

/-- What is read after a character, with the character's code point before it. -/
def prefixed (c : Char) (scan : Scan (List Nat × List Char)) : Scan (List Nat × List Char) :=
  scan.map fun read => (c.toNat :: read.1, read.2)

theorem textPoints_named (start fuel : Nat) {c e : Char} (named : escaped? e = some c) (plain : e ≠ 'u')
    (more : List Char) : textPoints start (fuel + 1) ('\\' :: e :: more) = prefixed c (textPoints start fuel more) := by
  rw [textPoints.eq_def]
  simp only [named]
  cases textPoints start fuel more <;> rfl

theorem textPoints_unit (start fuel : Nat) {c : Char} {units more : List Char}
    (read : unitEscape units = .ok (c.toNat, more)) :
    textPoints start (fuel + 1) ('\\' :: 'u' :: units) = prefixed c (textPoints start fuel more) := by
  rw [textPoints.eq_def]
  simp only [read, bind, Except.bind]
  cases textPoints start fuel more <;> rfl

theorem textPoints_plain (start fuel : Nat) {c : Char} (quote : c ≠ '"') (backslash : c ≠ '\\') (printed : 32 ≤ c.toNat)
    (more : List Char) : textPoints start (fuel + 1) (c :: more) = prefixed c (textPoints start fuel more) := by
  rw [textPoints.eq_def]
  simp only [quote, backslash, not_lt.2 printed]
  cases textPoints start fuel more <;> rfl

/-- **A character is read back from its escape.** -/
theorem textPoints_escape (layout : Layout) (start fuel : Nat) (c : Char) {more : List Char} (follows : more ≠ []) :
    textPoints start (fuel + 1) (layout.escape c ++ more) = prefixed c (textPoints start fuel more) := by
  have named (n : Nat) {d e : Char} (code : c.toNat = n) (same : Char.ofNat n = d) (h : escaped? e = some d)
      (plain : e ≠ 'u') :
      textPoints start (fuel + 1) ('\\' :: e :: more) = prefixed c (textPoints start fuel more) := by
    rw [← Char.ofNat_toNat c, code, same]
    exact textPoints_named start fuel h plain more
  unfold Layout.escape
  split
  · rename_i quoted
    rcases quoted with rfl | rfl
    · exact textPoints_named start fuel rfl (by decide) more
    · exact textPoints_named start fuel rfl (by decide) more
  rename_i bare
  rw [not_or] at bare
  split
  · exact named 10 (congrArg Char.toNat ‹_›) rfl rfl (by decide)
  split
  · exact named 13 (congrArg Char.toNat ‹_›) rfl rfl (by decide)
  split
  · exact named 9 (congrArg Char.toNat ‹_›) rfl rfl (by decide)
  split
  · exact named 8 ‹_› rfl rfl (by decide)
  split
  · exact named 12 ‹_› rfl rfl (by decide)
  split
  · rw [unitEscape_append]
    exact textPoints_unit start fuel (unitEscape_unit (by omega) follows)
  split
  · split
    · rw [unitEscape_append]
      exact textPoints_unit start fuel (unitEscape_unit ‹_› follows)
    · rw [List.append_assoc, unitEscape_append]
      exact textPoints_unit start fuel (unitEscape_pair (by omega) follows)
  · exact textPoints_plain start fuel bare.1 bare.2 (by omega) more

theorem escape_ne_nil (layout : Layout) (c : Char) : layout.escape c ≠ [] := by
  have unit (n : Nat) (more : List Char) : Layout.unitEscape n ++ more ≠ [] := by
    rw [unitEscape_append]
    exact List.cons_ne_nil _ _
  unfold Layout.escape
  repeat' split
  all_goals first | exact unit _ _ | exact List.cons_ne_nil _ _

theorem textPoints_text (layout : Layout) (start : Nat) (rest : List Char) :
    ∀ (cs : List Char) {fuel : Nat}, cs.length < fuel →
      textPoints start fuel (cs.flatMap layout.escape ++ '"' :: rest) = .ok (cs.map Char.toNat, rest)
  | [], fuel + 1, _ => by simp [textPoints]
  | c :: cs, fuel + 1, enough => by
    have follows : cs.flatMap layout.escape ++ '"' :: rest ≠ [] := by simp
    rw [List.flatMap_cons, List.append_assoc, textPoints_escape layout start fuel c follows,
      textPoints_text layout start rest cs (Nat.lt_of_succ_lt_succ enough)]
    rfl

/-- **A text is read back** as its code points, from the characters after its opening quote. -/
theorem text_text (layout : Layout) (s : String) (rest : List Char) :
    text (s.toList.flatMap layout.escape ++ '"' :: rest) = .ok (s.toList.map Char.toNat, rest) := by
  have enough : s.toList.length < (s.toList.flatMap layout.escape ++ '"' :: rest).length + 1 := by
    have : s.toList.length ≤ (s.toList.flatMap layout.escape).length := by
      induction s.toList with
      | nil => exact Nat.le_refl _
      | cons c cs ih =>
        have := List.length_pos_iff.2 (escape_ne_nil layout c)
        simp only [List.length_cons, List.flatMap_cons, List.length_append]
        omega
    rw [List.length_append]
    omega
  rw [text, textPoints_text layout _ rest s.toList enough]

/-! ## What stands between the parts -/

theorem skipSpace_append {gap : List Char} (blank : ∀ c ∈ gap, isSpace c = true) {c : Char} (dark : isSpace c = false)
    (rest : List Char) : skipSpace (gap ++ c :: rest) = c :: rest := by
  rw [skipSpace, List.dropWhile_append_of_pos blank, List.dropWhile_cons_of_neg (by simp [dark])]

theorem lineBreak_blank (layout : Layout) (depth : Nat) : ∀ c ∈ layout.lineBreak depth, isSpace c = true := by
  unfold Layout.lineBreak
  split
  · refine List.forall_mem_cons.2 ⟨rfl, fun c mem => ?_⟩
    rw [List.eq_of_mem_replicate mem]
    rfl
  · exact nofun

/-- The space after the comma of a separator. -/
def gap (layout : Layout) (depth : Nat) : List Char := if layout.spread then layout.lineBreak depth else [' ']

theorem separator_eq (layout : Layout) (depth : Nat) : layout.separator depth = ',' :: gap layout depth := by
  unfold Layout.separator gap
  split <;> rfl

theorem gap_blank (layout : Layout) (depth : Nat) : ∀ c ∈ gap layout depth, isSpace c = true := by
  unfold gap
  split
  · exact lineBreak_blank layout depth
  · simp; rfl

/-- What comes before a closing bracket ends a number. -/
theorem ends_lineBreak (layout : Layout) (depth : Nat) {c : Char} (close : c = ']' ∨ c = '\x7d') (rest : List Char) :
    Ends (layout.lineBreak depth ++ c :: rest) := by
  have closing : Ends (c :: rest) := by
    rintro _ ⟨⟩
    rcases close with rfl | rfl <;> exact ⟨rfl, by decide, by decide, by decide⟩
  unfold Layout.lineBreak
  split
  · rintro _ ⟨⟩
    exact ⟨rfl, by decide, by decide, by decide⟩
  · exact closing

theorem ends_comma (rest : List Char) : Ends (',' :: rest) := by
  rintro _ ⟨⟩
  exact ⟨rfl, by decide, by decide, by decide⟩

/-- What is read as a document starts with no space, closing bracket or byte order mark. -/
theorem value_head {reach fuel : Nat} {s : List Char} {read : Json × List Char} (ok : value reach fuel s = .ok read) :
    ∃ c cs, s = c :: cs ∧ isSpace c = false ∧ c ≠ ']' ∧ c ≠ '\ufeff' := by
  cases fuel with
  | zero => cases ok
  | succ fuel =>
    cases s with
    | nil => cases ok
    | cons c cs =>
      refine ⟨c, cs, rfl, ?_, ?_, ?_⟩
      · by_contra space
        rw [Bool.not_eq_false, isSpace] at space
        simp only [Bool.or_eq_true, decide_eq_true_eq] at space
        rcases space with ((rfl | rfl) | rfl) | rfl <;> cases ok
      · rintro rfl
        cases ok
      · rintro rfl
        cases ok

end Parser

/-! ## Documents -/

mutual

/-- **A text carries the document**: its numbers are finite, its integers have no more digits than are read, its texts
are not torn, and its objects give each key once. -/
def Carried : Json → Prop
  | .null | .bool _ | .str _ => True
  | .int n => (Nat.toDigits 10 n.natAbs).length ≤ Text.digitLimit
  | .float x => ∃ negative mantissa exponent, x.read = .finite negative mantissa exponent
  | .torn _ => False
  | .arr items => CarriedItems items
  | .obj entries => (entries.map (·.1)).Nodup ∧ CarriedEntries entries

/-- A text carries each of the items. -/
def CarriedItems : List Json → Prop
  | [] => True
  | item :: items => Carried item ∧ CarriedItems items

/-- A text carries the value of each of the entries. -/
def CarriedEntries : List (String × Json) → Prop
  | [] => True
  | (_, value) :: entries => Carried value ∧ CarriedEntries entries

end

mutual

/-- Decides whether a text carries a document. -/
def decCarried : (j : Json) → Decidable j.Carried
  | .null | .bool _ | .str _ => isTrue trivial
  | .int n => inferInstanceAs (Decidable ((Nat.toDigits 10 n.natAbs).length ≤ Text.digitLimit))
  | .float x =>
    match h : x.read with
    | .finite negative mantissa exponent => isTrue ⟨negative, mantissa, exponent, h⟩
    | .undefined | .infinite _ => isFalse fun ⟨_, _, _, read⟩ => nomatch h.symm.trans read
  | .torn _ => isFalse id
  | .arr items => decCarriedItems items
  | .obj entries =>
    have := decCarriedEntries entries
    inferInstanceAs (Decidable ((entries.map (·.1)).Nodup ∧ CarriedEntries entries))

/-- Decides whether a text carries each of the items. -/
def decCarriedItems : (items : List Json) → Decidable (CarriedItems items)
  | [] => isTrue trivial
  | item :: items =>
    have := decCarried item
    have := decCarriedItems items
    inferInstanceAs (Decidable (Carried item ∧ CarriedItems items))

/-- Decides whether a text carries the value of each of the entries. -/
def decCarriedEntries : (entries : List (String × Json)) → Decidable (CarriedEntries entries)
  | [] => isTrue trivial
  | (_, value) :: entries =>
    have := decCarried value
    have := decCarriedEntries entries
    inferInstanceAs (Decidable (Carried value ∧ CarriedEntries entries))

end

instance (j : Json) : Decidable j.Carried := decCarried j

theorem carriedItems_iff {items : List Json} : CarriedItems items ↔ ∀ j ∈ items, Carried j := by
  induction items with
  | nil => exact ⟨fun _ => nofun, fun _ => trivial⟩
  | cons item items ih => rw [CarriedItems, List.forall_mem_cons, ih]

namespace Parser

theorem value_text_text (layout : Layout) (reach fuel : Nat) (s : String) (rest : List Char) :
    value reach (fuel + 1) (layout.text s ++ rest) = .ok (.str s, rest) := by
  have read := text_text layout s rest
  rw [Layout.text, List.cons_append, List.cons_append, List.append_assoc, List.singleton_append, value, read]
  simp only [bind, Except.bind, ofPoints_chars]
  rfl

/-- A list is read from the first of its items on. -/
theorem value_list (layout : Layout) (reach fuel depth : Nat) {c : Char} {cs : List Char} (dark : isSpace c = false)
    (item : c ≠ ']') :
    value (reach + 1) (fuel + 1) ('[' :: (layout.lineBreak depth ++ c :: cs)) =
      (items reach fuel (c :: cs)).map fun read => (.arr read.1, read.2) := by
  rw [value, if_neg (Nat.succ_ne_zero reach), Nat.add_sub_cancel, skipSpace_append (lineBreak_blank layout depth) dark]
  split
  · rename_i same
    cases same
    exact absurd rfl item
  · cases items reach fuel (c :: cs) <;> rfl

/-- An object is read from the first of its keys on. -/
theorem value_object (layout : Layout) (reach fuel depth : Nat) (cs : List Char) :
    value (reach + 1) (fuel + 1) ('\x7b' :: (layout.lineBreak depth ++ '"' :: cs)) =
      (entries reach fuel [] ('"' :: cs)).map fun read => (.obj read.1, read.2) := by
  rw [value, if_neg (Nat.succ_ne_zero reach), Nat.add_sub_cancel, skipSpace_append (lineBreak_blank layout depth) rfl]
  split
  · rename_i same
    cases same
  · cases entries reach fuel [] ('"' :: cs) <;> rfl

theorem items_last (layout : Layout) {reach fuel outer : Nat} {s rest : List Char} {item : Json}
    (read : value reach fuel s = .ok (item, layout.lineBreak outer ++ ']' :: rest)) :
    items reach (fuel + 1) s = .ok ([item], rest) := by
  have close := skipSpace_append (lineBreak_blank layout outer) (c := ']') rfl rest
  rw [items, read]
  simp only [bind, Except.bind, close]
  rfl

theorem skipSpace_separator (layout : Layout) (depth : Nat) (more : List Char) :
    skipSpace (layout.separator depth ++ more) = ',' :: (gap layout depth ++ more) := by
  rw [separator_eq]
  rfl

theorem items_more (layout : Layout) {reach fuel depth : Nat} {s cs : List Char} {c : Char} {item : Json}
    (dark : isSpace c = false) (read : value reach fuel s = .ok (item, layout.separator depth ++ c :: cs)) :
    items reach (fuel + 1) s = (items reach fuel (c :: cs)).map fun left => (item :: left.1, left.2) := by
  rw [items, read]
  simp only [bind, Except.bind, skipSpace_separator, skipSpace_append (gap_blank layout depth) dark]
  cases items reach fuel (c :: cs) <;> rfl

/-- An entry of an object is read as its key and its value. -/
theorem entries_entry (layout : Layout) {reach fuel : Nat} (before : Entries) (key : String) {c : Char} {cs : List Char}
    (dark : isSpace c = false) :
    entries reach (fuel + 1) before (layout.text key ++ [':', ' '] ++ c :: cs) =
      (value reach fuel (c :: cs)).bind fun read =>
        match skipSpace read.2 with
        | '\x7d' :: rest => .ok (before.put key read.1, rest)
        | ',' :: rest => entries reach fuel (before.put key read.1) (skipSpace rest)
        | rest => .error (.comma, rest.length) := by
  have name := text_text layout key (':' :: ' ' :: c :: cs)
  have chars : layout.text key ++ [':', ' '] ++ c :: cs =
      '"' :: (key.toList.flatMap layout.escape ++ '"' :: ':' :: ' ' :: c :: cs) := by simp [Layout.text]
  have colon : skipSpace (':' :: ' ' :: c :: cs) = ':' :: ' ' :: c :: cs := rfl
  have space : skipSpace (' ' :: c :: cs) = c :: cs :=
    skipSpace_append (by simp; rfl : ∀ c ∈ [' '], isSpace c = true) dark cs
  rw [chars, entries, name]
  simp only [bind, Except.bind, colon, space, putUnder, isText_chars, shown_chars]
  rfl

theorem entries_last (layout : Layout) {reach fuel outer : Nat} (before : Entries) (key : String) {c : Char}
    {cs rest : List Char} {v : Json} (dark : isSpace c = false)
    (read : value reach fuel (c :: cs) = .ok (v, layout.lineBreak outer ++ '\x7d' :: rest)) :
    entries reach (fuel + 1) before (layout.text key ++ [':', ' '] ++ c :: cs) = .ok (before.put key v, rest) := by
  have close := skipSpace_append (lineBreak_blank layout outer) (c := '\x7d') rfl rest
  simp only [entries_entry layout before key dark, read, Except.bind, close]

theorem entries_more (layout : Layout) {reach fuel depth : Nat} (before : Entries) (key : String) {c d : Char}
    {cs ds : List Char} {v : Json} (dark : isSpace c = false) (dark' : isSpace d = false)
    (read : value reach fuel (c :: cs) = .ok (v, layout.separator depth ++ d :: ds)) :
    entries reach (fuel + 1) before (layout.text key ++ [':', ' '] ++ c :: cs) =
      entries reach fuel (before.put key v) (d :: ds) := by
  simp only [entries_entry layout before key dark, read, Except.bind, skipSpace_separator]
  exact congrArg (entries reach fuel _) (skipSpace_append (gap_blank layout depth) dark' ds)

theorem put_of_once {before further : Entries} {key : String} {v : Json}
    (once : ((before ++ (key, v) :: further).map (·.1)).Nodup) : before.put key v = before ++ [(key, v)] := by
  refine Entries.put_of_fresh v fun given => ?_
  rw [List.map_append, List.map_cons, List.nodup_middle, List.nodup_cons] at once
  exact once.1 (List.mem_append_left _ given)

mutual

/-- **A document is read back from its characters**, whatever follows that could not belong to a number. -/
theorem value_write (layout : Layout) : ∀ (j : Json) (depth reach fuel : Nat) (rest : List Char), j.Carried →
    j.depth ≤ reach → Ends rest → 2 * (layout.write depth j).length ≤ fuel + 1 →
    value reach (fuel + 1) (layout.write depth j ++ rest) = .ok (j, rest)
  | .null, _, _, fuel, rest, _, _, _, _ => by
    simp only [Layout.write]
    rfl
  | .bool b, _, _, fuel, rest, _, _, _, _ => by
    cases b <;> simp only [Layout.write] <;> rfl
  | .int n, _, reach, fuel, rest, few, _, ends, _ => by
    rw [Layout.write]
    exact value_int reach fuel few ends
  | .float x, _, reach, fuel, rest, ⟨negative, mantissa, exponent, read⟩, _, ends, _ => by
    rw [Layout.write]
    exact value_text reach fuel layout.style read ends
  | .str s, _, reach, fuel, rest, _, _, _, _ => by
    rw [Layout.write]
    exact value_text_text layout reach fuel s rest
  | .arr [], _, reach + 1, fuel, rest, _, _, _, _ => by
    simp only [Layout.write]
    rfl
  | .arr (item :: items), depth, reach + 1, fuel, rest, carried, within, _, enough => by
    rw [Carried] at carried
    rw [Json.depth] at within
    simp only [Layout.write, List.length_append, List.length_cons] at enough
    have read := items_write layout (item :: items) (depth + 1) depth reach fuel rest rfl carried
      (Nat.le_of_succ_le_succ within) (by simp only [List.length_append]; omega)
    rw [depthOfItems] at within
    obtain ⟨c, cs, shown, dark, opens, -⟩ := value_head (value_write layout item (depth + 1) reach fuel []
      carried.1 (by omega) nofun (by omega))
    simp only [Layout.write, List.append_nil, List.append_assoc, List.cons_append, List.nil_append] at shown read ⊢
    simp only [shown, List.cons_append] at read ⊢
    rw [value_list layout reach fuel (depth + 1) dark opens, read]
    rfl
  | .obj [], _, reach + 1, fuel, rest, _, _, _, _ => by
    simp only [Layout.write]
    rfl
  | .obj ((key, v) :: entries), depth, reach + 1, fuel, rest, carried, within, _, enough => by
    rw [Carried] at carried
    rw [Json.depth] at within
    simp only [Layout.write, List.length_append, List.length_cons] at enough
    have read := entries_write layout ((key, v) :: entries) [] (depth + 1) depth reach fuel rest rfl carried.1 carried.2
      (Nat.le_of_succ_le_succ within) (by simp only [List.length_append, List.length_cons]; omega)
    simp only [Layout.write, Layout.text, List.append_assoc, List.cons_append, List.nil_append] at read ⊢
    rw [value_object layout reach fuel (depth + 1), read]
    rfl

/-- The items of a list are read back, up to its closing bracket. -/
theorem items_write (layout : Layout) : ∀ (all : List Json) (depth outer reach fuel : Nat) (rest : List Char)
    {item : Json} {items : List Json}, all = item :: items → CarriedItems all → depthOfItems all ≤ reach →
    2 * (layout.write depth item ++ layout.writeItems depth items).length + 2 ≤ fuel →
    Parser.items reach fuel (layout.write depth item ++ layout.writeItems depth items ++
      (layout.lineBreak outer ++ ']' :: rest)) = .ok (all, rest)
  | item :: [], depth, outer, reach, fuel + 2, rest, _, _, rfl, carried, within, enough => by
    simp only [Layout.writeItems, List.append_nil] at enough ⊢
    rw [depthOfItems] at within
    exact items_last layout (value_write layout item depth reach _ _ carried.1 (by omega)
      (ends_lineBreak layout outer (.inl rfl) rest) (by omega))
  | item :: next :: items, depth, outer, reach, fuel + 2, rest, _, _, rfl, carried, within, enough => by
    simp only [Layout.writeItems, separator_eq, List.length_append, List.length_cons] at enough
    rw [depthOfItems] at within
    have left := items_write layout (next :: items) depth outer reach (fuel + 1) rest rfl carried.2 (by omega)
      (by simp only [List.length_append]; omega)
    rw [depthOfItems] at within
    obtain ⟨c, cs, shown, dark, -⟩ := value_head (value_write layout next depth reach fuel []
      carried.2.1 (by omega) nofun (by omega))
    simp only [List.append_nil, List.append_assoc] at shown left
    have read := value_write layout item depth reach fuel (layout.separator depth ++
      (layout.write depth next ++ (layout.writeItems depth items ++ (layout.lineBreak outer ++ ']' :: rest))))
      carried.1 (by omega) (separator_eq layout depth ▸ ends_comma _) (by omega)
    simp only [Layout.writeItems, List.append_assoc]
    simp only [shown, List.cons_append] at read left ⊢
    rw [items_more layout dark read, left]
    rfl

/-- The entries of an object are read back after those before them, up to its closing bracket. -/
theorem entries_write (layout : Layout) : ∀ (all : List (String × Json)) (before : Entries)
    (depth outer reach fuel : Nat) (rest : List Char) {key : String} {v : Json} {further : List (String × Json)},
    all = (key, v) :: further → ((before ++ all).map (·.1)).Nodup → CarriedEntries all → depthOfEntries all ≤ reach →
    2 * (layout.text key ++ [':', ' '] ++ layout.write depth v ++ layout.writeEntries depth further).length + 2 ≤ fuel →
    Parser.entries reach fuel before (layout.text key ++ [':', ' '] ++ layout.write depth v ++
      layout.writeEntries depth further ++ (layout.lineBreak outer ++ '\x7d' :: rest)) = .ok (before ++ all, rest)
  | (key, v) :: [], before, depth, outer, reach, fuel + 2, rest, _, _, _, rfl, once, carried, within, enough => by
    simp only [Layout.writeEntries, List.append_nil, List.length_append] at enough
    rw [depthOfEntries] at within
    obtain ⟨c, cs, shown, dark, -⟩ := value_head (value_write layout v depth reach fuel []
      carried.1 (by omega) nofun (by omega))
    have read := value_write layout v depth reach fuel _ carried.1 (by omega)
      (ends_lineBreak layout outer (.inr rfl) rest) (by omega)
    rw [List.append_nil] at shown
    rw [shown, List.cons_append] at read
    rw [Layout.writeEntries, List.append_nil, shown, List.append_assoc, List.cons_append,
      entries_last layout before key dark read, put_of_once once]
  | (key, v) :: (next, w) :: further, before, depth, outer, reach, fuel + 2, rest, _, _, _, rfl, once, carried, within,
      enough => by
    simp only [Layout.writeEntries, separator_eq, List.length_append, List.length_cons] at enough
    rw [depthOfEntries] at within
    have shifted : before ++ (key, v) :: (next, w) :: further = before.put key v ++ (next, w) :: further := by
      rw [put_of_once once, List.append_assoc, List.singleton_append]
    have left := entries_write layout ((next, w) :: further) (before.put key v) depth outer reach (fuel + 1) rest rfl
      (shifted ▸ once) carried.2 (by omega) (by simp only [List.length_append, List.length_cons]; omega)
    obtain ⟨c, cs, shown, dark, -⟩ := value_head (value_write layout v depth reach fuel []
      carried.1 (by omega) nofun (by omega))
    have read := value_write layout v depth reach fuel (layout.separator depth ++
      (layout.text next ++ ([':', ' '] ++ (layout.write depth w ++ (layout.writeEntries depth further ++
        (layout.lineBreak outer ++ '\x7d' :: rest)))))) carried.1 (by omega) (separator_eq layout depth ▸ ends_comma _)
      (by omega)
    rw [List.append_nil] at shown
    rw [shown, List.cons_append, Layout.text, List.append_assoc, List.cons_append] at read
    have step := entries_more layout before key dark rfl read
    rw [shifted, ← left]
    simp only [Layout.writeEntries, Layout.text, shown, List.append_assoc, List.cons_append, List.nil_append] at step ⊢
    exact step

end

/-- A document that is written starts with no space, closing bracket or byte order mark. -/
theorem write_head (layout : Layout) {j : Json} (carried : j.Carried) (depth : Nat) :
    ∃ c cs, layout.write depth j = c :: cs ∧ isSpace c = false ∧ c ≠ ']' ∧ c ≠ '\ufeff' := by
  have read := value_write layout j depth j.depth (2 * (layout.write depth j).length) [] carried le_rfl nofun (by omega)
  rw [List.append_nil] at read
  exact value_head read

/-- Nothing comes before a document that is written, and no byte order mark starts it. -/
theorem write_start (layout : Layout) {j : Json} (carried : j.Carried) :
    skipSpace (layout.write 0 j) = layout.write 0 j ∧ ¬ (layout.write 0 j).head? = some '\ufeff' := by
  obtain ⟨c, cs, shown, dark, -, unmarked⟩ := write_head layout carried 0
  rw [shown]
  exact ⟨skipSpace_append (nofun : ∀ c ∈ [], isSpace c = true) dark cs, by simp [unmarked]⟩

end Parser

/-- **A document that a text carries is read back from its text**, in every layout, if it nests no deeper than the
reach. -/
theorem parse_render (layout : Layout) {reach : Nat} {j : Json} (carried : j.Carried) (within : j.depth ≤ reach) :
    parse reach (render layout j) = .ok j := by
  have read := Parser.value_write layout j 0 reach (2 * (layout.write 0 j).length) [] carried within nofun (by omega)
  obtain ⟨start, head⟩ := Parser.write_start layout carried
  rw [List.append_nil] at read
  simp only [parse, render, String.toList_ofList, if_neg head, start, read]
  rfl

end Bestiary.Json
