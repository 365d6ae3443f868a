import Mathlib.Algebra.Ring.Nat
import Bestiary.Moment.Text
/-!
# Moment — the text of a moment is read back

A number below ten to some power has a text of so many digits, which writes it (`fixed_padded`); so each part of the
text of a moment is read and leaves the next part, down to the distance from universal time (`parse?_text`).
-/
namespace Bestiary

/-! ## Digits -/

namespace Text

theorem natOfDigits_eq (cs : List Char) : natOfDigits cs = Nat.ofDigitChars 10 cs 0 :=
  Nat.ofDigitChars_eq_foldl.symm

theorem isAsciiDigit_of_isDigit {c : Char} (h : c.isDigit = true) : isAsciiDigit c = true := by
  simpa [Char.isDigit, isAsciiDigit, Char.le_def] using h

end Text

namespace Moment

open Text (natOfDigits isAsciiDigit)

theorem padded_digits (width n : Nat) : ∀ c ∈ padded width n, isAsciiDigit c = true := by
  intro c hc
  rcases List.mem_append.1 hc with zero | digit
  · rw [List.eq_of_mem_replicate zero]
    rfl
  · exact Text.isAsciiDigit_of_isDigit (Nat.isDigit_of_mem_toDigits (by decide) (by decide) digit)

theorem natOfDigits_padded (width n : Nat) : natOfDigits (padded width n) = n := by
  rw [Text.natOfDigits_eq, padded, Nat.ofDigitChars_append, Nat.ofDigitChars_replicate_zero, Nat.mul_zero]
  exact Nat.ofDigitChars_toDigits (by decide) (by decide)

theorem length_padded {width n : Nat} (some : 0 < width) (small : n < 10 ^ width) :
    (padded width n).length = width := by
  have fits : (Nat.toDigits 10 n).length ≤ width := (Nat.length_toDigits_le_iff (by decide) some).2 small
  rw [padded, List.length_append, List.length_replicate]
  omega

/-- **A number is read off its digits**, whatever follows them. -/
theorem fixed_padded {width n : Nat} (some : 0 < width) (small : n < 10 ^ width) (rest : List Char) :
    fixed width (padded width n ++ rest) = .some (n, rest) := by
  have length := length_padded some small
  have taken : (padded width n ++ rest).take width = padded width n := List.take_left' length
  have dropped : (padded width n ++ rest).drop width = rest := List.drop_left' length
  have digits : (padded width n).all isAsciiDigit = true := List.all_eq_true.2 (padded_digits width n)
  simp [fixed, taken, dropped, length, digits, natOfDigits_padded]

theorem after_cons (c : Char) (rest : List Char) : after c (c :: rest) = some rest := by simp [after]

/-! ## Parts -/

theorem daysInMonth_le (year month : Nat) : daysInMonth year month ≤ 31 := by
  unfold daysInMonth
  repeat' split
  all_goals omega

/-- Every part of a date and a time has no more digits than it is written with. -/
structure Reading.Fits (r : Reading) : Prop where
  year : r.year < 10 ^ 4
  month : r.month < 10 ^ 2
  day : r.day < 10 ^ 2
  hour : r.hour < 10 ^ 2
  minute : r.minute < 10 ^ 2
  second : r.second < 10 ^ 2
  micro : r.micro < 10 ^ 6
  offset : ∀ d ∈ r.offset, d.natAbs < 1440

theorem fits (m : Moment) : m.reading.Fits := by
  have real := m.real
  simp only [Reading.exists?, Bool.and_eq_true, decide_eq_true_eq, Option.all_eq_true] at real
  have days := daysInMonth_le m.reading.year m.reading.month
  obtain ⟨⟨⟨⟨⟨⟨⟨⟨⟨⟨-, year⟩, -⟩, month⟩, -⟩, day⟩, hour⟩, minute⟩, second⟩, micro⟩, offset⟩ := real
  exact ⟨by omega, by omega, by omega, by omega, by omega, by omega, by omega, offset⟩

theorem date_chars {year month day : Nat} (hy : year < 10 ^ 4) (hm : month < 10 ^ 2) (hd : day < 10 ^ 2)
    (rest : List Char) :
    date (padded 4 year ++ '-' :: (padded 2 month ++ '-' :: (padded 2 day ++ rest))) =
      some ((year, month, day), rest) := by
  simp only [date, fixed_padded (by decide : 0 < 4) hy, fixed_padded (by decide : 0 < 2) hm,
    fixed_padded (by decide : 0 < 2) hd, after_cons, Option.bind_eq_bind, Option.bind_some]
  rfl

/-- A distance from universal time starts with neither a digit nor the sign of a fraction. -/
theorem offsetChars_head (offset : Option Int) :
    ∀ c ∈ (offsetChars offset).head?, c ≠ '.' ∧ c ≠ ',' ∧ isAsciiDigit c = false := by
  cases offset with
  | none => nofun
  | some d =>
    by_cases zero : d = 0
    · simp [offsetChars, zero, isAsciiDigit]
    · by_cases behind : d < 0
      · simp [offsetChars, zero, behind, isAsciiDigit]
      · simp [offsetChars, zero, behind, isAsciiDigit]

theorem seconds_whole {second : Nat} (small : second < 10 ^ 2) (offset : Option Int) :
    seconds (':' :: (padded 2 second ++ offsetChars offset)) = some ((second, 0), offsetChars offset) := by
  have head := offsetChars_head offset
  simp only [seconds, fixed_padded (by decide : 0 < 2) small, Option.bind_eq_bind, Option.bind_some]
  generalize offsetChars offset = tail at head ⊢
  cases tail with
  | nil => rfl
  | cons c rest =>
    obtain ⟨point, comma, -⟩ := head c rfl
    simp [point, comma]

theorem microOf_padded {micro : Nat} (few : micro < 10 ^ 6) : microOf (padded 6 micro) = micro := by
  rw [microOf, List.take_left' (length_padded (by decide) few), natOfDigits_padded]

theorem seconds_fraction {second micro : Nat} (small : second < 10 ^ 2) (few : micro < 10 ^ 6) (offset : Option Int) :
    seconds (':' :: (padded 2 second ++ '.' :: (padded 6 micro ++ offsetChars offset))) =
      some ((second, micro), offsetChars offset) := by
  have digits := padded_digits 6 micro
  have stop : (offsetChars offset).takeWhile isAsciiDigit = [] ∧
      (offsetChars offset).dropWhile isAsciiDigit = offsetChars offset := by
    have head := offsetChars_head offset
    generalize offsetChars offset = tail at head ⊢
    cases tail with
    | nil => exact ⟨rfl, rfl⟩
    | cons c rest =>
      obtain ⟨-, -, other⟩ := head c rfl
      simp [other]
  have taken : (padded 6 micro ++ offsetChars offset).takeWhile isAsciiDigit = padded 6 micro := by
    rw [List.takeWhile_append_of_pos digits, stop.1, List.append_nil]
  have dropped : (padded 6 micro ++ offsetChars offset).dropWhile isAsciiDigit = offsetChars offset := by
    rw [List.dropWhile_append_of_pos digits, stop.2]
  have filled : padded 6 micro ≠ [] := List.ne_nil_of_length_pos (by rw [length_padded (by decide) few]; decide)
  simp only [seconds, fixed_padded (by decide : 0 < 2) small, Option.bind_eq_bind, Option.bind_some, taken, dropped]
  obtain ⟨d, ds, eq⟩ := List.exists_cons_of_ne_nil filled
  have read := microOf_padded few
  rw [eq] at read
  simp [eq, read]

theorem distance_chars (sign : Int) {d : Nat} (near : d < 1440) :
    distance sign (padded 2 (d / 60) ++ ':' :: padded 2 (d % 60)) = some (some (sign * d), []) := by
  have hours : d / 60 < 10 ^ 2 := by omega
  have minutes : d % 60 < 10 ^ 2 := by omega
  have last := fixed_padded (by decide : 0 < 2) minutes []
  rw [List.append_nil] at last
  have whole : d / 60 * 60 + d % 60 = d := by omega
  simp only [distance, fixed_padded (by decide : 0 < 2) hours, after_cons, Option.getD_some, last, Option.bind_eq_bind,
    Option.bind_some, if_pos (Nat.mod_lt d (by decide : 60 > 0)), whole]
  rfl

theorem offset_chars {offset : Option Int} (near : ∀ d ∈ offset, d.natAbs < 1440) :
    Moment.offset (offsetChars offset) = some (offset, []) := by
  cases offset with
  | none => rfl
  | some d =>
    have read (sign : Int) := distance_chars sign (near d rfl)
    by_cases zero : d = 0
    · subst zero
      rfl
    · by_cases behind : d < 0
      · have signed : -1 * (d.natAbs : Int) = d := by omega
        have chars : offsetChars (some d) = '-' :: (padded 2 (d.natAbs / 60) ++ ':' :: padded 2 (d.natAbs % 60)) := by
          simp [offsetChars, zero, behind]
        have minus := read (-1)
        rw [signed] at minus
        rw [chars]
        exact minus
      · have signed : 1 * (d.natAbs : Int) = d := by omega
        have chars : offsetChars (some d) = '+' :: (padded 2 (d.natAbs / 60) ++ ':' :: padded 2 (d.natAbs % 60)) := by
          simp [offsetChars, zero, behind]
        have plus := read 1
        rw [signed] at plus
        rw [chars]
        exact plus

/-- **A moment is read off its text.** -/
theorem parse?_text (m : Moment) : parse? m.text = some m := by
  obtain ⟨year, month, day, hour, minute, second, micro, near⟩ := m.fits
  have time : seconds (':' :: (padded 2 m.reading.second ++
      ((if m.reading.micro = 0 then [] else '.' :: padded 6 m.reading.micro) ++ offsetChars m.reading.offset))) =
      some ((m.reading.second, m.reading.micro), offsetChars m.reading.offset) := by
    split
    · rename_i none
      rw [none]
      exact seconds_whole second m.reading.offset
    · exact seconds_fraction second micro m.reading.offset
  have full : parseFull? m.chars = some m := by
    simp only [chars, List.append_assoc, List.cons_append, parseFull?, date_chars year month day, Option.bind_eq_bind,
      Option.bind_some, decide_true, Bool.true_or, if_true, fixed_padded (by decide : 0 < 2) hour, after_cons,
      fixed_padded (by decide : 0 < 2) minute, time, offset_chars near, List.isEmpty_nil]
    exact ofReading?_reading m
  rw [parse?, text, String.toList_ofList, full]
  rfl

end Moment
end Bestiary
