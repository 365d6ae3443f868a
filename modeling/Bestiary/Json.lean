import Bestiary.Number.Double
/-!
# Documents

A document is a tree of lists and objects over null, truth values, integers of any size, doubles and
texts. An object is its entries in order. Whole numbers and doubles stay apart: `1` and `1.0` are two
documents.

Texts are texts of characters. The one exception is a torn text, which has half of a surrogate pair without
the other half: no character is that, so a torn text is kept by its code points. Wherever only characters
will do, as in the field of a record or the key of an entry, `shown` puts U+FFFD for each half.
-/
namespace Bestiary

open Number (Double)

inductive Json where
  | null
  | bool (b : Bool)
  | int (n : Int)
  | float (x : Double)
  | str (s : String)
  /-- A text with half of a surrogate pair, by its code points. -/
  | torn (points : List Nat)
  | arr (items : List Json)
  /-- An object, by its entries in order. -/
  | obj (entries : List (String × Json))
  deriving Repr, Inhabited

namespace Json

mutual

/-- Decides equality of documents. -/
def decEq : (a b : Json) → Decidable (a = b)
  | .null, .null => isTrue rfl
  | .bool a, .bool b => decidable_of_iff (a = b) (by simp)
  | .int a, .int b => decidable_of_iff (a = b) (by simp)
  | .float a, .float b => decidable_of_iff (a = b) (by simp)
  | .str a, .str b => decidable_of_iff (a = b) (by simp)
  | .torn a, .torn b => decidable_of_iff (a = b) (by simp)
  | .arr a, .arr b => have := decEqItems a b; decidable_of_iff (a = b) (by simp)
  | .obj a, .obj b => have := decEqEntries a b; decidable_of_iff (a = b) (by simp)
  | .null, .bool _ | .null, .int _ | .null, .float _ | .null, .str _ | .null, .torn _ | .null, .arr _ | .null, .obj _
  | .bool _, .null | .bool _, .int _ | .bool _, .float _ | .bool _, .str _
  | .bool _, .torn _ | .bool _, .arr _ | .bool _, .obj _
  | .int _, .null | .int _, .bool _ | .int _, .float _ | .int _, .str _
  | .int _, .torn _ | .int _, .arr _ | .int _, .obj _
  | .float _, .null | .float _, .bool _ | .float _, .int _ | .float _, .str _
  | .float _, .torn _ | .float _, .arr _ | .float _, .obj _
  | .str _, .null | .str _, .bool _ | .str _, .int _ | .str _, .float _
  | .str _, .torn _ | .str _, .arr _ | .str _, .obj _
  | .torn _, .null | .torn _, .bool _ | .torn _, .int _ | .torn _, .float _
  | .torn _, .str _ | .torn _, .arr _ | .torn _, .obj _
  | .arr _, .null | .arr _, .bool _ | .arr _, .int _ | .arr _, .float _
  | .arr _, .str _ | .arr _, .torn _ | .arr _, .obj _
  | .obj _, .null | .obj _, .bool _ | .obj _, .int _ | .obj _, .float _
  | .obj _, .str _ | .obj _, .torn _ | .obj _, .arr _ =>
    isFalse (by simp)

/-- Decides equality of lists of documents. -/
def decEqItems : (a b : List Json) → Decidable (a = b)
  | [], [] => isTrue rfl
  | x :: xs, y :: ys =>
    have := decEq x y
    have := decEqItems xs ys
    decidable_of_iff (x = y ∧ xs = ys) (by simp)
  | [], _ :: _ | _ :: _, [] => isFalse (by simp)

/-- Decides equality of lists of entries. -/
def decEqEntries : (a b : List (String × Json)) → Decidable (a = b)
  | [], [] => isTrue rfl
  | (k, x) :: xs, (l, y) :: ys =>
    have := decEq x y
    have := decEqEntries xs ys
    decidable_of_iff (k = l ∧ x = y ∧ xs = ys) (by simp [and_assoc])
  | [], _ :: _ | _ :: _, [] => isFalse (by simp)

end

instance : DecidableEq Json := decEq

/-- The text or null. -/
def ofText? : Option String → Json
  | some s => .str s
  | none => .null

/-- The integer or null. -/
def ofInt? : Option Int → Json
  | some n => .int n
  | none => .null

/-- The natural number or null. -/
def ofNat? : Option Nat → Json
  | some n => .int n
  | none => .null

/-- The truth value or null. -/
def ofBool? : Option Bool → Json
  | some b => .bool b
  | none => .null

/-- The characters of code points, with U+FFFD for each half of a surrogate pair. -/
def shown (points : List Nat) : String :=
  String.ofList (points.map fun n => if n.isValidChar then Char.ofNat n else '\ufffd')

/-- Whether the code points are those of characters. -/
def isText (points : List Nat) : Bool := points.all fun n => decide n.isValidChar

/-- The text of code points. -/
def ofPoints (points : List Nat) : Json := if isText points then .str (shown points) else .torn points

/-- A list of texts. -/
def texts (ss : List String) : Json := .arr (ss.map .str)

/-- The entry of an object with this key; other documents have none. -/
def get? (key : String) : Json → Option Json
  | .obj entries => entries.lookup key
  | _ => none

end Json

/-- The entries of an object. -/
abbrev Entries := List (String × Json)

namespace Entries

/-- The entries with the value put under the key: in its place if the key is there, else at the end. -/
def put (key : String) (value : Json) : Entries → Entries
  | [] => [(key, value)]
  | entry :: rest => if entry.1 = key then (key, value) :: rest else entry :: put key value rest

/-- The entries with all of the others put over them, in order. -/
def overlay (base upper : Entries) : Entries :=
  upper.foldl (fun entries entry => entries.put entry.1 entry.2) base

/-- The entries whose value is not null. -/
def dropNulls (entries : Entries) : Entries := entries.filter fun entry => entry.2 ≠ .null

theorem lookup_put_self (entries : Entries) (key : String) (value : Json) :
    (entries.put key value).lookup key = some value := by
  induction entries with
  | nil => simp [put]
  | cons entry rest ih =>
    obtain ⟨k, v⟩ := entry
    by_cases h : k = key
    · simp [put, h]
    · have : (key == k) = false := by simpa using Ne.symm h
      simp [put, h, List.lookup_cons, this, ih]

theorem lookup_put_of_ne {key other : String} (h : other ≠ key) (entries : Entries) (value : Json) :
    (entries.put key value).lookup other = entries.lookup other := by
  induction entries with
  | nil =>
    have : (other == key) = false := by simpa using h
    simp [put, List.lookup_cons, this]
  | cons entry rest ih =>
    obtain ⟨k, v⟩ := entry
    by_cases hk : k = key
    · subst hk
      have : (other == k) = false := by simpa using h
      simp [put, List.lookup_cons, this]
    · simp only [put, hk, if_false, List.lookup_cons]
      cases other == k <;> simp [ih]

end Entries

end Bestiary
