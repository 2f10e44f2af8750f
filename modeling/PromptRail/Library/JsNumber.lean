import Mathlib.Data.Nat.Digits.Defs
import PromptRail.Library.JsValue
import PromptRail.Library.Outcome
import PromptRail.Library.Round

/-!
# Numbers and properties of JavaScript

What `Number` makes of a value: a number read from a text is rounded to the nearest double. A finite number is carried by its value, so
that zero has no sign. Then the properties of a value, and assignment to a property by a name the program does not know.
-/

namespace Js

open PyText (Text)

/-! ## Numbers -/

inductive Double where
  | nan
  | infinity (negative : Bool)
  | finite (q : ℚ)
deriving DecidableEq

namespace Double

/-- `Number.isFinite`. -/
def isFinite : Double → Bool
  | .finite _ => true
  | _ => false

/-- `a < b`. -/
def lt : Double → Double → Bool
  | .nan, _ | _, .nan => false
  | .finite p, .finite q => p < q
  | .finite _, .infinity negative => !negative
  | .infinity negative, .finite _ => negative
  | .infinity negative, .infinity negative' => negative && !negative'

/-- `Math.max(a, b)`. -/
def max : Double → Double → Double
  | .nan, _ | _, .nan => .nan
  | a, b => if a.lt b then b else a

def neg : Double → Double
  | .nan => .nan
  | .infinity negative => .infinity !negative
  | .finite q => .finite (-q)

/-- The number of the binary digit that leads in a positive number. -/
def leading (q : ℚ) : ℤ :=
  let k : ℤ := Nat.log2 q.num.natAbs - Nat.log2 q.den
  if 2 ^ k ≤ q then k else k - 1

/-- The nearest double. -/
def round (q : ℚ) : Double :=
  if q = 0 then .finite 0
  else
    let digit : ℚ := 2 ^ Max.max (leading |q| - 52) (-1074)
    let magnitude := Round.halfEven (|q| / digit) * digit
    if 2 ^ 1024 ≤ magnitude then .infinity (q < 0) else .finite (if q < 0 then -magnitude else magnitude)

/-- A number that a count, a cost or a time may be. -/
def Counts : Double → Prop
  | .finite q => 0 ≤ q
  | _ => False

theorem counts_iff {n : Double} : n.Counts ↔ n.isFinite = true ∧ n.lt (.finite 0) = false := by
  cases n with
  | nan => simp [Counts, isFinite]
  | infinity negative => simp [Counts, isFinite]
  | finite q => simp [Counts, isFinite, lt]

/-- The larger of zero and a number is no count for two numbers. -/
theorem counts_max_iff {n : Double} : (max (.finite 0) n).Counts ↔ n ≠ .nan ∧ n ≠ .infinity false := by
  cases n with
  | nan => simp [max, Counts]
  | infinity negative => cases negative <;> simp [max, lt, Counts]
  | finite q =>
    simp only [max, lt, decide_eq_true_eq]
    split
    · rename_i hpositive
      simpa [Counts] using hpositive.le
    · simp [Counts]

end Double

/-! ## Numbers in a text -/

/-- The value of a digit. -/
def digit (radix : Nat) (c : Char) : Option Nat :=
  let d := if c.isDigit then c.toNat - '0'.toNat else if c.toLower.isLower then c.toLower.toNat - 'a'.toNat + 10 else radix
  if d < radix then some d else none

/-- A number in digits, the first of which leads. -/
def natural (radix : Nat) (t : Text) : Option Nat :=
  if t = [] then none else (t.mapM (digit radix)).map fun ds => Nat.ofDigits radix ds.reverse

/-- The exponent after a number, if there is one. -/
def exponent : Text → Option ℤ
  | [] => some 0
  | e :: t =>
    if e = 'e' ∨ e = 'E' then
      match t with
      | '-' :: t => (natural 10 t).map fun n => -(n : ℤ)
      | '+' :: t => (natural 10 t).map fun n => (n : ℤ)
      | t => (natural 10 t).map fun n => (n : ℤ)
    else none

/-- A decimal without a sign. -/
def decimal (t : Text) : Double :=
  if t = "Infinity".toList then .infinity false
  else
    let whole := t.takeWhile Char.isDigit
    let (fraction, rest) :=
      match t.dropWhile Char.isDigit with
      | '.' :: t => (t.takeWhile Char.isDigit, t.dropWhile Char.isDigit)
      | t => ([], t)
    match natural 10 (whole ++ fraction), exponent rest with
    | some n, some e => .round (n * 10 ^ (e - fraction.length))
    | _, _ => .nan

/-- The radix that a letter after a zero stands for. -/
def radixOf (c : Char) : Option Nat :=
  if c = 'x' ∨ c = 'X' then some 16 else if c = 'o' ∨ c = 'O' then some 8 else if c = 'b' ∨ c = 'B' then some 2 else none

/-- `Number(t)`, of a text. -/
def numberOfText (t : Text) : Double :=
  match trim t with
  | [] => .finite 0
  | '-' :: t => (decimal t).neg
  | '+' :: t => decimal t
  | c :: t =>
    match if c = '0' then t.head?.bind radixOf else none with
    | some radix =>
      match natural radix t.tail with
      | some n => .round n
      | none => .nan
    | none => decimal (c :: t)

/-- `Number(value)`: an array or an object is read as its text. -/
def number : Value → Except String Double
  | .null => .ok (.finite 0)
  | .bool b => .ok (.finite (if b then 1 else 0))
  | value => (string value).map numberOfText

/-! ## Properties -/

/-- The elements of a list under their numbers. -/
def numbered (xs : List Value) : List (Text × Value) := xs.zipIdx.map fun p => (Nat.toDigits 10 p.2, p.1)

/-- The units of a text, as texts; half of a pair is one that no number begins with. -/
def units (t : Text) : List Value :=
  t.flatMap fun c => if c.toNat < 65536 then [.str [c]] else [.str ['\uFFFD'], .str ['\uFFFD']]

/-- `Object.entries(value)`. -/
def Value.entries : Value → List (Text × Value)
  | .obj fields => fields
  | .arr xs => numbered xs
  | .str t => numbered (units t)
  | _ => []

/-- The `length` of an array or a text, which is no entry. -/
def Value.length? : Value → Option Nat
  | .arr xs => some xs.length
  | .str t => some (length t)
  | _ => none

/-- The property of a value that is its own, not its prototype's. -/
def Value.own (value : Value) (name : Text) : Option Value :=
  match value.length? with
  | some n => if name = "length".toList then some (.number (Nat.toDigits 10 n)) else value.entries.lookup name
  | none => value.entries.lookup name

section Assign

variable {α : Type}

/-- A field of an object gets a value; a new one is the last. -/
def put (name : Text) (value : α) : List (Text × α) → List (Text × α)
  | [] => [(name, value)]
  | (key, x) :: fields => if key = name then (key, value) :: fields else (key, x) :: put name value fields

/-- The name under which an object has its prototype. -/
def protoName : Text := "__proto__".toList

/-- `object[name] = value`, of an object made by `{}`: under the name of the prototype no field is made. -/
def assign (fields : List (Text × α)) (name : Text) (value : α) : List (Text × α) :=
  if name = protoName then fields else put name value fields

theorem lookup_cons_eq (key name : Text) (x : α) (fields : List (Text × α)) :
    ((name, x) :: fields).lookup key = if key = name then some x else fields.lookup key := by
  rw [List.lookup_cons]
  by_cases h : key = name
  · rw [if_pos h, beq_iff_eq.2 h]
  · rw [if_neg h, beq_eq_false_iff_ne.2 h]

theorem lookup_put (fields : List (Text × α)) (name key : Text) (value : α) :
    (put name value fields).lookup key = if key = name then some value else fields.lookup key := by
  induction fields with
  | nil => rw [put, lookup_cons_eq]
  | cons p fields ih =>
    obtain ⟨name', x⟩ := p
    rw [put]
    split
    · rename_i hname
      subst hname
      rw [lookup_cons_eq, lookup_cons_eq]
      split <;> rfl
    · rename_i hname
      rw [lookup_cons_eq, lookup_cons_eq, ih]
      by_cases h : key = name'
      · rw [if_pos h, if_neg fun hkey => hname (h.symm.trans hkey), if_pos h]
      · rw [if_neg h, if_neg h]

theorem lookup_assign (fields : List (Text × α)) (name key : Text) (value : α) :
    (assign fields name value).lookup key = if key = name ∧ name ≠ protoName then some value else fields.lookup key := by
  unfold assign
  split
  · rename_i h
    rw [if_neg fun hboth => hboth.2 h]
  · rename_i h
    rw [lookup_put]
    by_cases hkey : key = name
    · rw [if_pos hkey, if_pos ⟨hkey, h⟩]
    · rw [if_neg hkey, if_neg fun hboth => hkey hboth.1]

theorem mem_put {fields : List (Text × α)} {name : Text} {value : α} {p : Text × α} (h : p ∈ put name value fields) :
    p.2 = value ∨ p ∈ fields := by
  induction fields with
  | nil => exact Or.inl (by rw [List.mem_singleton.1 h])
  | cons q fields ih =>
    obtain ⟨key, x⟩ := q
    rw [put] at h
    split at h
    · rcases List.mem_cons.1 h with rfl | hmem
      · exact Or.inl rfl
      · exact Or.inr (List.mem_cons_of_mem _ hmem)
    · rcases List.mem_cons.1 h with rfl | hmem
      · exact Or.inr List.mem_cons_self
      · exact (ih hmem).imp id (List.mem_cons_of_mem _)

theorem mem_assign {fields : List (Text × α)} {name : Text} {value : α} {p : Text × α} (h : p ∈ assign fields name value) :
    p.2 = value ∨ p ∈ fields := by
  unfold assign at h
  split at h
  · exact Or.inr h
  · exact mem_put h

end Assign

end Js
