import SqlConsole.Number.Order
import SqlConsole.Keyed

/-!
# Values

A cell of a table, a literal of a statement and a document of the interchange format are all values.
-/

namespace SqlConsole

/-- A value. The entries of a mapping are in order, each key once. -/
inductive Value where
  | null
  | bool (b : Bool)
  | integer (n : Int)
  | real (x : Binary64)
  | text (t : Text)
  | list (items : List Value)
  | mapping (entries : List (Text × Value))

instance : Inhabited Value := ⟨.null⟩

inductive ColumnType where
  | integer
  | numeric
  | text
  | null
  deriving DecidableEq, Repr

def ColumnType.name : ColumnType → Text
  | integer => "integer"
  | numeric => "numeric"
  | text => "text"
  | null => "null"

namespace Value

/-- The type of a value. A real number without fractional part is an integer; truth values and
compound values are text. -/
def type : Value → ColumnType
  | null => .null
  | integer _ => .integer
  | real x => if x.isIntegral then .integer else .numeric
  | _ => .text

def isNull : Value → Bool
  | null => true
  | _ => false

/-- The number that a value is. A truth value is none. -/
def number? : Value → Option Number
  | integer n => some (.integer n)
  | real x => some (.real x)
  | _ => none

def text? : Value → Option Text
  | text t => some t
  | _ => none

def entries? : Value → Option (List (Text × Value))
  | mapping entries => some entries
  | _ => none

/-- Whether a value is a single one, neither a list nor a mapping. -/
def isScalar : Value → Bool
  | list _ => false
  | mapping _ => false
  | _ => true

/-- Whether a value counts as given: nothing missing, false, zero or empty does. -/
def isGiven : Value → Bool
  | null => false
  | bool b => b
  | integer n => n != 0
  | real (.finite _ m _) => m != 0
  | real _ => true
  | text t => !t.isEmpty
  | list items => !items.isEmpty
  | mapping entries => !entries.isEmpty

/-- The number that a value counts as among equal values: a truth value counts as one or zero. -/
def quantity? : Value → Option Number
  | bool b => some (.integer (if b then 1 else 0))
  | v => v.number?

/-- Whether two values are one object although they do not equal themselves. -/
def isOne : Value → Value → Bool
  | real (.nan a), real (.nan b) => a == b
  | _, _ => false

mutual

/-- Whether two values are equal. Numbers are equal when their values are, and mappings when they
have the same entries in any order. -/
def same : Value → Value → Bool
  | null, null => true
  | text s, text t => s == t
  | list xs, list ys => sameItems xs ys
  | mapping es, mapping fs => es.length == fs.length && sameEntries es fs
  | v, w =>
    match v.quantity?, w.quantity? with
    | some a, some b => a.same b
    | _, _ => false
termination_by structural v => v

def sameItems : List Value → List Value → Bool
  | [], [] => true
  | x :: xs, y :: ys => (same x y || x.isOne y) && sameItems xs ys
  | _, _ => false
termination_by structural xs => xs

def sameEntries : List (Text × Value) → List (Text × Value) → Bool
  | [], _ => true
  | (key, x) :: es, fs =>
    (match Keyed.get? fs key with
      | some y => same x y || x.isOne y
      | none => false) && sameEntries es fs
termination_by structural es => es

end

/-- Whether a collection takes two values for the same. -/
def alike (v w : Value) : Bool := v.same w || v.isOne w

/-! ### Identical values -/

mutual

/-- Whether two values are the same in every detail: their kinds, the order of their entries and
the signs of their zeros. -/
def identical : Value → Value → Bool
  | null, null => true
  | bool a, bool b => a == b
  | integer m, integer n => m == n
  | real x, real y => x == y
  | text s, text t => s == t
  | list xs, list ys => identicalItems xs ys
  | mapping es, mapping fs => identicalEntries es fs
  | _, _ => false
termination_by structural v => v

def identicalItems : List Value → List Value → Bool
  | [], [] => true
  | x :: xs, y :: ys => identical x y && identicalItems xs ys
  | _, _ => false
termination_by structural xs => xs

def identicalEntries : List (Text × Value) → List (Text × Value) → Bool
  | [], [] => true
  | (k, x) :: es, (l, y) :: fs => k == l && identical x y && identicalEntries es fs
  | _, _ => false
termination_by structural es => es

end

mutual

theorem identical_self (v : Value) : identical v v = true := by
  match v with
  | null | bool _ | integer _ | real _ | text _ => simp [identical]
  | list xs => simpa [identical] using identicalItems_self xs
  | mapping es => simpa [identical] using identicalEntries_self es

theorem identicalItems_self (xs : List Value) : identicalItems xs xs = true := by
  match xs with
  | [] => simp [identicalItems]
  | x :: xs => simp [identicalItems, identical_self x, identicalItems_self xs]

theorem identicalEntries_self (es : List (Text × Value)) : identicalEntries es es = true := by
  match es with
  | [] => simp [identicalEntries]
  | (_, x) :: es => simp [identicalEntries, identical_self x, identicalEntries_self es]

end

mutual

theorem eq_of_identical (v w : Value) (h : identical v w = true) : v = w := by
  match v, w with
  | list xs, list ys => rw [eq_of_identicalItems xs ys (by simpa [identical] using h)]
  | mapping es, mapping fs => rw [eq_of_identicalEntries es fs (by simpa [identical] using h)]
  | null, w | bool _, w | integer _, w | real _, w | text _, w =>
    cases w <;> simp_all [identical]
  | list _, null | list _, bool _ | list _, integer _ | list _, real _ | list _, text _
  | list _, mapping _ => simp [identical] at h
  | mapping _, null | mapping _, bool _ | mapping _, integer _ | mapping _, real _
  | mapping _, text _ | mapping _, list _ => simp [identical] at h

theorem eq_of_identicalItems (xs ys : List Value) (h : identicalItems xs ys = true) : xs = ys := by
  match xs, ys with
  | [], [] => rfl
  | x :: xs, y :: ys =>
    simp only [identicalItems, Bool.and_eq_true] at h
    rw [eq_of_identical x y h.1, eq_of_identicalItems xs ys h.2]
  | [], _ :: _ | _ :: _, [] => simp [identicalItems] at h

theorem eq_of_identicalEntries (es fs : List (Text × Value)) (h : identicalEntries es fs = true) :
    es = fs := by
  match es, fs with
  | [], [] => rfl
  | (k, x) :: es, (l, y) :: fs =>
    simp only [identicalEntries, Bool.and_eq_true, beq_iff_eq] at h
    rw [h.1.1, eq_of_identical x y h.1.2, eq_of_identicalEntries es fs h.2]
  | [], _ :: _ | _ :: _, [] => simp [identicalEntries] at h

end

instance : DecidableEq Value := fun v w =>
  decidable_of_iff (identical v w = true)
    ⟨eq_of_identical v w, fun h => h ▸ identical_self v⟩

end Value

end SqlConsole
