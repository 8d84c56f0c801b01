import SemanticVersion.Version.Precedence

/-!
# Comparing values of any kind

Callers may compare anything, and most pairs of values have no order.  Integers are ordered by
value, and a truth value counts as 0 or 1; texts and byte strings are ordered by their first
difference, versions by the strict order, and lists, like tuples, by their first items that are not
equal.  A floating-point number is no more than its text here, so it has no order, and neither has a
foreign value.  **Equality never fails**, since values of different kinds are just not equal.

* `Value.same` — whether two values are equal.
* `distinctValues` — a list without the values that are equal to an earlier one.
* `Relation`, `Value.relate` — the four relations `<`, `<=`, `>` and `>=`.
* `Value.compareAsFields` — the order of fields, for values that should be fields.
* `Value.resolved`, `Value.asVersion` — a version text counts as its version, and nothing else does.
* `Value.order` — the order of two values that should be versions or version texts.

**Which failure comes first.**  All texts are read before any value is asked for something that only
versions have.  So a malformed text is reported even when a value in front of it is no version.
-/

namespace SemanticVersion

/-! ## Equality -/

namespace Value

/-- The integer that a value counts as. -/
def integer? : Value → Option Int
  | .bool value => some (if value then 1 else 0)
  | .int value => some value
  | _ => none

mutual

/-- Whether two values are equal.  The entries of a table may stand in any order. -/
def same : Value → Value → Bool
  | .nothing, .nothing => true
  | .text a, .text b => a == b
  | .float a, .float b => a == b && a != "nan"
  | .bytes a, .bytes b => a == b
  | .list xs, .list ys => sameItems xs ys
  | .tuple xs, .tuple ys => sameItems xs ys
  | .table xs, .table ys => xs.length == ys.length && sameEntries xs ys
  | .version a, .version b => a == b
  | .field a, .field b => a == b
  | .identifier a, .identifier b => a == b
  | .foreign a, .foreign b => a == b
  | a, b => a.integer?.isSome && a.integer? == b.integer?

/-- Whether two lists hold equal values. -/
def sameItems : List Value → List Value → Bool
  | [], [] => true
  | x :: xs, y :: ys => x.same y && sameItems xs ys
  | _, _ => false

/-- Whether each entry of a table has an equal one under its key. -/
def sameEntries : List (String × Value) → List (String × Value) → Bool
  | [], _ => true
  | (key, value) :: rest, entries =>
    (match entries.lookup key with
      | some other => value.same other
      | none => false) && sameEntries rest entries

end

end Value

/-- The values that are not equal to an earlier one, in order.  `seen` holds the earlier ones. -/
def distinctFrom (seen : List Value) : List Value → List Value
  | [] => []
  | value :: rest =>
    if seen.any value.same then distinctFrom seen rest
    else value :: distinctFrom (value :: seen) rest

/-- The values of a list without repetitions, in the order in which they first occur. -/
def distinctValues (values : List Value) : List Value :=
  distinctFrom [] values

/-! ## Relations -/

/-- The four relations of an order. -/
inductive Relation where
  | lt
  | le
  | gt
  | ge
deriving DecidableEq, Repr

namespace Relation

/-- The sign of a relation. -/
def symbol : Relation → String
  | .lt => "<"
  | .le => "<="
  | .gt => ">"
  | .ge => ">="

/-- Whether a relation holds of two things that are ordered this way. -/
def admits : Relation → Ordering → Bool
  | .lt => Ordering.isLT
  | .le => Ordering.isLE
  | .gt => Ordering.isGT
  | .ge => Ordering.isGE

/-- Whether two versions are related. -/
def holds : Relation → Version → Version → Except DigitLimit Bool
  | .lt => Version.lt
  | .le => Version.le
  | .gt => Version.gt
  | .ge => Version.ge

end Relation

namespace Value

mutual

/-- Whether two values are related.  Values that have no order are reported by their kinds. -/
def relate (relation : Relation) : Value → Value → Except Error Bool
  | .text a, .text b => .ok (relation.admits (compare a b))
  | .bytes a, .bytes b => .ok (relation.admits (compare a b))
  | .list xs, .list ys => relateItems relation xs ys
  | .tuple xs, .tuple ys => relateItems relation xs ys
  | .version a, .version b => liftM (relation.holds a b)
  | a, b =>
    match a.integer?, b.integer? with
    | some m, some n => .ok (relation.admits (compare m n))
    | _, _ => .error (.notOrdered relation.symbol a.fullKind b.fullKind)

/-- Whether two lists are related.  The first two items that are not equal decide, and the lengths
when one list continues the other. -/
def relateItems (relation : Relation) : List Value → List Value → Except Error Bool
  | x :: xs, y :: ys => if x.same y then relateItems relation xs ys else relate relation x y
  | [], ys => .ok (relation.admits (compare 0 ys.length))
  | _ :: _, [] => .ok (relation.admits .gt)

end

/-- The order of two values as fields.  Only fields have one. -/
def compareAsFields : Value → Value → Except Error Ordering
  | .field a, .field b => .ok (a.compare b)
  | a, b => do throw (.notFields (← a.literal) (← b.literal))

/-! ## Values that stand for versions -/

/-- A value in which a version text counts as its version.  Anything else stays what it is. -/
def resolved : Value → Except Error Value
  | .text content => do return .version (← Version.parse content)
  | value => .ok value

/-- The version that a value is.  Anything else lacks the feature that is first asked of it. -/
def asVersion (feature : String) : Value → Except Error Version
  | .version value => .ok value
  | value => .error (.lacks value.fullKind feature)

/-- A version stands for itself. -/
@[simp] theorem resolved_version (value : Version) : (version value).resolved = .ok (.version value) :=
  rfl

/-- A version is a version. -/
@[simp] theorem asVersion_version (feature : String) (value : Version) :
    (version value).asVersion feature = .ok value := rfl

/-- Nothing changes in a list of versions. -/
theorem mapM_resolved_version (versions : List Version) :
    (versions.map version).mapM resolved = .ok (versions.map version) := by
  induction versions with
  | nil => rfl
  | cons head rest ih =>
    simp only [List.map_cons, List.mapM_cons, resolved_version, ih]
    rfl

/-- The order of two values that are versions or stand for them. -/
def order (strict : Bool) (a b : Value) : Except Error Ordering := do
  let a ← a.resolved
  let b ← b.resolved
  let first ← a.asVersion "major"
  let second ← b.asVersion "major"
  if strict then first.strictOrder second else first.precedence second

end Value

end SemanticVersion
