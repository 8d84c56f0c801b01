/-!
# Sort keys

A sort key is a number, a text, or a tuple of keys.  Tuples are compared from left to right; the
first difference decides, and of two tuples of which one continues the other the longer one is
greater.  A number and a text, or a tuple and something else, **have no order at all**, so comparing
keys can fail, and a way of building keys has to make sure that it never puts different kinds in the
same place.

* `SortKey` — the type.
* `SortKey.compare?` — the order of two keys.
-/

namespace SemanticVersion

/-- A key to sort by. -/
inductive SortKey where
  | number (value : Int)
  | text (value : String)
  | tuple (items : List SortKey)
deriving Repr

namespace SortKey

mutual

/-- The order of two keys, unless two different kinds meet. -/
def compare? : SortKey → SortKey → Option Ordering
  | .number m, .number n => some (compare m n)
  | .text s, .text t => some (compare s t)
  | .tuple xs, .tuple ys => compareItems? xs ys
  | _, _ => none

/-- The order of the items of two tuples.  What follows the first difference is not looked at. -/
def compareItems? : List SortKey → List SortKey → Option Ordering
  | [], [] => some .eq
  | [], _ :: _ => some .lt
  | _ :: _, [] => some .gt
  | x :: xs, y :: ys =>
    match compare? x y with
    | some .eq => compareItems? xs ys
    | decided => decided

end

/-- Whether the first key may stand in front of the second. -/
def precedes (a b : SortKey) : Bool :=
  a.compare? b != some .gt

end SortKey

end SemanticVersion
