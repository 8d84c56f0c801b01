import SemanticVersion.Version.Parse

/-!
# Two orders of versions

**Precedence** is the order with a meaning: the numbers decide, a pre-release comes before the
stable version of the same numbers, and two pre-releases are compared field by field.  Metadata has
no part in it, so different versions can have equal precedence.

**The strict order** breaks those ties by the text of the metadata.  It serves to list versions in a
fixed order and says nothing about compatibility.

* `Version.precedence`, `Version.strictOrder` — the two orders.
* `Version.lt`, `Version.le`, `Version.gt`, `Version.ge` — the relations of the strict order.

Both orders fail when a field is too long to be read, and fields are read only when the numbers are
equal and neither version is stable.
-/

namespace SemanticVersion

namespace Version

/-! ## Precedence -/

/-- The order of the three numbers, the first difference deciding. -/
def compareNumbers (a b : Version) : Ordering :=
  (compare a.major b.major).then ((compare a.minor b.minor).then (compare a.patch b.patch))

/-- The order by precedence. -/
def precedence (a b : Version) : Except DigitLimit Ordering :=
  match a.compareNumbers b with
  | .eq =>
    if a.isStable || b.isStable then return compare a.isStable b.isStable
    else do
      let first ← a.prereleaseFields
      let second ← b.prereleaseFields
      return compareFields first second
  | decided => return decided

/-! ## The strict order -/

/-- The order by precedence, and by the metadata text among versions of equal precedence. -/
def strictOrder (a b : Version) : Except DigitLimit Ordering := do
  return (← a.precedence b).then (compare a.metadata b.metadata)

/-- Whether the first version comes before the second. -/
def lt (a b : Version) : Except DigitLimit Bool := do
  return (← a.strictOrder b) == .lt

/-- Whether the first version comes before the second or is the same. -/
def le (a b : Version) : Except DigitLimit Bool := do
  return (← a.lt b) || a == b

/-- Whether the first version neither comes before the second nor is the same. -/
def gt (a b : Version) : Except DigitLimit Bool := do
  return !(← a.lt b) && a != b

/-- Whether the first version does not come before the second. -/
def ge (a b : Version) : Except DigitLimit Bool := do
  return !(← a.lt b)

end Version

end SemanticVersion
