/-!
# Where a text stops being viable

A rejected text is reported together with the place where it goes wrong.  The place is found by
asking only whether prefixes of the text are viable, by halving the window of lengths that are still
in question.  The search works for any predicate; for one that holds of all prefixes of a text it
holds of, it finds the longest viable prefix.

* `Search` — what a search found, and the lengths it asked about.
* `searchFrom` — the search in a window of lengths.
* `divergence` — the search over the prefixes of a text.
-/

namespace SemanticVersion

/-- The outcome of a search. -/
structure Search where
  /-- The last length that was asked about and answered yes, and zero when there was none. -/
  found : Nat
  /-- The lengths that were asked about, in order. -/
  probes : List Nat
deriving DecidableEq, Repr

/-- Notes a probe that was made before the rest of the search. -/
def Search.after (probe : Nat) (search : Search) : Search :=
  { search with probes := probe :: search.probes }

/-- Halves the window of the lengths from `low` to below `stop` until it is empty.  `found` is the
last length that was viable so far. -/
def searchFrom (viable : Nat → Bool) (found low stop : Nat) : Search :=
  if low < stop then
    let middle := (low + stop - 1) / 2
    if viable middle then (searchFrom viable middle (middle + 1) stop).after middle
    else (searchFrom viable found low middle).after middle
  else ⟨found, []⟩
termination_by stop - low

/-- The first characters of a text. -/
def leadingText (text : String) (length : Nat) : String :=
  String.ofList (text.toList.take length)

/-- Searches the prefixes of a text, from the empty one to the whole text. -/
def divergence (text : String) (viable : String → Bool) : Search :=
  searchFrom (fun length => viable (leadingText text length)) 0 0 (text.length + 1)

end SemanticVersion
