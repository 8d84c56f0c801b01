import SemanticVersion.Proofs.Version.StrictOrder
import SemanticVersion.Version.Sort

/-!
# Sort keys agree with the orders

There are two implementations of each order.  One compares a pair of versions and stops at the first
difference; the other turns each version into a key on its own, and keys are compared by an order that
knows nothing about versions and is **not even total**.  Both come down to the standing of a version:
the key is the standing written as nested tuples, and in these tuples a number never meets a text.

A version has a key whenever its fields can be read, while a comparison may get by without reading
them.  So what is said here is about the versions that have keys.

* `compareItems?_cons` — tuples are compared lexicographically, one item at a time.
* `Field.compare?_key`, `compareItems?_map_key` — the keys of fields are ordered like the fields.
* `Standing.key`, `Rank.key` — the keys in terms of what matters for the two orders.
* `precedenceKey_eq_ok_iff`, `strictKey_eq_ok_iff` — the versions that have keys.
* `keys_agree_with_orders` — the orders of the keys are the orders of the versions.
-/

namespace SemanticVersion

/-! ## Tuples -/

/-- Items in front of two tuples decide before the rest of the tuples does. -/
lemma compareItems?_cons {x y : SortKey} {xs ys : List SortKey} {first rest : Ordering}
    (head : x.compare? y = some first) (tail : SortKey.compareItems? xs ys = some rest) :
    SortKey.compareItems? (x :: xs) (y :: ys) = some (first.then rest) := by
  rw [SortKey.compareItems?, head]
  cases first with
  | eq => exact tail
  | lt | gt => rfl

/-- The last items decide when all others tie. -/
lemma compareItems?_singleton {x y : SortKey} {last : Ordering} (decided : x.compare? y = some last) :
    SortKey.compareItems? [x] [y] = some last := by
  have nothing : SortKey.compareItems? [] [] = some .eq := rfl
  rw [compareItems?_cons decided nothing, Ordering.then_eq]

lemma compare?_number (m n : Int) : (SortKey.number m).compare? (.number n) = some (compare m n) := by
  rw [SortKey.compare?]

lemma compare?_text (s t : String) : (SortKey.text s).compare? (.text t) = some (compare s t) := by
  rw [SortKey.compare?]

lemma compare?_tuple (xs ys : List SortKey) :
    (SortKey.tuple xs).compare? (.tuple ys) = SortKey.compareItems? xs ys := by
  rw [SortKey.compare?]

/-! ## Fields -/

/-- Keys of fields are ordered like the fields. -/
lemma Field.compare?_key (field field' : Field) :
    field.key.compare? field'.key = some (field.compare field') := by
  -- the places that a field does not use hold zero or the empty text, and there the keys tie
  cases field with
  | numeric m =>
      cases field' with
      | numeric n =>
          have unused := compareItems?_singleton (compare?_text "" "")
          have value := compareItems?_cons (compare?_number m n) unused
          rw [Std.ReflOrd.compare_self, Ordering.then_eq] at value
          exact (compare?_tuple _ _).trans (compareItems?_cons (compare?_number 0 0) value)
      | alphanumeric t => rfl
  | alphanumeric s =>
      cases field' with
      | numeric n => rfl
      | alphanumeric t =>
          have value := compareItems?_singleton (compare?_text s t)
          have unused := compareItems?_cons (compare?_number 0 0) value
          exact (compare?_tuple _ _).trans (compareItems?_cons (compare?_number 1 1) unused)

/-- Keys of lists of fields are ordered like the lists. -/
lemma compareItems?_map_key (fields fields' : List Field) :
    SortKey.compareItems? (fields.map Field.key) (fields'.map Field.key) =
      some (compareFields fields fields') := by
  induction fields generalizing fields' with
  | nil => cases fields' <;> rfl
  | cons field fields ih =>
      cases fields' with
      | nil => rfl
      | cons field' fields' => exact compareItems?_cons (field.compare?_key field') (ih fields')

/-! ## Standings and ranks -/

namespace Standing

/-- The key for the pre-release of a standing. -/
def prereleaseKey (standing : Standing) : SortKey :=
  if standing.stable then .tuple [.number 1]
  else .tuple [.number 0, .tuple (standing.fields.map Field.key)]

/-- The key for a standing. -/
def key (standing : Standing) : SortKey :=
  .tuple [.number standing.major, .number standing.minor, .number standing.patch,
    standing.prereleaseKey]

end Standing

/-- The key for a rank. -/
def Rank.key (rank : Rank) : SortKey :=
  .tuple [rank.standing.key, .text rank.metadata]

namespace Version

variable {a b : Version}

namespace HasStanding

variable {x y : Standing} (h : a.HasStanding x) (h' : b.HasStanding y)
include h h'

/-- The keys of two pre-releases decide by stability first.  Stable versions tie, since they have no
fields. -/
lemma compare?_prereleaseKey : x.prereleaseKey.compare? y.prereleaseKey =
    some ((compare x.stable y.stable).then (compareFields x.fields y.fields)) := by
  have empty : x.stable = x.fields.isEmpty := h.stable.trans h.isStable_eq_isEmpty
  have empty' : y.stable = y.fields.isEmpty := h'.stable.trans h'.isStable_eq_isEmpty
  unfold Standing.prereleaseKey
  cases stable : x.stable with
  | true =>
      cases stable' : y.stable with
      | true =>
          rw [stable, eq_comm, List.isEmpty_iff] at empty
          rw [stable', eq_comm, List.isEmpty_iff] at empty'
          rw [empty, empty']
          rfl
      | false => rfl
  | false =>
      cases stable' : y.stable with
      | true => rfl
      | false =>
          have fields := (compare?_tuple _ _).trans (compareItems?_map_key x.fields y.fields)
          exact (compare?_tuple _ _).trans
            (compareItems?_cons (compare?_number 0 0) (compareItems?_singleton fields))

/-- Keys of standings are ordered like the standings. -/
theorem compare?_key : x.key.compare? y.key = some (x.compare y) := by
  have prerelease := compareItems?_singleton (h.compare?_prereleaseKey h')
  have patch := compareItems?_cons (compare?_number x.patch y.patch) prerelease
  have minor := compareItems?_cons (compare?_number x.minor y.minor) patch
  have major := compareItems?_cons (compare?_number x.major y.major) minor
  exact (compare?_tuple _ _).trans major

end HasStanding

/-- Keys of ranks are ordered like the ranks. -/
theorem HasRank.compare?_key {x y : Rank} (h : a.HasRank x) (h' : b.HasRank y) :
    x.key.compare? y.key = some (x.compare y) := by
  have metadata := compareItems?_singleton (compare?_text x.metadata y.metadata)
  have standing := compareItems?_cons (h.standing.compare?_key h'.standing) metadata
  exact (compare?_tuple _ _).trans standing

/-! ## The versions that have keys -/

lemma HasStanding.prereleaseKey_eq {x : Standing} (h : a.HasStanding x) :
    a.prereleaseKey = .ok x.prereleaseKey := by
  rw [Version.prereleaseKey, Standing.prereleaseKey, h.stable]
  cases a.isStable with
  | true => rfl
  | false =>
      rw [h.fields]
      rfl

/-- Only a version whose fields can be read has a key, a stable version having none to read. -/
lemma exists_fields_of_prereleaseKey {key : SortKey} (computed : a.prereleaseKey = .ok key) :
    ∃ fields, a.prereleaseFields = .ok fields := by
  rw [Version.prereleaseKey] at computed
  split at computed
  · next stable =>
      refine ⟨[], ?_⟩
      rw [Version.prereleaseFields, String.isEmpty_iff.1 stable]
      rfl
  · obtain ⟨fields, read, -⟩ := bind_eq_ok_iff.1 computed
    exact ⟨fields, read⟩

/-- A version has a key for precedence when it has a standing, and the key is that of the standing. -/
theorem precedenceKey_eq_ok_iff {key : SortKey} :
    a.precedenceKey = .ok key ↔ ∃ x, a.HasStanding x ∧ x.key = key := by
  constructor
  · intro computed
    obtain ⟨prerelease, first, rest⟩ := bind_eq_ok_iff.1 computed
    obtain ⟨fields, read⟩ := exists_fields_of_prereleaseKey first
    have has := hasStanding_of_fields read
    obtain rfl := Except.ok.inj (first.symm.trans has.prereleaseKey_eq)
    exact ⟨_, has, Except.ok.inj rest⟩
  · rintro ⟨x, has, rfl⟩
    rw [Version.precedenceKey, has.prereleaseKey_eq, Standing.key, has.major, has.minor, has.patch]
    rfl

/-- A version has a key for the strict order when it has a rank, and the key is that of the rank. -/
theorem strictKey_eq_ok_iff {key : SortKey} :
    a.strictKey = .ok key ↔ ∃ x, a.HasRank x ∧ x.key = key := by
  constructor
  · intro computed
    obtain ⟨first, standing, rest⟩ := bind_eq_ok_iff.1 computed
    obtain ⟨x, has, rfl⟩ := precedenceKey_eq_ok_iff.1 standing
    exact ⟨⟨x, a.metadata⟩, ⟨has, rfl⟩, Except.ok.inj rest⟩
  · rintro ⟨x, has, rfl⟩
    rw [Version.strictKey, precedenceKey_eq_ok_iff.2 ⟨x.standing, has.standing, rfl⟩, Rank.key,
      has.metadata]
    rfl

end Version

/-- **Sort keys agree with the orders.**  Two versions that have keys for precedence, well-formed or
not, compare by precedence, and the outcome is the order of their keys, in which no two kinds meet.
The same holds for the strict order and its keys. -/
theorem keys_agree_with_orders (a b : Version) :
    (∀ key key', a.precedenceKey = .ok key → b.precedenceKey = .ok key' →
      ∃ order, a.precedence b = .ok order ∧ key.compare? key' = some order) ∧
    ∀ key key', a.strictKey = .ok key → b.strictKey = .ok key' →
      ∃ order, a.strictOrder b = .ok order ∧ key.compare? key' = some order := by
  constructor
  · intro key key' computed computed'
    obtain ⟨x, h, rfl⟩ := Version.precedenceKey_eq_ok_iff.1 computed
    obtain ⟨y, h', rfl⟩ := Version.precedenceKey_eq_ok_iff.1 computed'
    exact ⟨_, h.precedence_eq_compare h', h.compare?_key h'⟩
  · intro key key' computed computed'
    obtain ⟨x, h, rfl⟩ := Version.strictKey_eq_ok_iff.1 computed
    obtain ⟨y, h', rfl⟩ := Version.strictKey_eq_ok_iff.1 computed'
    exact ⟨_, h.strictOrder_eq_compare h', h.compare?_key h'⟩

/-- Two versions that are not well-formed: an empty token, which is a text, stands where the other
version has a number. -/
theorem keys_of_empty_token :
    (∃ key key', Version.precedenceKey ⟨1, 0, 0, "rc.01", "b"⟩ = .ok key ∧
      Version.precedenceKey ⟨1, 0, 0, "rc.", "a"⟩ = .ok key' ∧ key.compare? key' = some .lt ∧
      Version.precedence ⟨1, 0, 0, "rc.01", "b"⟩ ⟨1, 0, 0, "rc.", "a"⟩ = .ok .lt) ∧
    ∃ key key', Version.strictKey ⟨1, 0, 0, "rc.01", "b"⟩ = .ok key ∧
      Version.strictKey ⟨1, 0, 0, "rc.", "a"⟩ = .ok key' ∧ key.compare? key' = some .lt ∧
      Version.strictOrder ⟨1, 0, 0, "rc.01", "b"⟩ ⟨1, 0, 0, "rc.", "a"⟩ = .ok .lt := by
  obtain ⟨standing, strict⟩ := keys_agree_with_orders ⟨1, 0, 0, "rc.01", "b"⟩ ⟨1, 0, 0, "rc.", "a"⟩
  constructor
  · obtain ⟨key, computed⟩ : ∃ key, Version.precedenceKey ⟨1, 0, 0, "rc.01", "b"⟩ = .ok key :=
      ⟨_, rfl⟩
    obtain ⟨key', computed'⟩ : ∃ key, Version.precedenceKey ⟨1, 0, 0, "rc.", "a"⟩ = .ok key :=
      ⟨_, rfl⟩
    obtain ⟨order, compared, keys⟩ := standing key key' computed computed'
    obtain rfl : .lt = order := Except.ok.inj compared
    exact ⟨key, key', computed, computed', keys, compared⟩
  · obtain ⟨key, computed⟩ : ∃ key, Version.strictKey ⟨1, 0, 0, "rc.01", "b"⟩ = .ok key := ⟨_, rfl⟩
    obtain ⟨key', computed'⟩ : ∃ key, Version.strictKey ⟨1, 0, 0, "rc.", "a"⟩ = .ok key := ⟨_, rfl⟩
    obtain ⟨order, compared, keys⟩ := strict key key' computed computed'
    obtain rfl : .lt = order := Except.ok.inj compared
    exact ⟨key, key', computed, computed', keys, compared⟩

end SemanticVersion
