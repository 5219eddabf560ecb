import Mathlib.Data.Finset.Card
import Mathlib.Data.Finset.Dedup
import Mathlib.Data.List.Induction
import PromptKit.Toolbox

/-!
Handlers registered one after the other.

A call finds a registry and leaves one behind. It changes the registry only if its name is free,
so that a name stands for the handler of the first call with it, whatever later calls bring.
-/

namespace PromptKit

/-- What a call brings: a handler and the name for it. -/
structure Registration (m : Type → Type) where
  name : String
  handler : Handler m

namespace Registration

variable {m : Type → Type}

/-- The first call with a name. -/
def first? (calls : List (Registration m)) (n : String) : Option (Registration m) :=
  calls.find? (·.name == n)

lemma first?_eq_none {calls : List (Registration m)} {n : String} :
    first? calls n = none ↔ n ∉ calls.map (·.name) := by
  simp [first?]

lemma mem_of_first? {calls : List (Registration m)} {n : String} {c : Registration m}
    (h : first? calls n = some c) : n ∈ calls.map (·.name) := by
  by_contra hn
  simp [first?_eq_none.mpr hn] at h

/-- A later call counts where no earlier one has its name. -/
lemma first?_snoc (calls : List (Registration m)) (c : Registration m) (n : String) :
    first? (calls ++ [c]) n = (first? calls n).or (if n = c.name then some c else none) := by
  rw [first?, List.find?_append, first?]
  by_cases h : n = c.name
  · simp [h]
  · simp [h, Ne.symm h]

end Registration

namespace Registry

open Registration

variable {m : Type → Type} {r : Registry m} {calls : List (Registration m)} {c : Registration m}

/-- How a call ends, and the registry that it leaves. -/
def afterCall (r : Registry m) (c : Registration m) : Except ToolError Unit × Registry m :=
  match r.register c.name c.handler with
  | .ok r' => (.ok (), r')
  | .error e => (.error e, r)

/-- The registry that calls on an empty one leave. -/
def registered (calls : List (Registration m)) : Registry m :=
  calls.foldl (fun r c => (r.afterCall c).2) .empty

lemma registered_snoc (calls : List (Registration m)) (c : Registration m) :
    registered (calls ++ [c]) = ((registered calls).afterCall c).2 := by
  simp [registered]

/-! ### One call -/

lemma afterCall_of_contains (h : r.contains c.name) :
    r.afterCall c = (.error (.duplicateHandler c.name), r) := by
  have hregister : r.register c.name c.handler = .error (.duplicateHandler c.name) := if_pos h
  rw [afterCall, hregister]

lemma afterCall_of_not_contains (h : ¬ r.contains c.name) :
    r.afterCall c = (.ok (), r.insert c.name c.handler) := by
  have hregister : r.register c.name c.handler = .ok (r.insert c.name c.handler) := if_neg h
  rw [afterCall, hregister]

/-- **A call fails exactly where its name is taken.** -/
lemma afterCall_eq_error {e : ToolError} :
    (r.afterCall c).1 = .error e ↔ r.contains c.name ∧ e = .duplicateHandler c.name := by
  by_cases h : r.contains c.name
  · simp [afterCall_of_contains h, h, eq_comm]
  · simp [afterCall_of_not_contains h, h]

/-- A call that fails leaves the registry that it found. -/
lemma snd_afterCall_of_error {e : ToolError} (h : (r.afterCall c).1 = .error e) :
    (r.afterCall c).2 = r := by
  rw [afterCall_of_contains (afterCall_eq_error.mp h).1]

/-- A name that is taken keeps its handler, and a free one gets that of the call. -/
lemma get?_afterCall (r : Registry m) (c : Registration m) (n : String) :
    (r.afterCall c).2.get? n =
      (r.get? n).or ((if n = c.name then some c else none).map (·.handler)) := by
  by_cases h : r.contains c.name
  · obtain ⟨handler, hget⟩ := Option.isSome_iff_exists.mp h
    rw [afterCall_of_contains h]
    by_cases hn : n = c.name
    · simp [hn, hget]
    · simp [hn]
  · have hget : r.get? c.name = none := by simpa [NameMap.contains] using h
    rw [afterCall_of_not_contains h, NameMap.get?_insert]
    by_cases hn : n = c.name
    · simp [hn, hget]
    · simp [hn]

/-! ### All calls -/

/-- **The first call with a name decides.** -/
theorem get?_registered (calls : List (Registration m)) (n : String) :
    (registered calls).get? n = (first? calls n).map (·.handler) := by
  induction calls using List.reverseRecOn with
  | nil => rfl
  | append_singleton calls c ih => rw [registered_snoc, get?_afterCall, ih, first?_snoc, Option.map_or]

lemma contains_registered {n : String} :
    (registered calls).contains n ↔ n ∈ calls.map (·.name) := by
  rw [NameMap.contains, get?_registered, Option.isSome_map, Option.isSome_iff_ne_none, ne_eq,
    first?_eq_none, not_not]

/-- A registry has one handler for each name that was called. -/
lemma size_registered (calls : List (Registration m)) :
    (registered calls).size = (calls.map (·.name)).toFinset.card := by
  induction calls using List.reverseRecOn with
  | nil => rfl
  | append_singleton calls c ih =>
    have hnames : ((calls ++ [c]).map (·.name)).toFinset =
        insert c.name (calls.map (·.name)).toFinset := by
      rw [List.map_append, List.toFinset_append, Finset.union_comm]
      rfl
    rw [registered_snoc, hnames]
    by_cases h : (registered calls).contains c.name
    · have hmem : c.name ∈ (calls.map (·.name)).toFinset :=
        List.mem_toFinset.mpr (contains_registered.mp h)
      rw [afterCall_of_contains h, Finset.insert_eq_of_mem hmem, ih]
    · have hmem : c.name ∉ (calls.map (·.name)).toFinset := fun hmem =>
        h (contains_registered.mpr (List.mem_toFinset.mp hmem))
      have hget : (registered calls).get? c.name = none := by simpa [NameMap.contains] using h
      rw [afterCall_of_not_contains h, NameMap.size_insert hget, Finset.card_insert_of_notMem hmem,
        ih]

/-- What calls on an empty registry come to. -/
structure FirstWins (calls : List (Registration m)) : Prop where
  /-- The next call fails if its name was registered before, and only then. -/
  error_iff : ∀ c e, ((registered calls).afterCall c).1 = .error e ↔
    c.name ∈ calls.map (·.name) ∧ e = .duplicateHandler c.name
  unchanged : ∀ c e, ((registered calls).afterCall c).1 = .error e →
    ((registered calls).afterCall c).2 = registered calls
  get?_eq : ∀ n, (registered calls).get? n = (first? calls n).map (·.handler)
  contains_iff : ∀ n, (registered calls).contains n ↔ n ∈ calls.map (·.name)
  size_eq : (registered calls).size = (calls.map (·.name)).toFinset.card

/-- **The first call with a name wins.** -/
theorem firstWins (calls : List (Registration m)) : FirstWins calls where
  error_iff c e := by rw [afterCall_eq_error, contains_registered]
  unchanged _ _ := snd_afterCall_of_error
  get?_eq := get?_registered calls
  contains_iff _ := contains_registered
  size_eq := size_registered calls

end Registry

end PromptKit
