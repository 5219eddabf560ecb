/-!
Finite maps from names, listed in ascending order of their code points.

Two maps with the same look-ups are the same map (`NameMap.ext_get?`), so the order of
insertion leaves no trace beyond the last value given to a name.
-/

namespace PromptKit

structure NameMap (α : Type) where
  entries : List (String × α) := []
  sorted : entries.Pairwise (·.1 < ·.1) := by exact List.Pairwise.nil

namespace NameMap

variable {α β : Type}

instance : Inhabited (NameMap α) := ⟨{}⟩

def empty : NameMap α := {}

/-- Adds an entry at its place, taking over the place of an entry of the same name. -/
def place (k : String) (v : α) : List (String × α) → List (String × α)
  | [] => [(k, v)]
  | e :: es =>
    if k < e.1 then (k, v) :: e :: es
    else if k = e.1 then (k, v) :: es
    else e :: place k v es

theorem mem_place {k : String} {v : α} {es : List (String × α)} {e : String × α}
    (h : e ∈ place k v es) : e = (k, v) ∨ e ∈ es := by
  induction es with
  | nil => simpa [place] using h
  | cons a es ih =>
    simp only [place] at h
    split at h
    · simpa using h
    · split at h
      · rcases List.mem_cons.1 h with h | h
        · exact .inl h
        · exact .inr (List.mem_cons_of_mem _ h)
      · rcases List.mem_cons.1 h with h | h
        · exact .inr (h ▸ List.mem_cons_self)
        · exact (ih h).imp_right (List.mem_cons_of_mem _)

theorem sorted_place {k : String} {v : α} {es : List (String × α)}
    (h : es.Pairwise (·.1 < ·.1)) : (place k v es).Pairwise (·.1 < ·.1) := by
  induction es with
  | nil => simp [place]
  | cons a es ih =>
    obtain ⟨ha, hs⟩ := List.pairwise_cons.1 h
    simp only [place]
    split
    · rename_i hlt
      refine List.pairwise_cons.2 ⟨fun e he => ?_, h⟩
      rcases List.mem_cons.1 he with rfl | he
      · exact hlt
      · exact String.lt_trans hlt (ha e he)
    · split
      · rename_i heq
        exact List.pairwise_cons.2 ⟨fun e he => by simpa [heq] using ha e he, hs⟩
      · rename_i h1 h2
        refine List.pairwise_cons.2 ⟨fun e he => ?_, ih hs⟩
        rcases mem_place he with rfl | he
        · exact Std.lt_of_le_of_ne (Std.not_lt.1 h1) (Ne.symm h2)
        · exact ha e he

def insert (m : NameMap α) (k : String) (v : α) : NameMap α :=
  ⟨place k v m.entries, sorted_place m.sorted⟩

def lookup (k : String) : List (String × α) → Option α
  | [] => none
  | e :: es => if k = e.1 then some e.2 else lookup k es

def get? (m : NameMap α) (k : String) : Option α := lookup k m.entries

def contains (m : NameMap α) (k : String) : Bool := (m.get? k).isSome

def keys (m : NameMap α) : List String := m.entries.map (·.1)

def size (m : NameMap α) : Nat := m.entries.length

def isEmpty (m : NameMap α) : Bool := m.entries.isEmpty

/-- The same names, with `f` applied to every value. -/
def map (f : α → β) (m : NameMap α) : NameMap β :=
  ⟨m.entries.map fun e => (e.1, f e.2), by
    simpa [List.pairwise_map] using m.sorted⟩

/-- Later entries take over earlier ones of the same name. -/
def ofList (es : List (String × α)) : NameMap α := es.foldl (fun m e => m.insert e.1 e.2) {}

/-- All entries of both maps; where both have a name, the second decides. -/
def override (m o : NameMap α) : NameMap α := o.entries.foldl (fun m e => m.insert e.1 e.2) m

theorem lookup_place (k k' : String) (v : α) (es : List (String × α)) :
    lookup k' (place k v es) = if k' = k then some v else lookup k' es := by
  induction es with
  | nil => simp [place, lookup]
  | cons a es ih =>
    simp only [place]
    split
    · simp [lookup]
    · split
      · rename_i h
        by_cases hk : k' = k
        · simp [lookup, hk]
        · simp [lookup, hk, ← h]
      · rename_i h
        by_cases hk : k' = k
        · subst hk; simp [lookup, h, ih]
        · simp [lookup, hk, ih]

@[simp] theorem get?_empty (k : String) : (empty : NameMap α).get? k = none := rfl

theorem get?_insert (m : NameMap α) (k k' : String) (v : α) :
    (m.insert k v).get? k' = if k' = k then some v else m.get? k' :=
  lookup_place k k' v m.entries

@[simp] theorem get?_insert_self (m : NameMap α) (k : String) (v : α) :
    (m.insert k v).get? k = some v := by
  simp [get?_insert]

theorem lookup_map (f : α → β) (k : String) (es : List (String × α)) :
    lookup k (es.map fun e => (e.1, f e.2)) = (lookup k es).map f := by
  induction es with
  | nil => rfl
  | cons a es ih => by_cases h : k = a.1 <;> simp [lookup, h, ih]

@[simp] theorem get?_map (f : α → β) (m : NameMap α) (k : String) :
    (m.map f).get? k = (m.get? k).map f :=
  lookup_map f k m.entries

theorem mem_of_lookup {k : String} {v : α} {es : List (String × α)}
    (h : lookup k es = some v) : (k, v) ∈ es := by
  induction es with
  | nil => simp [lookup] at h
  | cons a es ih =>
    by_cases hk : k = a.1
    · simp only [lookup, hk, ite_true, Option.some.injEq] at h
      simp [hk, ← h]
    · exact List.mem_cons_of_mem _ (ih (by simpa [lookup, hk] using h))

theorem mem_keys_of_get? {m : NameMap α} {k : String} {v : α} (h : m.get? k = some v) :
    k ∈ m.keys :=
  List.mem_map.2 ⟨(k, v), mem_of_lookup h, rfl⟩

theorem lookup_of_mem {k : String} {v : α} {es : List (String × α)}
    (hs : es.Pairwise (·.1 < ·.1)) (h : (k, v) ∈ es) : lookup k es = some v := by
  induction es with
  | nil => simp at h
  | cons a es ih =>
    obtain ⟨ha, hs⟩ := List.pairwise_cons.1 hs
    rcases List.mem_cons.1 h with h | h
    · simp [lookup, ← h]
    · have : k ≠ a.1 := fun hk => String.lt_irrefl a.1 (hk ▸ ha _ h)
      simp [lookup, this, ih hs h]

theorem get?_eq_some_iff {m : NameMap α} {k : String} {v : α} :
    m.get? k = some v ↔ (k, v) ∈ m.entries :=
  ⟨mem_of_lookup, lookup_of_mem m.sorted⟩

theorem lookup_eq_none_of_lt {k : String} {es : List (String × α)} (h : ∀ e ∈ es, k < e.1) :
    lookup k es = none := by
  induction es with
  | nil => rfl
  | cons a es ih =>
    have hne : k ≠ a.1 := fun hk => String.lt_irrefl a.1 (hk ▸ h a List.mem_cons_self)
    rw [lookup, if_neg hne]
    exact ih fun e he => h e (List.mem_cons_of_mem _ he)

/-- In a sorted list, the look-up of the first name tells that name from all smaller ones. -/
theorem fst_le_of_lookup {e f : String × α} {es fs : List (String × α)}
    (hf : (f :: fs).Pairwise (·.1 < ·.1)) (h : lookup e.1 (e :: es) = lookup e.1 (f :: fs)) :
    f.1 ≤ e.1 := by
  refine Std.not_lt.1 fun hlt => ?_
  have hnone : lookup e.1 (f :: fs) = none := lookup_eq_none_of_lt fun g hg => by
    rcases List.mem_cons.1 hg with rfl | hg
    · exact hlt
    · exact String.lt_trans hlt ((List.pairwise_cons.1 hf).1 g hg)
  rw [hnone] at h
  simp [lookup] at h

theorem eq_of_lookup {es fs : List (String × α)} (hes : es.Pairwise (·.1 < ·.1))
    (hfs : fs.Pairwise (·.1 < ·.1)) (h : ∀ k, lookup k es = lookup k fs) : es = fs := by
  induction es generalizing fs with
  | nil =>
    cases fs with
    | nil => rfl
    | cons f fs => simpa [lookup] using h f.1
  | cons e es ih =>
    cases fs with
    | nil => simpa [lookup] using h e.1
    | cons f fs =>
      have hname : e.1 = f.1 := Std.le_antisymm
        (fst_le_of_lookup hes (h f.1).symm) (fst_le_of_lookup hfs (h e.1))
      have hvalue : e.2 = f.2 := by simpa [lookup, hname] using h f.1
      have hrest : es = fs := by
        obtain ⟨hes1, hes2⟩ := List.pairwise_cons.1 hes
        obtain ⟨hfs1, hfs2⟩ := List.pairwise_cons.1 hfs
        refine ih hes2 hfs2 fun k => ?_
        by_cases hk : k = e.1
        · rw [lookup_eq_none_of_lt fun g hg => hk ▸ hes1 g hg,
            lookup_eq_none_of_lt fun g hg => (hk.trans hname) ▸ hfs1 g hg]
        · simpa [lookup, hk, ← hname] using h k
      rw [Prod.ext hname hvalue, hrest]

/-- Maps with the same look-ups are the same. -/
theorem ext_get? {m o : NameMap α} (h : ∀ k, m.get? k = o.get? k) : m = o := by
  obtain ⟨es, hes⟩ := m
  obtain ⟨fs, hfs⟩ := o
  obtain rfl : es = fs := eq_of_lookup hes hfs h
  rfl

theorem length_place {k : String} {v : α} {es : List (String × α)} (h : lookup k es = none) :
    (place k v es).length = es.length + 1 := by
  induction es with
  | nil => rfl
  | cons a es ih =>
    have hne : k ≠ a.1 := fun hk => by simp [lookup, hk] at h
    rw [lookup, if_neg hne] at h
    rw [place, if_neg hne]
    split
    · rfl
    · rw [List.length_cons, ih h, List.length_cons]

/-- A new name makes a map larger by one. -/
theorem size_insert {m : NameMap α} {k : String} (h : m.get? k = none) (v : α) :
    (m.insert k v).size = m.size + 1 :=
  length_place h

theorem get?_foldl_insert (es : List (String × α)) (m : NameMap α) (k : String) :
    (es.foldl (fun m e => m.insert e.1 e.2) m).get? k =
      ((es.reverse.find? (·.1 == k)).map (·.2)).or (m.get? k) := by
  induction es generalizing m with
  | nil => simp
  | cons a es ih =>
    rw [List.foldl_cons, ih, get?_insert, List.reverse_cons, List.find?_append]
    cases es.reverse.find? (·.1 == k) with
    | some e => simp
    | none =>
      by_cases h : a.1 = k
      · simp [h]
      · simp [h, Ne.symm h]

theorem get?_ofList (es : List (String × α)) (k : String) :
    (ofList es).get? k = (es.reverse.find? (·.1 == k)).map (·.2) := by
  rw [ofList, get?_foldl_insert]
  exact Option.or_none

/-- An entry of a map that is made from a list is one of the list. -/
theorem mem_of_get?_ofList {es : List (String × α)} {k : String} {v : α}
    (h : (ofList es).get? k = some v) : (k, v) ∈ es := by
  rw [get?_ofList, Option.map_eq_some_iff] at h
  obtain ⟨⟨k', v'⟩, he, rfl⟩ := h
  have hk : k' = k := by simpa using List.find?_some he
  exact List.mem_reverse.1 (hk ▸ List.mem_of_find?_eq_some he)

theorem contains_ofList {es : List (String × α)} {k : String} :
    (ofList es).contains k ↔ k ∈ es.map (·.1) := by
  rw [contains, get?_ofList, Option.isSome_map, List.find?_isSome]
  simp

theorem exists_get?_ofList {es : List (String × α)} (h : es ≠ []) :
    ∃ k v, (ofList es).get? k = some v := by
  obtain ⟨e, he⟩ := List.exists_mem_of_ne_nil es h
  refine ⟨e.1, ?_⟩
  rw [get?_ofList]
  cases hf : es.reverse.find? (·.1 == e.1) with
  | some e' => exact ⟨e'.2, rfl⟩
  | none => simpa using List.find?_eq_none.1 hf e (List.mem_reverse.2 he)

end NameMap

/-- A set of names. -/
abbrev NameSet := NameMap Unit

namespace NameSet

def ofList (names : List String) : NameSet := NameMap.ofList (names.map (·, ()))

/-- Every name of the set and of the list. -/
def addAll (s : NameSet) (names : List String) : NameSet :=
  names.foldl (fun s n => NameMap.insert s n ()) s

theorem contains_addAll {s : NameSet} {names : List String} {name : String} :
    (s.addAll names).contains name ↔ name ∈ names ∨ s.contains name := by
  induction names generalizing s with
  | nil => simp [addAll]
  | cons n names ih =>
    rw [addAll, List.foldl_cons, ← addAll, ih, NameMap.contains, NameMap.get?_insert]
    by_cases hname : name = n
    · simp [hname]
    · simp [hname, NameMap.contains]

end NameSet

end PromptKit
