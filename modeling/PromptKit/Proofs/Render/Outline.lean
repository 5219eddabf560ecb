import Mathlib.Tactic.Common
import PromptKit.Render

/-!
Outlines: what a template renders to, before the values are known.

An outline is a list of parts, each written out or the place of a value. It needs to know which
names have a value and never what the values are; a rendered text is its outline with the values
in their places.
-/

namespace PromptKit

/-- A part of a rendered text: one that is written out, or the place of a value. -/
inductive Chunk (α : Type) where
  | literal (cs : List Char)
  | value (a : α)

namespace Chunk

variable {α : Type}

/-- What a part is written as when `text` gives the values. -/
def spell (text : α → String) : Chunk α → List Char
  | .literal cs => cs
  | .value a => (text a).toList

/-- The text that parts make up. -/
def join (text : α → String) (chunks : List (Chunk α)) : String :=
  String.ofList (chunks.flatMap (spell text))

end Chunk

namespace Render

variable {α : Type}

/-- The part that a segment comes to, where `known` tells the names with a value. -/
def chunkOf (d : Delimiters) (known : String → Option α) : Segment → Chunk α
  | .slot name => (known name).elim (.literal ((Segment.slot name).raw d)) .value
  | s => .literal (s.raw d)

/-- The error of a placeholder without a value, where `known` tells the names with one. -/
def unknown? (known : String → Option α) : Segment → Option RenderError
  | .text _ => none
  | .slot name => if (known name).isSome then none else some (.undefinedPlaceholder name)
  | .fragment name => some (.undefinedFragment name)

/-- The outline of segments. -/
def outline (d : Delimiters) (known : String → Option α) (strictness : Strictness)
    (segments : List Segment) : Except RenderError (List (Chunk α)) :=
  match strictness, segments.findSome? (unknown? known) with
  | .strict, some e => .error e
  | _, _ => .ok (segments.map (chunkOf d known))

/-- The outline of a template, with its fragments in place. -/
def outlineOf (r : Resolver) (known : String → Option α) (strictness : Strictness)
    (template : String) : Except RenderError (List (Chunk α)) := do
  let text ← (r.resolve template).result.mapError .resolution
  outline r.delimiters known strictness (r.scan text)

variable {d : Delimiters} {known : String → Option α} {strictness : Strictness}

lemma exists_known_of_chunkOf {s : Segment} {a : α} (h : chunkOf d known s = .value a) :
    ∃ name, known name = some a := by
  cases s with
  | text cs => simp [chunkOf] at h
  | fragment name => simp [chunkOf] at h
  | slot name =>
    rcases hk : known name with _ | b
    · simp [chunkOf, hk] at h
    · obtain rfl : b = a := by simpa [chunkOf, hk] using h
      exact ⟨name, hk⟩

lemma eq_map_of_outline {segments : List Segment} {chunks : List (Chunk α)}
    (h : outline d known strictness segments = .ok chunks) :
    chunks = segments.map (chunkOf d known) := by
  unfold outline at h
  split at h
  · cases h
  · exact (Except.ok.inj h).symm

/-- The places of an outline are for values that are known. -/
lemma exists_known_of_mem {r : Resolver} {template : String} {chunks : List (Chunk α)} {a : α}
    (h : outlineOf r known strictness template = .ok chunks) (ha : .value a ∈ chunks) :
    ∃ name, known name = some a := by
  unfold outlineOf at h
  rcases hr : (r.resolve template).result.mapError RenderError.resolution with e | text
  · rw [hr] at h
    cases h
  · rw [hr] at h
    obtain rfl := eq_map_of_outline h
    obtain ⟨s, -, hs⟩ := List.mem_map.mp ha
    exact exists_known_of_chunkOf hs

/-! ### Values in their places -/

variable {text : α → String} {values : NameMap String}

lemma filled_eq (h : ∀ n, values.get? n = (known n).map text) (s : Segment) :
    filled d values s = (chunkOf d known s).spell text := by
  cases s with
  | text cs => rfl
  | fragment name => rfl
  | slot name => rcases hk : known name with _ | a <;> simp [filled, chunkOf, h, hk, Chunk.spell]

lemma undefined?_eq (h : ∀ n, values.get? n = (known n).map text) (s : Segment) :
    undefined? values s = unknown? known s := by
  cases s with
  | text cs => rfl
  | fragment name => rfl
  | slot name => simp [undefined?, unknown?, NameMap.contains, h]

/-- Values are put into segments by way of the outline. -/
lemma result_substitute (h : ∀ n, values.get? n = (known n).map text) (segments : List Segment) :
    (substitute d values strictness segments).result =
      (outline d known strictness segments).map (Chunk.join text) := by
  have hundefined : undefined? values = unknown? known := funext (undefined?_eq h)
  have hfilled : filled d values = fun s => (chunkOf d known s).spell text := funext (filled_eq h)
  have hspell : (segments.map (chunkOf d known)).flatMap (Chunk.spell text) =
      segments.flatMap (filled d values) := by rw [List.flatMap_map, hfilled]
  unfold substitute outline
  rw [hundefined]
  cases strictness with
  | lenient => simp only [Except.map, Chunk.join, hspell]; rfl
  | strict =>
    rcases segments.findSome? (unknown? known) with _ | e
    · simp only [Except.map, Chunk.join, hspell]
      rfl
    · rfl

/-- A template is filled by way of its outline. -/
lemma result_fill (h : ∀ n, values.get? n = (known n).map text) (r : Resolver)
    (template : String) :
    (fill r strictness values template).result =
      (outlineOf r known strictness template).map (Chunk.join text) := by
  simp only [fill, outlineOf, Traced.result_bind]
  rcases (r.resolve template).result.mapError RenderError.resolution with e | resolved
  · rfl
  · exact result_substitute h (r.scan resolved)

end Render

end PromptKit
