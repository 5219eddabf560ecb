import Mathlib.Data.List.Chain
import PromptKit.Proofs.Text.Occurrence
import PromptKit.Template

/-!
The grammar of templates, and that the scan reads it.

A placeholder starts where an opening mark is followed, up to the first closing mark after it,
by a symbol or by `fragment:` and a symbol. A list of segments scans a template when it spells
the template, its placeholders are placeholders of the grammar, and no placeholder starts
inside one of its texts. `scan` gives such a list, and there is no other.
-/

namespace PromptKit

namespace Segment

def isText : Segment → Bool
  | .text _ => true
  | _ => false

/-- A placeholder that has a symbol for its name. -/
def IsPlaceholder : Segment → Prop
  | .text _ => False
  | .slot name => Name.isSymbol name.toList
  | .fragment name => Name.isSymbol name.toList

lemma not_mem_of_isSymbol {cs : List Char} (h : Name.isSymbol cs) : ':' ∉ cs := by
  intro hm
  cases cs with
  | nil => simp at hm
  | cons c cs =>
    simp only [Name.isSymbol, Bool.and_eq_true, List.all_eq_true] at h
    rcases List.mem_cons.mp hm with rfl | hm
    · exact absurd h.1 (by decide)
    · exact absurd (h.2 _ hm) (by decide)

/-- No symbol starts with the word that introduces a fragment. -/
lemma after?_fragmentMark_of_isSymbol {cs : List Char} (h : Name.isSymbol cs) :
    Text.after? fragmentMark cs = none := by
  rw [Text.after?_eq_none]
  rintro ⟨r, rfl⟩
  exact not_mem_of_isSymbol h (List.mem_append_left _ (by decide))

lemma ofInner?_eq_some {cs : List Char} {s : Segment} :
    ofInner? cs = some s ↔ s.IsPlaceholder ∧ s.inner = cs := by
  constructor
  · intro h
    unfold ofInner? at h
    split at h
    · rename_i name hname
      obtain ⟨hs, h⟩ := Option.ite_none_right_eq_some.mp h
      obtain rfl := Option.some.inj h
      exact ⟨by simpa [IsPlaceholder] using hs, by simp [inner, Text.after?_eq_some.mp hname]⟩
    · obtain ⟨hs, h⟩ := Option.ite_none_right_eq_some.mp h
      obtain rfl := Option.some.inj h
      exact ⟨by simpa [IsPlaceholder] using hs, by simp [inner]⟩
  · rintro ⟨hs, rfl⟩
    cases s with
    | text cs => exact absurd hs id
    | slot name =>
      have hs : Name.isSymbol name.toList := hs
      simp [ofInner?, inner, after?_fragmentMark_of_isSymbol hs, hs]
    | fragment name =>
      have hs : Name.isSymbol name.toList := hs
      simp [ofInner?, inner, hs]

lemma raw_of_isPlaceholder {d : Delimiters} {s : Segment} (h : s.IsPlaceholder) :
    s.raw d = d.left ++ s.inner ++ d.right := by
  cases s with
  | text cs => exact absurd h id
  | slot name => rfl
  | fragment name => rfl

lemma not_isText_of_isPlaceholder {s : Segment} (h : s.IsPlaceholder) : ¬ s.isText := by
  cases s with
  | text cs => exact absurd h id
  | slot name => simp [isText]
  | fragment name => simp [isText]

lemma raw_ne_nil_of_isPlaceholder {d : Delimiters} {s : Segment} (h : s.IsPlaceholder) :
    s.raw d ≠ [] := by
  simp [raw_of_isPlaceholder h, d.left_ne_nil]

end Segment

namespace Template

/-- A text starts with the placeholder `s`: the opening mark, what `s` holds, and the closing
mark, which is the first one after the opening mark. -/
structure StartsWith (d : Delimiters) (s : Segment) (cs rest : List Char) : Prop where
  isPlaceholder : s.IsPlaceholder
  eq : cs = d.left ++ s.inner ++ d.right ++ rest
  first : ∀ k < s.inner.length, ¬ d.right <+: (s.inner ++ d.right ++ rest).drop k

variable {d : Delimiters}

lemma StartsWith.eq_raw_append {s : Segment} {cs rest : List Char}
    (h : StartsWith d s cs rest) : cs = s.raw d ++ rest := by
  rw [h.eq, Segment.raw_of_isPlaceholder h.isPlaceholder]

lemma placeholder?_eq_some {s : Segment} {cs rest : List Char} :
    placeholder? d cs = some (s, rest) ↔ StartsWith d s cs rest := by
  simp only [placeholder?, Option.bind_eq_bind, Option.bind_eq_some_iff, Option.pure_def,
    Option.some.injEq, Prod.mk.injEq, Prod.exists, Text.after?_eq_some, Text.cut?_eq_some,
    Segment.ofInner?_eq_some]
  constructor
  · rintro ⟨a, rfl, i, q, ⟨rfl, hfirst⟩, t, ⟨ht, rfl⟩, rfl, rfl⟩
    exact ⟨ht, by simp, hfirst⟩
  · rintro ⟨hs, rfl, hfirst⟩
    exact ⟨_, by simp, s.inner, rest, ⟨rfl, hfirst⟩, s, ⟨hs, rfl⟩, rfl, rfl⟩

lemma placeholder?_eq_none {cs : List Char} :
    placeholder? d cs = none ↔ ∀ s rest, ¬ StartsWith d s cs rest := by
  simp only [Option.eq_none_iff_forall_ne_some, Prod.forall, ne_eq, placeholder?_eq_some]

/-- The placeholder at the start of a text and the rest of the text are determined. -/
lemma StartsWith.unique {s t : Segment} {cs r q : List Char} (h : StartsWith d s cs r)
    (h' : StartsWith d t cs q) : s = t ∧ r = q := by
  have heq := (placeholder?_eq_some.mpr h).symm.trans (placeholder?_eq_some.mpr h')
  simpa using heq

/-! ### The scan, by its first character -/

@[simp] lemma scan_nil : scan d [] = [] := by rw [scan]

lemma scan_of_startsWith {s : Segment} {cs rest : List Char} (h : StartsWith d s cs rest) :
    scan d cs = s :: scan d rest := by
  have hp := placeholder?_eq_some.mpr h
  cases cs with
  | nil =>
    have heq := h.eq_raw_append
    have hne := Segment.raw_ne_nil_of_isPlaceholder (d := d) h.isPlaceholder
    rw [eq_comm, List.append_eq_nil_iff] at heq
    exact absurd heq.1 hne
  | cons c cs =>
    rw [scan]
    split
    · rename_i s' r' h'
      rw [hp] at h'
      obtain ⟨rfl, rfl⟩ : s = s' ∧ rest = r' := by simpa using h'
      rfl
    · rename_i h'
      rw [hp] at h'
      simp at h'

lemma scan_of_not_startsWith {c : Char} {cs : List Char}
    (h : ∀ s rest, ¬ StartsWith d s (c :: cs) rest) :
    scan d (c :: cs) = Segment.consChar c (scan d cs) := by
  rw [scan]
  split
  · rename_i s r h'
    exact absurd (placeholder?_eq_some.mp h') (h s r)
  · rfl

/-! ### What a scan is -/

/-- The segments of a template, as the grammar has them. -/
structure IsScan (d : Delimiters) (cs : List Char) (segments : List Segment) : Prop where
  /-- The raw texts make up the template. -/
  eq : segments.flatMap (Segment.raw d) = cs
  text_ne_nil : .text [] ∉ segments
  not_adjacent : segments.IsChain fun s t => ¬ (s.isText ∧ t.isText)
  /-- What is no text is a placeholder of the template at its place. -/
  startsWith : ∀ s post, s :: post <:+ segments → ¬ s.isText →
    StartsWith d s ((s :: post).flatMap (Segment.raw d)) (post.flatMap (Segment.raw d))
  /-- The template, read from inside a text, starts with no placeholder. -/
  complete : ∀ t post, .text t :: post <:+ segments → ∀ k < t.length, ∀ s rest,
    ¬ StartsWith d s ((t ++ post.flatMap (Segment.raw d)).drop k) rest

/-- What `IsScan` says of a first segment, with the rest of the template and its segments. -/
def Fits (d : Delimiters) (s : Segment) (cs rest : List Char) (post : List Segment) : Prop :=
  match s with
  | .text t => t ≠ [] ∧ (∀ u ∈ post.head?, ¬ u.isText) ∧
    ∀ k < t.length, ∀ s r, ¬ StartsWith d s (cs.drop k) r
  | s => StartsWith d s cs rest

lemma isScan_nil : IsScan d [] [] :=
  ⟨by simp, by simp, by simp, by simp, by simp⟩

lemma IsScan.eq_nil {segments : List Segment} (h : IsScan d [] segments) : segments = [] := by
  cases segments with
  | nil => rfl
  | cons s post =>
    have heq := h.eq
    rw [List.flatMap_cons, List.append_eq_nil_iff] at heq
    by_cases hs : s.isText
    · cases s with
      | text t => exact absurd (by simp [show t = [] from heq.1]) h.text_ne_nil
      | slot name => simp [Segment.isText] at hs
      | fragment name => simp [Segment.isText] at hs
    · have hstart := h.startsWith s post List.suffix_rfl hs
      exact absurd heq.1 (Segment.raw_ne_nil_of_isPlaceholder hstart.isPlaceholder)

/-- A scan goes on segment by segment. -/
lemma isScan_cons_iff {s : Segment} {cs : List Char} {post : List Segment} :
    IsScan d cs (s :: post) ↔
      ∃ rest, cs = s.raw d ++ rest ∧ IsScan d rest post ∧ Fits d s cs rest post := by
  constructor
  · intro h
    refine ⟨post.flatMap (Segment.raw d), by simpa using h.eq.symm, ⟨rfl, ?_, ?_, ?_, ?_⟩, ?_⟩
    · exact fun hm => h.text_ne_nil (List.mem_cons_of_mem _ hm)
    · exact h.not_adjacent.tail
    · exact fun t q hq => h.startsWith t q (hq.trans (List.suffix_cons s post))
    · exact fun t q hq => h.complete t q (hq.trans (List.suffix_cons s post))
    · have heq : cs = (s :: post).flatMap (Segment.raw d) := h.eq.symm
      cases s with
      | text t =>
        refine ⟨fun ht => h.text_ne_nil (by simp [ht]), fun u hu => ?_, ?_⟩
        · have hadj := List.isChain_cons.mp h.not_adjacent
          simpa [Segment.isText] using hadj.1 u hu
        · rw [heq]
          exact h.complete t post List.suffix_rfl
      | slot name =>
        rw [heq]
        exact h.startsWith _ post List.suffix_rfl (by simp [Segment.isText])
      | fragment name =>
        rw [heq]
        exact h.startsWith _ post List.suffix_rfl (by simp [Segment.isText])
  · rintro ⟨rest, rfl, h, hfit⟩
    have heq : (s :: post).flatMap (Segment.raw d) = s.raw d ++ rest := by simp [h.eq]
    refine ⟨heq, ?_, ?_, ?_, ?_⟩
    · rw [List.mem_cons, not_or]
      refine ⟨?_, h.text_ne_nil⟩
      rintro rfl
      exact hfit.1 rfl
    · refine List.isChain_cons.mpr ⟨fun u hu => ?_, h.not_adjacent⟩
      cases s with
      | text t => simpa [Segment.isText] using hfit.2.1 u hu
      | slot name => simp [Segment.isText]
      | fragment name => simp [Segment.isText]
    · intro t q hq ht
      rcases List.suffix_cons_iff.mp hq with he | hq
      · obtain ⟨rfl, rfl⟩ := List.cons.inj he
        rw [heq, h.eq]
        cases t with
        | text u => simp [Segment.isText] at ht
        | slot name => exact hfit
        | fragment name => exact hfit
      · exact h.startsWith t q hq ht
    · intro t q hq
      rcases List.suffix_cons_iff.mp hq with he | hq
      · obtain ⟨rfl, rfl⟩ := List.cons.inj he
        rw [h.eq]
        exact hfit.2.2
      · exact h.complete t q hq

/-- A character where no placeholder starts goes into the first text. -/
lemma IsScan.consChar {c : Char} {cs : List Char} {segments : List Segment}
    (h : IsScan d cs segments) (hc : ∀ s rest, ¬ StartsWith d s (c :: cs) rest) :
    IsScan d (c :: cs) (Segment.consChar c segments) := by
  by_cases ht : ∃ t post, segments = .text t :: post
  · obtain ⟨t, post, rfl⟩ := ht
    obtain ⟨rest, rfl, hrest, -, hadj, hcomplete⟩ := isScan_cons_iff.mp h
    refine isScan_cons_iff.mpr ⟨rest, rfl, hrest, by simp, hadj, fun k hk => ?_⟩
    cases k with
    | zero => exact hc
    | succ k => exact hcomplete k (by simpa using hk)
  · have hcons : Segment.consChar c segments = .text [c] :: segments := by
      unfold Segment.consChar
      split
      · rename_i t post
        exact absurd ⟨t, post, rfl⟩ ht
      · rfl
    rw [hcons]
    refine isScan_cons_iff.mpr ⟨cs, rfl, h, by simp, fun u hu => ?_, fun k hk => ?_⟩
    · obtain ⟨post, rfl⟩ : ∃ post, segments = u :: post := by
        cases segments with
        | nil => simp at hu
        | cons v post => exact ⟨post, by simpa using hu⟩
      cases u with
      | text t => exact absurd ⟨t, post, rfl⟩ ht
      | slot name => simp [Segment.isText]
      | fragment name => simp [Segment.isText]
    · obtain rfl : k = 0 := by simpa using hk
      exact hc

/-- **Soundness**: the scan of a template is made of its placeholders and the texts between. -/
theorem isScan_scan (d : Delimiters) (cs : List Char) : IsScan d cs (scan d cs) := by
  fun_induction scan d cs with
  | case1 => exact isScan_nil
  | case2 c cs s r h ih =>
    have hstart := placeholder?_eq_some.mp h
    refine isScan_cons_iff.mpr ⟨r, hstart.eq_raw_append, ih, ?_⟩
    cases s with
    | text t => exact absurd hstart.isPlaceholder id
    | slot name => exact hstart
    | fragment name => exact hstart
  | case3 c cs h ih => exact ih.consChar (placeholder?_eq_none.mp h)

/-- The first segment of a scan, taken off together with a character that no placeholder
starts at. -/
lemma IsScan.exists_consChar {c : Char} {cs : List Char} {segments : List Segment}
    (h : IsScan d (c :: cs) segments) (hc : ∀ s rest, ¬ StartsWith d s (c :: cs) rest) :
    ∃ segments', IsScan d cs segments' ∧ segments = Segment.consChar c segments' := by
  cases segments with
  | nil => simpa using h.eq
  | cons s post =>
    obtain ⟨rest, heq, hrest, hfit⟩ := isScan_cons_iff.mp h
    cases s with
    | slot name => exact absurd hfit (hc _ _)
    | fragment name => exact absurd hfit (hc _ _)
    | text t =>
      obtain ⟨hne, hadj, hcomplete⟩ := hfit
      cases t with
      | nil => exact absurd rfl hne
      | cons a t =>
        obtain ⟨rfl, rfl⟩ : c = a ∧ cs = t ++ rest := by simpa [Segment.raw] using heq
        cases t with
        | nil =>
          refine ⟨post, hrest, ?_⟩
          unfold Segment.consChar
          split
          · simp [Segment.isText] at hadj
          · rfl
        | cons b t =>
          refine ⟨.text (b :: t) :: post, isScan_cons_iff.mpr ⟨rest, rfl, hrest, by simp, hadj, ?_⟩,
            rfl⟩
          intro k hk
          exact hcomplete (k + 1) (by simpa using hk)

/-- **Completeness**: a template has one scan only. -/
theorem IsScan.eq_scan {cs : List Char} {segments : List Segment} (h : IsScan d cs segments) :
    segments = scan d cs := by
  fun_induction scan d cs generalizing segments with
  | case1 => exact h.eq_nil
  | case2 c cs s r hp ih =>
    have hstart := placeholder?_eq_some.mp hp
    cases segments with
    | nil => simpa using h.eq
    | cons t post =>
      obtain ⟨rest, -, hrest, hfit⟩ := isScan_cons_iff.mp h
      have ht : StartsWith d t (c :: cs) rest := by
        cases t with
        | text u =>
          obtain ⟨hne, -, hcomplete⟩ := hfit
          exact absurd hstart (hcomplete 0 (List.length_pos_of_ne_nil hne) s r)
        | slot name => exact hfit
        | fragment name => exact hfit
      obtain ⟨rfl, rfl⟩ := ht.unique hstart
      rw [ih hrest]
  | case3 c cs hp ih =>
    obtain ⟨segments', h', rfl⟩ := h.exists_consChar (placeholder?_eq_none.mp hp)
    rw [ih h']

end Template

end PromptKit
