import PromptKit.Proofs.Name
import PromptKit.Proofs.Template.Cursor

/-!
Segments put side by side.

The raw texts of segments, joined, need not be read as these segments: a mark may come together
from two of them. It cannot where the marks have no character in common with what placeholders
hold, and the texts hold no character of a mark. Then the scan of the joined text is the
segments, but for neighbouring texts, which become one.
-/

namespace PromptKit

namespace Delimiters

/-- A character of one of the marks. -/
def Uses (d : Delimiters) (c : Char) : Prop := c ∈ d.left ∨ c ∈ d.right

/-- No mark has a letter, a digit, an underscore or a colon. -/
def ApartFromNames (d : Delimiters) : Prop :=
  ∀ c, d.Uses c → ¬ Name.IsLetter c ∧ ¬ Name.IsDigit c ∧ c ≠ '_' ∧ c ≠ ':'

/-- The opening mark starts with a character that the closing mark does not have. -/
def LeadApart (d : Delimiters) : Prop := ∀ c ∈ d.left.head?, c ∉ d.right

lemma uses_default {c : Char} : default.Uses c ↔ c = '\x7b' ∨ c = '\x7d' := by
  simp [Uses, default]

lemma apartFromNames_default : default.ApartFromNames := by
  intro c hc
  rcases uses_default.mp hc with rfl | rfl
  · simp only [Name.IsLetter, Name.IsLower, Name.IsDigit]
    decide
  · simp only [Name.IsLetter, Name.IsLower, Name.IsDigit]
    decide

end Delimiters

namespace Segment

variable {d : Delimiters}

/-- No text among the segments has a character of a mark. -/
def Clean (d : Delimiters) (segments : List Segment) : Prop :=
  ∀ t, .text t ∈ segments → ∀ c ∈ t, ¬ d.Uses c

/-- Neighbouring texts put together. -/
def merge : List Segment → List Segment
  | [] => []
  | .text t :: rest => Template.glue t (merge rest)
  | s :: rest => s :: merge rest

lemma isWordChar_of_isSymbol {cs : List Char} {c : Char} (h : Name.isSymbol cs) (hc : c ∈ cs) :
    Name.isWordChar c := by
  cases cs with
  | nil => simp at hc
  | cons a cs =>
    simp only [Name.isSymbol, Bool.and_eq_true, Bool.or_eq_true, decide_eq_true_eq,
      List.all_eq_true] at h
    rcases List.mem_cons.mp hc with rfl | hc
    · rcases h.1 with hfirst | hfirst
      · exact Name.isWordChar_iff.mpr (.inl (Name.isAlpha_iff.mp hfirst))
      · exact Name.isWordChar_iff.mpr (.inr (.inr hfirst))
    · exact h.2 c hc

lemma isLetter_or_colon_of_mem_fragmentMark {c : Char} (h : c ∈ fragmentMark) :
    Name.IsLetter c ∨ c = ':' := by
  have hall : fragmentMark.all fun x => x.isAlpha || x == ':' := rfl
  have hc : c.isAlpha ∨ c = ':' := by simpa using List.all_eq_true.mp hall c h
  exact hc.imp_left Name.isAlpha_iff.mp

/-- What a placeholder holds has no character of a mark. -/
lemma not_uses_of_mem_inner (hd : d.ApartFromNames) {s : Segment} (hs : s.IsPlaceholder) {c : Char}
    (hc : c ∈ s.inner) : ¬ d.Uses c := by
  intro hu
  obtain ⟨hletter, hdigit, hunderscore, hcolon⟩ := hd c hu
  have hname : ∀ {cs : List Char}, Name.isSymbol cs → c ∉ cs := by
    intro cs hcs hm
    rcases Name.isWordChar_iff.mp (isWordChar_of_isSymbol hcs hm) with h | h | h
    · exact hletter h
    · exact hdigit h
    · exact hunderscore h
  cases s with
  | text t => exact hs
  | slot name =>
    have hsymbol : Name.isSymbol name.toList := hs
    exact hname hsymbol hc
  | fragment name =>
    have hsymbol : Name.isSymbol name.toList := hs
    rw [inner, List.mem_append] at hc
    rcases hc with hc | hc
    · exact (isLetter_or_colon_of_mem_fragmentMark hc).elim hletter hcolon
    · exact hname hsymbol hc

lemma inner_ne_nil {s : Segment} (hs : s.IsPlaceholder) : s.inner ≠ [] := by
  have hname : ∀ {cs : List Char}, Name.isSymbol cs → cs ≠ [] := by
    rintro cs hcs rfl
    simp [Name.isSymbol] at hcs
  cases s with
  | text t => exact absurd hs id
  | slot name => exact hname hs
  | fragment name => exact List.append_ne_nil_of_right_ne_nil _ (hname hs)

lemma mem_fragmentNames {segments : List Segment} {n : String} :
    n ∈ Template.fragmentNames segments ↔ .fragment n ∈ segments := by
  rw [Template.fragmentNames, List.mem_eraseDups, List.mem_filterMap]
  constructor
  · rintro ⟨s, hs, hn⟩
    cases s with
    | text t => simp [fragmentName?] at hn
    | slot name => simp [fragmentName?] at hn
    | fragment m =>
      obtain rfl : m = n := by simpa [fragmentName?] using hn
      exact hs
  · intro h
    exact ⟨_, h, rfl⟩

/-! ### Merged segments -/

lemma merge_cons_of_not_isText {s : Segment} (hs : ¬ s.isText) (rest : List Segment) :
    merge (s :: rest) = s :: merge rest := by
  cases s with
  | text t => simp [isText] at hs
  | slot name => rw [merge]; simp
  | fragment name => rw [merge]; simp

section Merge

variable {β : Type} {f : Segment → Option β} {spell : Segment → List Char}

lemma filterMap_consChar (hf : ∀ t, f (.text t) = none) (c : Char) (segments : List Segment) :
    (consChar c segments).filterMap f = segments.filterMap f := by
  unfold consChar
  split
  · rw [List.filterMap_cons_none (hf _), List.filterMap_cons_none (hf _)]
  · rw [List.filterMap_cons_none (hf _)]

lemma filterMap_glue (hf : ∀ t, f (.text t) = none) (t : List Char) (segments : List Segment) :
    (Template.glue t segments).filterMap f = segments.filterMap f := by
  induction t with
  | nil => rfl
  | cons c t ih => exact (filterMap_consChar hf c _).trans ih

/-- What looks at placeholders only finds them all after merging. -/
lemma filterMap_merge (hf : ∀ t, f (.text t) = none) (segments : List Segment) :
    (merge segments).filterMap f = segments.filterMap f := by
  induction segments with
  | nil => rfl
  | cons s rest ih =>
    cases s with
    | text t => rw [merge, filterMap_glue hf, ih, List.filterMap_cons_none (hf t)]
    | slot name =>
      rw [merge_cons_of_not_isText (by simp [isText]), List.filterMap_cons, List.filterMap_cons, ih]
    | fragment name =>
      rw [merge_cons_of_not_isText (by simp [isText]), List.filterMap_cons, List.filterMap_cons, ih]

lemma flatMap_consChar (hspell : ∀ t, spell (.text t) = t) (c : Char) (segments : List Segment) :
    (consChar c segments).flatMap spell = c :: segments.flatMap spell := by
  unfold consChar
  split
  · simp only [List.flatMap_cons, hspell, List.cons_append]
  · simp only [List.flatMap_cons, hspell, List.singleton_append]

lemma flatMap_glue (hspell : ∀ t, spell (.text t) = t) (t : List Char) (segments : List Segment) :
    (Template.glue t segments).flatMap spell = t ++ segments.flatMap spell := by
  induction t with
  | nil => rfl
  | cons c t ih => exact (flatMap_consChar hspell c _).trans (congrArg (c :: ·) ih)

/-- Merging changes no text that segments make up, whatever the placeholders stand for. -/
lemma flatMap_merge (hspell : ∀ t, spell (.text t) = t) (segments : List Segment) :
    (merge segments).flatMap spell = segments.flatMap spell := by
  induction segments with
  | nil => rfl
  | cons s rest ih =>
    cases s with
    | text t => rw [merge, flatMap_glue hspell, ih, List.flatMap_cons, hspell]
    | slot name =>
      rw [merge_cons_of_not_isText (by simp [isText]), List.flatMap_cons, List.flatMap_cons, ih]
    | fragment name =>
      rw [merge_cons_of_not_isText (by simp [isText]), List.flatMap_cons, List.flatMap_cons, ih]

end Merge

lemma fragmentNames_merge (segments : List Segment) :
    Template.fragmentNames (merge segments) = Template.fragmentNames segments := by
  rw [Template.fragmentNames, filterMap_merge (fun _ => rfl), Template.fragmentNames]

lemma fragment_mem_merge {segments : List Segment} {n : String} :
    .fragment n ∈ merge segments ↔ .fragment n ∈ segments := by
  rw [← mem_fragmentNames, fragmentNames_merge, mem_fragmentNames]

end Segment

namespace Template

open Segment

variable {d : Delimiters}

lemma isPlaceholder_of_mem_scan {cs : List Char} {s : Segment} (h : s ∈ scan d cs)
    (hs : ¬ s.isText) : s.IsPlaceholder := by
  obtain ⟨pre, post, heq⟩ := List.append_of_mem h
  exact ((isScan_scan d cs).startsWith s post ⟨pre, heq.symm⟩ hs).isPlaceholder

/-- A text in which no placeholder starts is a single text. -/
lemma scan_eq_text {t : List Char} (ht : t ≠ [])
    (h : ∀ k < t.length, placeholder? d (t.drop k) = none) : scan d t = [.text t] := by
  rw [scan_eq_textOf fun k hk => placeholder?_eq_none.mp (h k hk), textOf, if_neg ht]

/-- A text that is one placeholder. -/
lemma scan_eq_singleton {cs : List Char} {s : Segment} (h : placeholder? d cs = some (s, [])) :
    scan d cs = [s] := by
  rw [scan_of_startsWith (placeholder?_eq_some.mp h), scan_nil]

/-- A text that shares no character with a mark has none of its characters at the start of
the mark. -/
lemma not_prefix_drop {p t r : List Char} {k : Nat} (hp : p ≠ []) (h : ∀ c ∈ t, c ∉ p)
    (hk : k < t.length) : ¬ p <+: (t ++ r).drop k := by
  rintro ⟨q, hq⟩
  obtain ⟨c, p, rfl⟩ := List.exists_cons_of_ne_nil hp
  rw [List.drop_append_of_le_length (by omega), List.drop_eq_getElem_cons hk, List.cons_append,
    List.cons_append] at hq
  refine h t[k] (List.getElem_mem hk) ?_
  rw [← (List.cons.inj hq).1]
  exact List.mem_cons_self

/-- A placeholder is read where it is written, whatever follows. -/
lemma startsWith_raw (hd : d.ApartFromNames) {s : Segment} (hs : s.IsPlaceholder)
    (rest : List Char) : StartsWith d s (s.raw d ++ rest) rest := by
  refine ⟨hs, by rw [raw_of_isPlaceholder hs], fun k hk => ?_⟩
  rw [List.append_assoc]
  exact not_prefix_drop d.right_ne_nil
    (fun c hc hr => not_uses_of_mem_inner hd hs hc (.inr hr)) hk

/-- A text without a character of a mark is read as text, whatever follows. -/
lemma scan_clean_append {t : List Char} (ht : ∀ c ∈ t, ¬ d.Uses c) (r : List Char) :
    scan d (t ++ r) = glue t (scan d r) := by
  refine scan_append fun k hk s rest hs => ?_
  exact not_prefix_drop d.left_ne_nil (fun c hc hl => ht c hc (.inl hl)) hk hs.left_prefix

/-- **Segments side by side are read as these segments**, neighbouring texts as one. -/
theorem scan_flatMap_raw (hd : d.ApartFromNames) {segments : List Segment}
    (hclean : Clean d segments) (hs : ∀ s ∈ segments, ¬ s.isText → s.IsPlaceholder) :
    scan d (segments.flatMap (Segment.raw d)) = merge segments := by
  induction segments with
  | nil => exact scan_nil
  | cons s rest ih =>
    have hrest := ih (fun t ht => hclean t (List.mem_cons_of_mem _ ht))
      (fun u hu => hs u (List.mem_cons_of_mem _ hu))
    rw [List.flatMap_cons]
    cases s with
    | text t =>
      rw [show Segment.raw d (.text t) = t from rfl,
        scan_clean_append (hclean t List.mem_cons_self), hrest, merge]
    | slot name =>
      have hname := hs (.slot name) List.mem_cons_self (by simp [isText])
      rw [scan_of_startsWith (startsWith_raw hd hname _), hrest]
      rfl
    | fragment name =>
      have hname := hs (.fragment name) List.mem_cons_self (by simp [isText])
      rw [scan_of_startsWith (startsWith_raw hd hname _), hrest]
      rfl

/-! ### Where a placeholder can stand in a joined text -/

lemma mem_of_prefix_append {l x y : List Char} {c : Char} (h : l <+: x ++ c :: y)
    (hlen : x.length < l.length) : c ∈ l := by
  obtain ⟨z, hz⟩ := h
  have hget : (l ++ z)[x.length]? = (x ++ c :: y)[x.length]? := by rw [hz]
  rw [List.getElem?_append_left hlen, List.getElem?_append_right (Nat.le_refl _), Nat.sub_self,
    List.getElem?_cons_zero] at hget
  exact List.mem_of_getElem? hget

/-- What starts in a text has its first character there. -/
lemma head_mem_of_prefix_append {l rest post : List Char} {c : Char} (h : c :: l <+: rest ++ post)
    (hne : rest ≠ []) : c ∈ rest := by
  obtain ⟨z, hz⟩ := h
  obtain ⟨a, r, rfl⟩ := List.exists_cons_of_ne_nil hne
  rw [List.cons_append, List.cons_append] at hz
  rw [(List.cons.inj hz).1]
  exact List.mem_cons_self

/-- Inside a placeholder, behind its first character, nothing starts with an opening mark. -/
lemma eq_nil_of_raw_eq (hd : d.ApartFromNames) (hlead : d.LeadApart) {p : Segment}
    (hp : p.IsPlaceholder) {pre rest post : List Char} (hne : rest ≠ [])
    (hraw : p.raw d = pre ++ rest) (hleft : d.left <+: rest ++ post) : pre = [] := by
  obtain ⟨c, l, hl⟩ := List.exists_cons_of_ne_nil d.left_ne_nil
  obtain ⟨i, inner, hinner⟩ := List.exists_cons_of_ne_nil (inner_ne_nil hp)
  have hc : c ∈ rest := head_mem_of_prefix_append (hl ▸ hleft) hne
  rw [raw_of_isPlaceholder hp, List.append_assoc] at hraw
  rcases List.append_eq_append_iff.mp hraw with ⟨x, rfl, hx⟩ | ⟨x, hx, rfl⟩
  · -- it would start behind the opening mark of the placeholder
    have hmem : c ∈ p.inner ++ d.right := hx ▸ List.mem_append_right _ hc
    rcases List.mem_append.mp hmem with hm | hm
    · exact absurd (.inl (by simp [hl])) (not_uses_of_mem_inner hd hp hm)
    · exact absurd hm (hlead c (by simp [hl]))
  · -- it would take in the first character that the placeholder holds
    by_contra hpre
    have hlen : x.length < d.left.length := by
      rw [hx, List.length_append]
      have := List.length_pos_of_ne_nil hpre
      omega
    rw [hinner, List.append_assoc, List.append_assoc, List.cons_append] at hleft
    have hi : i ∈ d.left := mem_of_prefix_append hleft hlen
    exact not_uses_of_mem_inner hd hp (by simp [hinner]) (.inl hi)

/-- A placeholder that starts inside a segment is that segment. -/
lemma eq_of_raw_eq_append (hd : d.ApartFromNames) (hlead : d.LeadApart) {s p : Segment}
    (hs : s.IsPlaceholder) (hclean : ∀ t, p = .text t → ∀ c ∈ t, ¬ d.Uses c)
    (hp : ¬ p.isText → p.IsPlaceholder) {pre rest post behind : List Char} (hne : rest ≠ [])
    (hraw : p.raw d = pre ++ rest) (hpost : s.raw d ++ post = rest ++ behind) : s = p := by
  have hleft : d.left <+: rest ++ behind := by
    rw [← hpost]
    exact StartsWith.left_prefix (startsWith_raw hd hs post)
  by_cases htext : p.isText
  · cases p with
    | slot name => simp [isText] at htext
    | fragment name => simp [isText] at htext
    | text t =>
      obtain ⟨c, l, hl⟩ := List.exists_cons_of_ne_nil d.left_ne_nil
      have hc : c ∈ rest := head_mem_of_prefix_append (hl ▸ hleft) hne
      have ht : c ∈ t := by
        rw [show t = pre ++ rest from hraw]
        exact List.mem_append_right _ hc
      exact absurd (.inl (by simp [hl])) (hclean t rfl c ht)
  · obtain rfl := eq_nil_of_raw_eq hd hlead (hp htext) hne hraw hleft
    rw [List.nil_append] at hraw
    -- two placeholders at one place are the same
    have hthis := startsWith_raw hd (hp htext) behind
    rw [hraw, ← hpost] at hthis
    exact ((startsWith_raw hd hs post).unique hthis).1

/-- **A placeholder that is written in a joined text is one of its segments.** -/
theorem mem_of_raw_infix (hd : d.ApartFromNames) (hlead : d.LeadApart) {s : Segment}
    (hs : s.IsPlaceholder) {segments : List Segment} (hclean : Clean d segments)
    (hsegments : ∀ p ∈ segments, ¬ p.isText → p.IsPlaceholder)
    (h : s.raw d <:+: segments.flatMap (Segment.raw d)) : s ∈ segments := by
  induction segments with
  | nil =>
    rw [List.flatMap_nil, List.infix_nil] at h
    exact absurd h (raw_ne_nil_of_isPlaceholder hs)
  | cons p segments ih =>
    have hbehind : s.raw d <:+: segments.flatMap (Segment.raw d) → s ∈ p :: segments := by
      intro hin
      refine List.mem_cons_of_mem _ (ih ?_ ?_ hin)
      · exact fun t ht => hclean t (List.mem_cons_of_mem _ ht)
      · exact fun q hq => hsegments q (List.mem_cons_of_mem _ hq)
    obtain ⟨pre, post, heq⟩ := h
    rw [List.flatMap_cons, List.append_assoc] at heq
    -- the marker starts in the first segment or behind it
    rcases List.append_eq_append_iff.mp heq with ⟨rest, hraw, hpost⟩ | ⟨between, rfl, hpost⟩
    · by_cases hne : rest = []
      · subst hne
        exact hbehind ⟨[], post, by simpa using hpost⟩
      · have hsp : s = p := eq_of_raw_eq_append hd hlead hs
          (fun t ht => hclean t (ht ▸ List.mem_cons_self)) (hsegments p List.mem_cons_self) hne
          hraw hpost
        exact hsp ▸ List.mem_cons_self
    · exact hbehind ⟨between, post, by simpa using hpost.symm⟩

end Template

end PromptKit
