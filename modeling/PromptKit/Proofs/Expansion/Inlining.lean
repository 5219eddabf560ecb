import PromptKit.Proofs.Expansion.Missing
import PromptKit.Proofs.Expansion.Resolution
import PromptKit.Proofs.Template.Concatenation

/-!
A resolved template, scanned again.

A template resolves exactly where it can be inlined and the text fits. Where texts have no
character of a mark, the resolved text is read as the inlined segments, so that resolving it
again changes nothing and the fragments that it refers to are those that the template lacks.
-/

namespace PromptKit

namespace Fragments

variable {fs : Fragments} {segments pieces : List Segment}

/-- No defined fragment is left. -/
lemma Inlines.get?_eq_none (h : fs.Inlines segments pieces) {n : String}
    (hn : .fragment n ∈ pieces) : fs.get? n = none := by
  induction h with
  | nil => simp at hn
  | keep hs _ ih =>
    rcases List.mem_cons.mp hn with rfl | hn
    · exact hs n rfl
    · exact ih hn
  | replace _ _ _ ihbody ihrest =>
    rcases List.mem_append.mp hn with hn | hn
    · exact ihbody hn
    · exact ihrest hn

/-- A fragment alone stands for what its body stands for. -/
lemma inlines_singleton {n : String} {body : List Segment} (hn : fs.get? n = some body) :
    fs.Inlines [.fragment n] pieces ↔ fs.Inlines body pieces := by
  constructor
  · intro h
    cases h with
    | keep hs => simp [hs n rfl] at hn
    | replace hn' hbody hrest =>
      obtain rfl := Option.some.inj (hn.symm.trans hn')
      cases hrest
      rwa [List.append_nil]
  · intro h
    have hone := Inlines.replace hn h .nil
    rwa [List.append_nil] at hone

/-- A segment of these, or of the body of a fragment that they reach. -/
def Holds (fs : Fragments) (segments : List Segment) (s : Segment) : Prop :=
  s ∈ segments ∨ ∃ n body, fs.Reaches segments n ∧ fs.get? n = some body ∧ s ∈ body

lemma Holds.of_rest {s t : Segment} (h : fs.Holds segments s) : fs.Holds (t :: segments) s := by
  rcases h with hs | ⟨n, body, hreach, hn, hs⟩
  · exact .inl (List.mem_cons_of_mem _ hs)
  · exact .inr ⟨n, body, reaches_of_rest hreach, hn, hs⟩

lemma Holds.of_body {s : Segment} {n : String} {body rest : List Segment}
    (hn : fs.get? n = some body) (h : fs.Holds body s) : fs.Holds (.fragment n :: rest) s := by
  rcases h with hs | ⟨m, inner, hreach, hm, hs⟩
  · exact .inr ⟨n, body, reaches_self n rest, hn, hs⟩
  · exact .inr ⟨m, inner, reaches_of_body hn hreach, hm, hs⟩

/-- Every inlined segment comes from the segments or from a body that they reach. -/
lemma Inlines.holds (h : fs.Inlines segments pieces) {s : Segment} (hs : s ∈ pieces) :
    fs.Holds segments s := by
  induction h with
  | nil => exact .inl hs
  | keep _ _ ih =>
    rcases List.mem_cons.mp hs with rfl | hs
    · exact .inl List.mem_cons_self
    · exact (ih hs).of_rest
  | replace hn _ _ ihbody ihrest =>
    rcases List.mem_append.mp hs with hs | hs
    · exact (ihbody hs).of_body hn
    · exact (ihrest hs).of_rest

/-- Segments without a defined fragment stand for themselves. -/
lemma inlines_self (h : ∀ n, .fragment n ∈ segments → fs.get? n = none) :
    fs.Inlines segments segments := by
  induction segments with
  | nil => exact .nil
  | cons s segments ih =>
    refine .keep (fun n hn => h n ?_) (ih fun n hn => h n (List.mem_cons_of_mem _ hn))
    rw [hn]
    exact List.mem_cons_self

end Fragments

namespace Writer

/-- Pieces are written to the end exactly where they fit together. -/
lemma putAll_eq_none_iff {d : Delimiters} {limit : Nat} {w : Writer} {pieces : List Segment}
    (hw : w.bytes ≤ limit) :
    (putAll d limit w pieces).2 = none ↔
      w.bytes + Text.bytes (pieces.flatMap (Segment.raw d)) ≤ limit := by
  induction pieces generalizing w with
  | nil => simpa [putAll] using hw
  | cons s pieces ih =>
    rw [putAll, List.flatMap_cons, Text.bytes_append]
    rcases Nat.lt_or_ge limit (w.bytes + Text.bytes (s.raw d)) with hlt | hle
    · rw [put_of_lt hlt]
      constructor
      · intro h
        simp at h
      · intro h
        omega
    · have hnext := ih (w := ⟨s :: w.written, w.bytes + Text.bytes (s.raw d)⟩) hle
      rw [put_of_le hle, ← Nat.add_assoc]
      exact hnext

end Writer

namespace Resolver

open Expansion Writer

variable {r : Resolver} {template out : String} {pieces : List Segment}

/-- The result of writing an expansion: the limit is looked at first, then the cycle. -/
lemma resultOf_write (r : Resolver) (e : Expansion) :
    r.resultOf e.pieces (write r.delimiters r.limit {} e).2 =
      if Text.bytes (e.pieces.flatMap (Segment.raw r.delimiters)) ≤ r.limit then
        match e.cycle with
        | none => .ok (r.textOf e.pieces)
        | some path => .error (.cycle path)
      else .error (.tooLarge r.limit) := by
  have hfits : (putAll r.delimiters r.limit {} e.pieces).2 = none ↔
      Text.bytes (e.pieces.flatMap (Segment.raw r.delimiters)) ≤ r.limit := by
    simpa using putAll_eq_none_iff (w := {}) (Nat.zero_le r.limit)
  rw [write]
  rcases hput : putAll r.delimiters r.limit {} e.pieces with ⟨w, _ | s⟩
  · rw [if_pos (hfits.mp (by rw [hput]))]
    rcases hc : e.cycle with _ | path
    · simp [endingOf, hc, resultOf]
    · simp [endingOf, hc, resultOf]
  · rw [if_neg (mt hfits.mpr (by simp [hput]))]
    rfl

/-- **When a template resolves**: it has an expansion, and the text of that fits. -/
theorem result_eq_ok_iff :
    (r.resolve template).result = .ok out ↔
      r.Expands template out ∧ Text.bytes out.toList ≤ r.limit := by
  rw [result_resolve, resultOf_write, expands_iff]
  generalize expand r.bodies [] (r.scan template) = e
  have hbytes : Text.bytes (r.textOf e.pieces).toList =
      Text.bytes (e.pieces.flatMap (Segment.raw r.delimiters)) := by
    rw [textOf, String.toList_ofList]
  by_cases hfits : Text.bytes (e.pieces.flatMap (Segment.raw r.delimiters)) ≤ r.limit
  · rw [if_pos hfits]
    rcases e.cycle with _ | path
    · constructor
      · intro h
        obtain rfl := Except.ok.inj h
        exact ⟨⟨rfl, rfl⟩, hbytes.trans_le hfits⟩
      · rintro ⟨⟨-, rfl⟩, -⟩
        rfl
    · simp
  · rw [if_neg hfits]
    constructor
    · rintro ⟨⟩
    · rintro ⟨⟨-, rfl⟩, hle⟩
      exact absurd (hbytes.symm.trans_le hle) hfits

lemma get?_bodies_eq (r : Resolver) (n : String) :
    r.bodies.get? n = (r.fragments.get? n).map r.scan := by
  rw [bodies, Fragments.ofTexts, NameMap.get?_map]
  rfl

lemma get?_bodies_eq_none {n : String} : r.bodies.get? n = none ↔ r.fragments.get? n = none := by
  rw [get?_bodies_eq, Option.map_eq_none_iff]

lemma get?_bodies_eq_some {n : String} {body : List Segment} :
    r.bodies.get? n = some body ↔ ∃ text, r.fragments.get? n = some text ∧ r.scan text = body := by
  rw [get?_bodies_eq, Option.map_eq_some_iff]

/-- Every text of the template and of the fragments that it reaches is without a character of a
mark. -/
structure IsClean (r : Resolver) (t : String) : Prop where
  template : Segment.Clean r.delimiters (r.scan t)
  body : ∀ n text, r.bodies.Reaches (r.scan t) n → r.fragments.get? n = some text →
    Segment.Clean r.delimiters (r.scan text)

/-- A property of the segments of the template and of the bodies that it reaches is one of the
pieces. -/
lemma forall_piece (hinl : r.bodies.Inlines (r.scan template) pieces) {P : Segment → Prop}
    (htemplate : ∀ s ∈ r.scan template, P s)
    (hbody : ∀ n text, r.bodies.Reaches (r.scan template) n → r.fragments.get? n = some text →
      ∀ s ∈ r.scan text, P s) :
    ∀ s ∈ pieces, P s := by
  intro s hs
  rcases hinl.holds hs with hs | ⟨n, body, hreach, hn, hs⟩
  · exact htemplate s hs
  · obtain ⟨text, htext, rfl⟩ := get?_bodies_eq_some.mp hn
    exact hbody n text hreach htext s hs

lemma clean_pieces (hclean : r.IsClean template)
    (hinl : r.bodies.Inlines (r.scan template) pieces) : Segment.Clean r.delimiters pieces := by
  have hall := forall_piece (P := fun s => ∀ t, s = .text t → ∀ c ∈ t, ¬ r.delimiters.Uses c) hinl
    (fun s hs t ht => hclean.template t (ht ▸ hs))
    (fun n text hreach htext s hs t ht => hclean.body n text hreach htext t (ht ▸ hs))
  exact fun t ht => hall _ ht t rfl

lemma isPlaceholder_of_piece (hinl : r.bodies.Inlines (r.scan template) pieces) :
    ∀ s ∈ pieces, ¬ s.isText → s.IsPlaceholder :=
  forall_piece hinl (fun _ hs => Template.isPlaceholder_of_mem_scan hs)
    (fun _ _ _ _ _ hs => Template.isPlaceholder_of_mem_scan hs)

/-- The joined pieces of a clean template are read as these pieces. -/
lemma scan_textOf (hd : r.delimiters.ApartFromNames) (hclean : r.IsClean template)
    (hinl : r.bodies.Inlines (r.scan template) pieces) :
    r.scan (r.textOf pieces) = Segment.merge pieces := by
  rw [scan, textOf, String.toList_ofList]
  exact Template.scan_flatMap_raw hd (clean_pieces hclean hinl) (isPlaceholder_of_piece hinl)

/-- A text without a defined fragment expands to itself. -/
lemma expands_self (h : ∀ n, .fragment n ∈ r.scan out → r.fragments.get? n = none) :
    r.Expands out out := by
  refine ⟨r.scan out, Fragments.inlines_self fun n hn => get?_bodies_eq_none.mpr (h n hn), ?_⟩
  rw [textOf, scan, (Template.isScan_scan r.delimiters out.toList).eq, String.ofList_toList]

/-- A text without a defined fragment resolves to itself, if it fits. -/
lemma resolve_self (h : ∀ n, .fragment n ∈ r.scan out → r.fragments.get? n = none)
    (hle : Text.bytes out.toList ≤ r.limit) : (r.resolve out).result = .ok out :=
  result_eq_ok_iff.mpr ⟨expands_self h, hle⟩

/-- **Resolving is inlining.** Where names and texts are apart from the marks, the scan of a
resolved text is the scan of the template with every fragment in its place and neighbouring
texts put together. So no marker of a defined fragment is left, neither to the scan nor anywhere
in the text, the text resolves to itself, and it refers to the fragments that the template
lacks, in the same order. -/
theorem resolve_inlines (r : Resolver) (template out : String)
    (hnames : r.delimiters.ApartFromNames) (hlead : r.delimiters.LeadApart)
    (hclean : r.IsClean template) (h : (r.resolve template).result = .ok out) :
    (∃ pieces, r.bodies.Inlines (r.scan template) pieces ∧ r.scan out = Segment.merge pieces) ∧
    (∀ n, .fragment n ∈ r.scan out → r.fragments.get? n = none) ∧
    (∀ n, Name.IsSymbol n → (Segment.fragment n).raw r.delimiters <:+: out.toList →
      r.fragments.get? n = none) ∧
    (r.resolve out).result = .ok out ∧
    Template.fragmentNames (r.scan out) = r.missing template := by
  obtain ⟨⟨pieces, hinl, rfl⟩, hle⟩ := result_eq_ok_iff.mp h
  have hscan := scan_textOf hnames hclean hinl
  have hpieces : ∀ n, .fragment n ∈ pieces → r.fragments.get? n = none := fun n hn =>
    get?_bodies_eq_none.mp (hinl.get?_eq_none hn)
  have hleft : ∀ n, .fragment n ∈ r.scan (r.textOf pieces) → r.fragments.get? n = none := by
    intro n hn
    rw [hscan] at hn
    exact hpieces n (Segment.fragment_mem_merge.mp hn)
  refine ⟨⟨pieces, hinl, hscan⟩, hleft, fun n hn hin => ?_, ?_, ?_⟩
  · rw [textOf, String.toList_ofList] at hin
    have hplace : (Segment.fragment n).IsPlaceholder := Name.isSymbol_iff.mpr hn
    exact hpieces n (Template.mem_of_raw_infix hnames hlead hplace (clean_pieces hclean hinl)
      (isPlaceholder_of_piece hinl) hin)
  · exact result_eq_ok_iff.mpr ⟨expands_self hleft, hle⟩
  · rw [hscan, Segment.fragmentNames_merge, missing, missing_eq hinl]

/-! ### A fragment that refers to another that is not there -/

/-- A fragment `a` that lacks a fragment `b`, between marks of two characters. -/
def lacking : Resolver where
  delimiters := ⟨['<', '%'], ['%', '>'], by decide, by decide⟩
  fragments := NameMap.ofList [("a", "x<%fragment:b%>")]

lemma apartFromNames_lacking : lacking.delimiters.ApartFromNames := by
  intro c hc
  have hmark : (c = '<' ∨ c = '%') ∨ c = '%' ∨ c = '>' := by
    simpa [Delimiters.Uses, lacking] using hc
  simp only [Name.IsLetter, Name.IsLower, Name.IsDigit]
  rcases hmark with (rfl | rfl) | rfl | rfl
  · decide
  · decide
  · decide
  · decide

lemma scan_lacking {text : String} (segments : List Segment)
    (h : text.toList = segments.flatMap (Segment.raw lacking.delimiters))
    (hclean : Segment.Clean lacking.delimiters segments)
    (hs : ∀ s ∈ segments, ¬ s.isText → s.IsPlaceholder) :
    lacking.scan text = Segment.merge segments := by
  rw [scan, h]
  exact Template.scan_flatMap_raw apartFromNames_lacking hclean hs

lemma scan_lacking_body : lacking.scan "x<%fragment:b%>" = [.text ['x'], .fragment "b"] := by
  refine scan_lacking [.text ['x'], .fragment "b"] (by decide) ?_ ?_
  · simp [Segment.Clean, Delimiters.Uses, lacking]
  · simp only [List.mem_cons, List.not_mem_nil, or_false, forall_eq_or_imp, forall_eq,
      Segment.isText, Segment.IsPlaceholder]
    decide

lemma scan_lacking_template :
    lacking.scan "<%fragment:a%>y<%name%>" = [.fragment "a", .text ['y'], .slot "name"] := by
  refine scan_lacking [.fragment "a", .text ['y'], .slot "name"] (by decide) ?_ ?_
  · simp [Segment.Clean, Delimiters.Uses, lacking]
  · simp only [List.mem_cons, List.not_mem_nil, or_false, forall_eq_or_imp, forall_eq,
      Segment.isText, Segment.IsPlaceholder]
    decide

lemma get?_lacking {n text : String} (h : lacking.fragments.get? n = some text) :
    text = "x<%fragment:b%>" := by
  rw [lacking, NameMap.get?_ofList] at h
  by_cases hn : "a" = n
  · simpa [hn, eq_comm] using h
  · simp [hn] at h

lemma isClean_lacking : lacking.IsClean "<%fragment:a%>y<%name%>" := by
  refine ⟨?_, fun n text _ h => ?_⟩
  · rw [scan_lacking_template]
    simp [Segment.Clean, Delimiters.Uses, lacking]
  · rw [get?_lacking h, scan_lacking_body]
    simp [Segment.Clean, Delimiters.Uses, lacking]

lemma result_lacking :
    (lacking.resolve "<%fragment:a%>y<%name%>").result = .ok "x<%fragment:b%>y<%name%>" := by
  have hbody : lacking.bodies.get? "a" = some [.text ['x'], .fragment "b"] := by
    rw [get?_bodies (t := "x<%fragment:b%>") (by decide), scan_lacking_body]
  have hb : ∀ m, Segment.fragment "b" = .fragment m → lacking.bodies.get? m = none := by
    rintro m hm
    obtain rfl := Segment.fragment.inj hm
    exact get?_bodies_eq_none.mpr (by decide)
  have hinl : lacking.bodies.Inlines (lacking.scan "<%fragment:a%>y<%name%>")
      ([.text ['x'], .fragment "b"] ++ [.text ['y'], .slot "name"]) := by
    rw [scan_lacking_template]
    exact .replace hbody (.keep (by simp) (.keep hb .nil)) (.keep (by simp) (.keep (by simp) .nil))
  exact result_eq_ok_iff.mpr ⟨⟨_, hinl, rfl⟩, by decide⟩

theorem resolve_inlines_lacking :
    lacking.delimiters.ApartFromNames ∧ lacking.delimiters.LeadApart ∧
    lacking.IsClean "<%fragment:a%>y<%name%>" ∧
    (lacking.resolve "<%fragment:a%>y<%name%>").result = .ok "x<%fragment:b%>y<%name%>" ∧
    (lacking.resolve "x<%fragment:b%>y<%name%>").result = .ok "x<%fragment:b%>y<%name%>" ∧
    Template.fragmentNames (lacking.scan "x<%fragment:b%>y<%name%>") =
      lacking.missing "<%fragment:a%>y<%name%>" := by
  have hlead : lacking.delimiters.LeadApart := by simp [Delimiters.LeadApart, lacking]
  have hinlines := resolve_inlines lacking "<%fragment:a%>y<%name%>" "x<%fragment:b%>y<%name%>"
    apartFromNames_lacking hlead isClean_lacking result_lacking
  exact ⟨apartFromNames_lacking, hlead, isClean_lacking, result_lacking, hinlines.2.2.2⟩

end Resolver

end PromptKit
