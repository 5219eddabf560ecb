import PromptKit.Proofs.Document.Contents
import PromptKit.Proofs.Expansion.Inlining

/-!
The fragments of a document, and which of them a template can refer to.

A document may give a fragment any name. A marker is read as one only where the name is a
symbol, so a fragment of another name is in the pack and in no template.
-/

namespace PromptKit

namespace Segment

/-- The marker of a fragment, between double braces. -/
def marker (name : String) : List Char := (Segment.fragment name).raw .default

end Segment

namespace Document

/-- The fragments of a document, as it has them. -/
def fragmentMembers : Json → Members
  | .object ms =>
    match Members.present? ms "fragments" with
    | some (.object fragments) => fragments
    | _ => []
  | _ => []

/-- The fragments of a document, name by name and text by text. -/
structure FragmentsOf (ms : Members) (fragments : NameMap String) : Prop where
  names : ∀ name, fragments.contains name ↔ name ∈ ms.map (·.1)
  texts : ∀ name text, fragments.get? name = some text ↔ ms.get? name = some (.string text)

/-- Fragments are taken as they are. -/
lemma fragmentsOf_of_readFragments {root : Node} {fragments : NameMap String}
    (h : readFragments root = .ok fragments) :
    FragmentsOf (fragmentMembers (.object root.members)) fragments := by
  rcases Node.ofObject_eq_ok.mp h with ⟨habsent, rfl⟩ | ⟨ms, hpresent, hread⟩
  · simp only [fragmentMembers, habsent]
    exact ⟨by simp [NameMap.contains], by simp [Members.get?]⟩
  · simp only [bind_eq_ok, pure_eq_ok] at hread
    obtain ⟨all, hall, rfl⟩ := hread
    simp only [fragmentMembers, hpresent]
    refine ⟨fun name => ?_, get?_ofList_of_mapM hall⟩
    rw [NameMap.contains_ofList, names_of_mapM hall]

lemma fragmentsOf_of_readPack {doc : Json} {pack : Pack} (h : (readPack doc).result = .ok pack) :
    FragmentsOf (fragmentMembers doc) pack.fragments := by
  cases doc with
  | object ms =>
    simp only [readPack, readRoot, Traced.result_bind, Traced.result_lift, Traced.result_pure,
      bind_eq_ok, Node.placed_eq_ok, Node.rejectIf_eq_ok] at h
    obtain ⟨id, -, _, -, _, -, _, -, version, -, _, -, description, -, engine, -, fragments,
      hfragments, tools, -, node, -, _, -, prompts, -, _, -, h⟩ := h
    obtain rfl := Except.ok.inj h
    exact fragmentsOf_of_readFragments hfragments
  | _ => cases h

/-- A marker is read as one exactly where its name is a symbol. -/
lemma scan_marker_iff {name : String} :
    Template.scan .default (Segment.marker name) = [.fragment name] ↔ Name.IsSymbol name := by
  constructor
  · intro h
    have hmem : .fragment name ∈ Template.scan .default (Segment.marker name) := by simp [h]
    exact Name.isSymbol_iff.mp (Template.isPlaceholder_of_mem_scan hmem (by simp [Segment.isText]))
  · intro h
    have hplace : (Segment.fragment name).IsPlaceholder := Name.isSymbol_iff.mpr h
    have hstart := Template.startsWith_raw Delimiters.apartFromNames_default hplace []
    rw [List.append_nil] at hstart
    exact Template.scan_eq_singleton (Template.placeholder?_eq_some.mpr hstart)

/-- The marker of a fragment resolves to what the text of the fragment resolves to. -/
lemma result_marker_iff {r : Resolver} {name text out : String} (hd : r.delimiters = .default)
    (hname : Name.IsSymbol name) (htext : r.fragments.get? name = some text) :
    (r.resolve (String.ofList (Segment.marker name))).result = .ok out ↔
      (r.resolve text).result = .ok out := by
  have hscan : r.scan (String.ofList (Segment.marker name)) = [.fragment name] := by
    rw [Resolver.scan, hd, String.toList_ofList]
    exact scan_marker_iff.mpr hname
  have hexpands : r.Expands (String.ofList (Segment.marker name)) out ↔ r.Expands text out := by
    simp only [Resolver.Expands, hscan, Fragments.inlines_singleton (Resolver.get?_bodies htext)]
  rw [Resolver.result_eq_ok_iff, Resolver.result_eq_ok_iff, hexpands]

/-- **Which fragments can be put in.** A pack that is read has the fragments of its document, with
their names and texts. With double braces, the marker of a fragment is read as such exactly where
the name is a symbol: then the marker resolves to a text exactly where the text of the fragment
does, and to the same one, and otherwise no template has a marker of the fragment. -/
theorem includable_iff_isSymbol {doc : Json} {pack : Pack} (h : (readPack doc).result = .ok pack)
    (hd : pack.engine.delimiters = .default) :
    FragmentsOf (fragmentMembers doc) pack.fragments ∧
    ∀ name text, pack.fragment? name = some text →
      (Template.scan .default (Segment.marker name) = [.fragment name] ↔ Name.IsSymbol name) ∧
      (Name.IsSymbol name → ∀ out,
        ((Resolver.ofPack pack).resolve (String.ofList (Segment.marker name))).result = .ok out ↔
          ((Resolver.ofPack pack).resolve text).result = .ok out) ∧
      (¬ Name.IsSymbol name → ∀ template,
        .fragment name ∉ (Resolver.ofPack pack).scan template) := by
  refine ⟨fragmentsOf_of_readPack h, fun name text htext => ⟨scan_marker_iff, fun hname out => ?_,
    fun hname template hmem => hname ?_⟩⟩
  · exact result_marker_iff hd hname htext
  · exact Name.isSymbol_iff.mp (Template.isPlaceholder_of_mem_scan hmem (by simp [Segment.isText]))

/-! ### Two names for a fragment -/

/-- A document with a prompt and with one fragment of the given name. -/
def signed (name : String) : Json :=
  .object [("id", .string "demo"), ("name", .string "Demo"), ("version", .string "1.0.0"),
    ("fragments", .object [(name, .string "Bye.")]),
    ("prompts", .object [("main", .object [("id", .string "main"), ("name", .string "Main"),
      ("version", .string "1.0.0")])])]

def signedPack (name : String) : Pack where
  id := "demo"
  name := "Demo"
  version := "1.0.0"
  prompts := NameMap.ofList [("main", { id := "main", name := "Main", version := "1.0.0" })]
  fragments := NameMap.ofList [(name, "Bye.")]

lemma result_signed_symbol :
    (readPack (signed "sign_off")).result = .ok (signedPack "sign_off") := by rfl

lemma result_signed_dash :
    (readPack (signed "sign-off")).result = .ok (signedPack "sign-off") := by rfl

theorem includable_sign_off :
    (readPack (signed "sign_off")).result = .ok (signedPack "sign_off") ∧
    (signedPack "sign_off").engine.delimiters = .default ∧
    (signedPack "sign_off").fragment? "sign_off" = some "Bye." ∧ Name.IsSymbol "sign_off" ∧
    Template.scan .default (Segment.marker "sign_off") = [.fragment "sign_off"] ∧
    ((Resolver.ofPack (signedPack "sign_off")).resolve
      (String.ofList (Segment.marker "sign_off"))).result = .ok "Bye." := by
  have hsymbol : Name.IsSymbol "sign_off" := Name.isSymbol_iff.mp (by decide)
  obtain ⟨hfragments, hincludable⟩ := includable_iff_isSymbol result_signed_symbol rfl
  have htext : (signedPack "sign_off").fragment? "sign_off" = some "Bye." :=
    (hfragments.texts "sign_off" "Bye.").mpr rfl
  obtain ⟨hscan, hresolve, -⟩ := hincludable "sign_off" "Bye." htext
  refine ⟨result_signed_symbol, rfl, htext, hsymbol, hscan.mpr hsymbol, ?_⟩
  refine (hresolve hsymbol "Bye.").mpr (Resolver.result_eq_ok_iff.mpr ⟨?_, by decide⟩)
  have hbye : (Resolver.ofPack (signedPack "sign_off")).scan "Bye." = [.text "Bye.".toList] :=
    Template.scan_eq_text (by decide) (by decide)
  exact Resolver.expands_self (by simp [hbye])

/-- A fragment of the pack whose marker stays as it is written. -/
theorem not_includable_sign_off :
    (readPack (signed "sign-off")).result = .ok (signedPack "sign-off") ∧
    (signedPack "sign-off").engine.delimiters = .default ∧
    (signedPack "sign-off").fragment? "sign-off" = some "Bye." ∧
    Template.scan .default (Segment.marker "sign-off") = [.text (Segment.marker "sign-off")] ∧
    ((Resolver.ofPack (signedPack "sign-off")).resolve
      (String.ofList (Segment.marker "sign-off"))).result =
        .ok (String.ofList (Segment.marker "sign-off")) := by
  have hscan : Template.scan .default (Segment.marker "sign-off") =
      [.text (Segment.marker "sign-off")] := Template.scan_eq_text (by decide) (by decide)
  refine ⟨result_signed_dash, rfl, by decide, hscan, ?_⟩
  refine Resolver.result_eq_ok_iff.mpr ⟨Resolver.expands_self ?_, by decide⟩
  have hmarker : (Resolver.ofPack (signedPack "sign-off")).scan
      (String.ofList (Segment.marker "sign-off")) = [.text (Segment.marker "sign-off")] := by
    rw [Resolver.scan, String.toList_ofList]
    exact hscan
  simp [hmarker]

end Document

end PromptKit
