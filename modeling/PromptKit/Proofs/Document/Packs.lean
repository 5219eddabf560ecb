import PromptKit.Proofs.Document.Prompts

/-!
Every pack that a document gives is well-formed.
-/

namespace PromptKit.Document

lemma eq_string_of_beq {v : Json} {s : String} (h : (v == Json.string s) = true) :
    v = .string s := by
  cases v with
  | string t =>
    have ht : (t == s) = true := h
    rw [beq_iff_eq.mp ht]
  | null => cases h
  | bool b => cases h
  | number n => cases h
  | array items => cases h
  | object members => cases h

/-! ### Tools -/

lemma type_of_checkSchemaType {path : FieldPath} {ps : Members} {u : Unit}
    (h : checkSchemaType path ps = .ok u) :
    ∀ v, ps.get? "type" = some v → v = .string "object" := by
  intro v hv
  simp only [checkSchemaType, hv, Node.rejectIf_eq_ok] at h
  exact eq_string_of_beq (by simpa [bne] using h)

lemma exists_not_isBlank {s : String} (h : Text.allBlank s = false) :
    ∃ c ∈ s.toList, ¬ Text.isBlank c := by
  simpa [Text.allBlank] using h

lemma wellFormed_of_readTool {path : FieldPath} {m : String × Json} {t : Tool}
    (h : readTool path m = .ok t) : t.WellFormed := by
  simp only [readTool, bind_eq_ok, Node.placed_eq_ok, Node.shaped_eq_ok, Node.rejectIf_eq_ok,
    pure_eq_ok] at h
  obtain ⟨shape, -, _, hname, _, -, _, hdescription, _, hparameters, rfl⟩ := h
  exact {
    name := Name.isSymbol_of_checkSymbol hname
    description := exists_not_isBlank hdescription
    type := type_of_checkSchemaType hparameters }

lemma wellFormed_of_readTools {root : Node} {ts : List Tool} (h : readTools root = .ok ts) :
    ∀ t ∈ ts, t.WellFormed := by
  intro t ht
  rcases Node.eq_or_exists_of_ofObject h with rfl | ⟨n, hn⟩
  · cases ht
  · obtain ⟨m, -, hm⟩ := exists_of_mapM_eq_ok hn t ht
    exact wellFormed_of_readTool hm

/-! ### Packs -/

lemma wellFormed_of_readRoot {root : Node} {pack : Pack}
    (h : (readRoot root).result = .ok pack) : pack.WellFormed := by
  simp only [readRoot, Traced.result_bind, Traced.result_lift, Traced.result_pure, bind_eq_ok,
    Node.placed_eq_ok, Node.rejectIf_eq_ok] at h
  obtain ⟨id, -, _, hid, name, -, _, -, version, -, _, -, description, -, engine, -, fragments, -,
    tools, htools, node, -, _, hnonempty, prompts, hprompts, _, -, h⟩ := h
  obtain rfl := Except.ok.inj h
  obtain ⟨hpackId, hlength⟩ := Name.isPackId_of_checkPackId hid
  obtain ⟨hdistinct, hplaced⟩ := Pack.placeTools_spec tools
  obtain ⟨hcount, hwf⟩ := wellFormed_of_readPrompts hprompts
  have hne : prompts ≠ [] := by
    rintro rfl
    have hmembers : node.members = [] :=
      List.eq_nil_of_length_eq_zero (by simpa using hcount.symm)
    simp [hmembers] at hnonempty
  exact {
    id := hpackId
    id_length := hlength
    nonempty := NameMap.exists_get?_ofList hne
    tools := fun t ht => wellFormed_of_readTools htools t (hplaced t ht)
    distinct := hdistinct
    left := engine.delimiters.left_ne_nil
    right := engine.delimiters.right_ne_nil
    prompts := fun name q hq => hwf _ (NameMap.mem_of_get?_ofList hq) }

/-- **Every accepted document gives a well-formed pack.** -/
theorem wellFormed_of_readPack {doc : Json} {pack : Pack}
    (h : (readPack doc).result = .ok pack) : pack.WellFormed := by
  cases doc with
  | object ms => exact wellFormed_of_readRoot h
  | null => cases h
  | bool b => cases h
  | number n => cases h
  | string s => cases h
  | array items => cases h

/-- A document of a tool and of a prompt; the default is written as a number and read as text. -/
def demo : Json :=
  .object [("id", .string "demo"), ("name", .string "Demo"), ("version", .string "1.0.0"),
    ("tools", .object [("search", .object [("description", .string "Searches.")])]),
    ("prompts", .object [("main", .object [("id", .string "main"), ("name", .string "Main"),
      ("version", .string "1.0.0"),
      ("variables", .object [("topic", .object [("type", .string "string"),
        ("default", .number (.int 3))])]),
      ("parameters", .object [("seed", .number (.int 7))])])])]

def demoPrompt : Prompt where
  id := "main"
  name := "Main"
  version := "1.0.0"
  declared := [{ name := "topic", type := .string, presence := .default (.string "3") }]
  parameters := NameMap.ofList [("seed", .number (.int 7))]

def demoPack : Pack where
  id := "demo"
  name := "Demo"
  version := "1.0.0"
  prompts := NameMap.ofList [("main", demoPrompt)]
  tools := [⟨"search", "Searches.", Tool.noParameters⟩]

theorem wellFormed_of_readPack_demo :
    (readPack demo).result = .ok demoPack ∧ demoPack.WellFormed := by
  have hread : (readPack demo).result = .ok demoPack := by rfl
  exact ⟨hread, wellFormed_of_readPack hread⟩

end PromptKit.Document
