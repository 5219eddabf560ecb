import PromptKit.Proofs.Template.Grammar
import PromptKit.Proofs.Text.Offset

/-!
The scan as a loop over byte offsets of the template.

The loop keeps the offset from which text is pending and the offset from which it looks for an
opening mark. Every slice that it takes is checked: one that does not begin and end between two
characters of the template would end the loop without a result. It never does, and the loop
gives the segments of `scan`.
-/

namespace PromptKit.Template

open Text (bytes splitAt? slice? find?)

/-- A segment with the slice of the template that it was read from. -/
abbrev Piece := Segment × List Char

/-- The text from one offset to another as a piece, if there is any. -/
def pending? (cs : List Char) (i j : Nat) : Option (List Piece) :=
  if i < j then (slice? i j cs).map fun t => [(.text t, t)] else some []

/-- The bytes of the first character, or one at the end of a text. -/
def headBytes : List Char → Nat
  | [] => 1
  | c :: _ => c.utf8Size

lemma headBytes_pos (cs : List Char) : 0 < headBytes cs := by
  cases cs with
  | nil => exact Nat.one_pos
  | cons c cs => exact c.utf8Size_pos

/-- What one round of the loop comes to. -/
inductive Round where
  /-- No opening mark is ahead, or no closing mark behind it. -/
  | finish
  /-- A placeholder, with its slice and the offsets where that begins and ends. -/
  | placeholder (s : Segment) (raw : List Char) (mark fin : Nat)
  /-- An opening mark of no placeholder; the search goes on one character behind its start. -/
  | skip (next : Nat)

/-- Looks for a placeholder at the first opening mark from an offset on. -/
def round? (d : Delimiters) (cs : List Char) (cursor : Nat) : Option Round := do
  let ahead ← splitAt? cursor cs
  match find? d.left ahead.2 with
  | none => pure .finish
  | some gap =>
    let mark := cursor + gap
    let inside := mark + bytes d.left
    let behind ← splitAt? inside cs
    match find? d.right behind.2 with
    | none => pure .finish
    | some n =>
      let fin := inside + n + bytes d.right
      let inner ← slice? inside (inside + n) cs
      let raw ← slice? mark fin cs
      match Segment.ofInner? inner with
      | some s => pure (.placeholder s raw mark fin)
      | none =>
        let here ← splitAt? mark cs
        pure (.skip (mark + headBytes here.2))

/-- The offset from which the search goes on after a round. -/
def Round.next? : Round → Option Nat
  | .finish => none
  | .placeholder _ _ _ fin => some fin
  | .skip next => some next

/-- A round that does not end the loop moves on, from an offset inside the template. -/
lemma lt_next_of_round? {d : Delimiters} {cs : List Char} {cursor next : Nat} {w : Round}
    (h : round? d cs cursor = some w) (hn : w.next? = some next) :
    cursor < next ∧ cursor ≤ bytes cs := by
  have hpos := Text.bytes_pos d.left_ne_nil
  simp only [round?, Option.bind_eq_bind, Option.bind_eq_some_iff, Option.pure_def] at h
  obtain ⟨q, hq, h⟩ := h
  refine ⟨?_, Text.le_bytes_of_splitAt? hq⟩
  split at h
  · cases h
    simp [Round.next?] at hn
  · simp only [Option.bind_eq_some_iff] at h
    obtain ⟨b, -, h⟩ := h
    split at h
    · cases h
      simp [Round.next?] at hn
    · simp only [Option.bind_eq_some_iff] at h
      obtain ⟨inner, -, raw, -, h⟩ := h
      split at h
      · cases h
        obtain rfl := Option.some.inj hn
        omega
      · simp only [Option.bind_eq_some_iff] at h
        obtain ⟨here, -, h⟩ := h
        cases h
        obtain rfl := Option.some.inj hn
        have := headBytes_pos here.2
        omega

/-- The pieces from two offsets on: text is pending from `start`, and an opening mark is looked
for from `cursor`. Nothing comes of a slice that cannot be taken. -/
def loop? (d : Delimiters) (cs : List Char) (start cursor : Nat) : Option (List Piece) :=
  match _h : round? d cs cursor with
  | none => none
  | some .finish => pending? cs start (bytes cs)
  | some (.placeholder s raw mark fin) => do
    let text ← pending? cs start mark
    let rest ← loop? d cs fin fin
    pure (text ++ (s, raw) :: rest)
  | some (.skip next) => loop? d cs start next
termination_by bytes cs + 1 - cursor
decreasing_by
  · have := lt_next_of_round? _h rfl
    omega
  · have := lt_next_of_round? _h rfl
    omega

/-- The scan of a template by its offsets. -/
def scanOffsets? (d : Delimiters) (cs : List Char) : Option (List Piece) := loop? d cs 0 0

variable {d : Delimiters}

/-- The pieces of segments, each with its raw text. -/
def pieces (d : Delimiters) (segments : List Segment) : List Piece :=
  segments.map fun s => (s, s.raw d)

/-! ### Text in front of a scan -/

/-- Puts a text in front of segments. -/
def glue (t : List Char) (segments : List Segment) : List Segment :=
  t.foldr Segment.consChar segments

/-- A text as segments. -/
def textOf (t : List Char) : List Segment := if t = [] then [] else [.text t]

@[simp] lemma glue_nil_left (segments : List Segment) : glue [] segments = segments := rfl

lemma glue_append (t u : List Char) (segments : List Segment) :
    glue (t ++ u) segments = glue t (glue u segments) := by
  simp [glue]

lemma glue_of_head {t : List Char} {segments : List Segment}
    (h : ∀ s ∈ segments.head?, ¬ s.isText) : glue t segments = textOf t ++ segments := by
  induction t with
  | nil => simp [glue, textOf]
  | cons c t ih =>
    have hstep : glue (c :: t) segments = Segment.consChar c (glue t segments) := rfl
    rw [hstep, ih]
    by_cases ht : t = []
    · subst ht
      cases segments with
      | nil => rfl
      | cons s post =>
        cases s with
        | text u => simp [Segment.isText] at h
        | slot name => rfl
        | fragment name => rfl
    · simp [textOf, ht, Segment.consChar]

lemma glue_of_nil (t : List Char) : glue t [] = textOf t := by
  rw [glue_of_head (by simp), List.append_nil]

/-- Where no placeholder starts there is only text. -/
lemma scan_append {t r : List Char}
    (h : ∀ k < t.length, ∀ s rest, ¬ StartsWith d s ((t ++ r).drop k) rest) :
    scan d (t ++ r) = glue t (scan d r) := by
  induction t with
  | nil => rfl
  | cons c t ih =>
    have htail : scan d (t ++ r) = glue t (scan d r) := by
      refine ih fun k hk => ?_
      simpa using h (k + 1) (by simpa using hk)
    rw [List.cons_append, scan_of_not_startsWith (by simpa using h 0 (by simp)), htail]
    rfl

lemma scan_eq_textOf {t : List Char}
    (h : ∀ k < t.length, ∀ s rest, ¬ StartsWith d s (t.drop k) rest) : scan d t = textOf t := by
  have hscan := scan_append (d := d) (t := t) (r := []) (by simpa using h)
  rw [List.append_nil, scan_nil, glue_of_nil] at hscan
  exact hscan

lemma StartsWith.left_prefix {s : Segment} {cs rest : List Char} (h : StartsWith d s cs rest) :
    d.left <+: cs := by
  rw [h.eq, List.append_assoc, List.append_assoc]
  exact List.prefix_append _ _

/-- No placeholder starts before the first opening mark. -/
lemma not_startsWith_of_cutsAt {cs gap r : List Char} (h : Text.CutsAt d.left cs gap r) :
    ∀ k < gap.length, ∀ s rest, ¬ StartsWith d s (cs.drop k) rest :=
  fun k hk _ _ hs => h.first k hk hs.left_prefix

/-- No placeholder starts where no closing mark follows the first opening mark. -/
lemma not_startsWith_of_not_infix {cs gap r : List Char} (h : Text.CutsAt d.left cs gap r)
    (hr : ¬ d.right <:+: r) : ∀ k s rest, ¬ StartsWith d s (cs.drop k) rest := by
  intro k s rest hs
  rcases Nat.lt_or_ge k gap.length with hk | hk
  · exact not_startsWith_of_cutsAt h k hk s rest hs
  · have heq := hs.eq
    rw [h.eq] at heq
    -- behind the opening mark at `k` only a part of `r` is left
    have hdrop := congrArg (List.drop d.left.length) heq
    rw [List.drop_drop, List.append_assoc, List.append_assoc, List.append_assoc, List.drop_left]
      at hdrop
    have hk' : k + d.left.length = gap.length + (d.left.length + (k - gap.length)) := by omega
    rw [hk', ← List.drop_drop, List.drop_left, ← List.drop_drop, List.drop_left] at hdrop
    refine hr (List.IsInfix.trans ⟨s.inner, rest, ?_⟩ (List.drop_suffix (k - gap.length) r).isInfix)
    rw [hdrop, List.append_assoc]

/-! ### The loop and the scan -/

lemma pending?_eq (a t r : List Char) :
    pending? (a ++ t ++ r) (bytes a) (bytes (a ++ t)) = some (pieces d (textOf t)) := by
  unfold pending? textOf
  by_cases ht : t = []
  · simp [ht, pieces]
  · have hpos := Text.bytes_pos ht
    rw [if_pos (by rw [Text.bytes_append]; omega), if_neg ht, Text.slice?_bytes]
    rfl

lemma round?_of_not_left {a r : List Char} (hl : Text.cut? d.left r = none) :
    round? d (a ++ r) (bytes a) = some .finish := by
  simp [round?, find?, Text.splitAt?_bytes, hl]

/-- A round with an opening mark ahead, behind `gap` and before `q`. -/
lemma round?_of_left {a r gap q : List Char} (hl : Text.cut? d.left r = some (gap, q)) :
    round? d (a ++ r) (bytes a) =
      match Text.cut? d.right q with
      | none => some .finish
      | some (inner, _) =>
        match Segment.ofInner? inner with
        | some s => some (.placeholder s (d.wrap inner) (bytes (a ++ gap))
            (bytes (a ++ (gap ++ d.wrap inner))))
        | none => some (.skip (bytes (a ++ gap) + headBytes (d.left ++ q))) := by
  have hr : r = gap ++ (d.left ++ q) := by simpa using Text.eq_of_cut? hl
  subst hr
  have hinside := Text.splitAt?_bytes (a ++ (gap ++ d.left)) q
  have hmark := Text.splitAt?_bytes (a ++ gap) (d.left ++ q)
  simp only [Text.bytes_append, List.append_assoc, ← Nat.add_assoc] at hinside hmark
  rcases hc : Text.cut? d.right q with _ | ⟨inner, rest⟩
  · simp [round?, find?, Text.splitAt?_bytes, hl, hinside, hc]
  · have hq : q = inner ++ (d.right ++ rest) := by simpa using Text.eq_of_cut? hc
    subst hq
    have hinner := Text.slice?_bytes (a ++ (gap ++ d.left)) inner (d.right ++ rest)
    have hraw := Text.slice?_bytes (a ++ gap) (d.wrap inner) rest
    simp only [Text.bytes_append, Delimiters.wrap, List.append_assoc, ← Nat.add_assoc]
      at hinner hraw
    rcases hs : Segment.ofInner? inner with _ | s
    · simp [round?, find?, Text.splitAt?_bytes, hl, hc, hinside, hinner, hraw, hs, hmark]
    · simp [round?, find?, Text.splitAt?_bytes, hl, hc, hinside, hinner, hraw, hs,
        Delimiters.wrap, ← Nat.add_assoc]

lemma loop?_of_finish {cs : List Char} {start cursor : Nat}
    (h : round? d cs cursor = some .finish) :
    loop? d cs start cursor = pending? cs start (bytes cs) := by
  rw [loop?]
  split <;> simp_all

lemma loop?_of_skip {cs : List Char} {start cursor next : Nat}
    (h : round? d cs cursor = some (.skip next)) :
    loop? d cs start cursor = loop? d cs start next := by
  rw [loop?]
  split <;> simp_all

lemma loop?_of_placeholder {cs raw : List Char} {start cursor mark fin : Nat} {s : Segment}
    {text rest : List Piece} (h : round? d cs cursor = some (.placeholder s raw mark fin))
    (ht : pending? cs start mark = some text) (hr : loop? d cs fin fin = some rest) :
    loop? d cs start cursor = some (text ++ (s, raw) :: rest) := by
  rw [loop?]
  split <;> simp_all

lemma placeholder?_left_append {q : List Char} :
    placeholder? d (d.left ++ q) =
      (Text.cut? d.right q).bind fun p => (Segment.ofInner? p.1).map (·, p.2) := by
  simp only [placeholder?, Text.after?_append, Option.bind_eq_bind, Option.bind_some,
    Option.pure_def, Option.map_eq_bind]
  rfl

/-- What comes of the text ahead in one round: nothing but text, text in front of what is still
ahead, or text in front of a placeholder. -/
inductive Ahead (d : Delimiters) (a r : List Char) : Prop where
  | finish
    (round : round? d (a ++ r) (bytes a) = some .finish)
    (scan : scan d r = textOf r)
  | skip (u q : List Char)
    (eq : r = u ++ q) (ne_nil : u ≠ [])
    (round : round? d (a ++ r) (bytes a) = some (.skip (bytes (a ++ u))))
    (scan : scan d r = glue u (scan d q))
  | placeholder (u : List Char) (s : Segment) (q : List Char)
    (eq : r = u ++ (s.raw d ++ q)) (isPlaceholder : s.IsPlaceholder)
    (round : round? d (a ++ r) (bytes a) = some
      (.placeholder s (s.raw d) (bytes (a ++ u)) (bytes (a ++ (u ++ s.raw d)))))
    (scan : scan d r = glue u (s :: scan d q))

/-- Up to the first opening mark there is only text. -/
lemma scan_of_cutsAt {r gap q : List Char} (h : Text.CutsAt d.left r gap q) :
    scan d r = glue gap (scan d (d.left ++ q)) := by
  have hr : r = gap ++ (d.left ++ q) := by simpa using h.eq
  have hno := not_startsWith_of_cutsAt h
  rw [hr] at hno ⊢
  exact scan_append hno

/-- A round at a mark of no placeholder passes over the text up to it and its first character. -/
lemma ahead_of_no_placeholder {a r gap q inner rest : List Char}
    (hl : Text.cut? d.left r = some (gap, q)) (hc : Text.cut? d.right q = some (inner, rest))
    (hs : Segment.ofInner? inner = none) : Ahead d a r := by
  have hcut := Text.cut?_eq_some.mp hl
  obtain ⟨c, l, hleft⟩ := List.exists_cons_of_ne_nil d.left_ne_nil
  have hround := round?_of_left (a := a) hl
  simp only [hc, hs] at hround
  have hno := placeholder?_eq_none.mp (show placeholder? d (d.left ++ q) = none by
    simp [placeholder?_left_append, hc, hs])
  refine .skip (gap ++ [c]) (l ++ q) ?_ (by simp) ?_ ?_
  · simpa [hleft] using hcut.eq
  · rw [hround]
    simp [hleft, headBytes, Nat.add_assoc]
  · rw [scan_of_cutsAt hcut, glue_append]
    rw [hleft, List.cons_append] at hno ⊢
    rw [scan_of_not_startsWith hno]
    rfl

/-- A round at the mark of a placeholder gives it and goes on behind it. -/
lemma ahead_of_placeholder {a r gap q inner rest : List Char} {s : Segment}
    (hl : Text.cut? d.left r = some (gap, q)) (hc : Text.cut? d.right q = some (inner, rest))
    (hs : Segment.ofInner? inner = some s) : Ahead d a r := by
  have hcut := Text.cut?_eq_some.mp hl
  have hround := round?_of_left (a := a) hl
  simp only [hc, hs] at hround
  obtain ⟨hsp, rfl⟩ := Segment.ofInner?_eq_some.mp hs
  have hstart := placeholder?_eq_some.mp (show placeholder? d (d.left ++ q) = some (s, rest) by
    simp [placeholder?_left_append, hc, hs])
  have hraw : s.raw d = d.wrap s.inner := Segment.raw_of_isPlaceholder hsp
  refine .placeholder gap s rest ?_ hsp ?_ ?_
  · rw [← hstart.eq_raw_append]
    simpa using hcut.eq
  · rw [hround, hraw]
  · rw [scan_of_cutsAt hcut, scan_of_startsWith hstart]

lemma ahead (d : Delimiters) (a r : List Char) : Ahead d a r := by
  rcases hl : Text.cut? d.left r with _ | ⟨gap, q⟩
  · refine .finish (round?_of_not_left hl) (scan_eq_textOf fun k _ s rest hs => ?_)
    exact Text.cut?_eq_none.mp hl
      (hs.left_prefix.isInfix.trans (List.drop_suffix k r).isInfix)
  · rcases hc : Text.cut? d.right q with _ | ⟨inner, rest⟩
    · have hno := not_startsWith_of_not_infix (Text.cut?_eq_some.mp hl) (Text.cut?_eq_none.mp hc)
      have hround := round?_of_left (a := a) hl
      rw [hc] at hround
      exact .finish hround (scan_eq_textOf fun k _ => hno k)
    · rcases hs : Segment.ofInner? inner with _ | s
      · exact ahead_of_no_placeholder hl hc hs
      · exact ahead_of_placeholder hl hc hs

/-- **What the loop keeps**: with `t` pending between its offsets and `r` ahead of them, it
gives the scan of `r` with `t` in front. -/
lemma loop?_eq (a t r : List Char) :
    loop? d (a ++ t ++ r) (bytes a) (bytes (a ++ t)) = some (pieces d (glue t (scan d r))) := by
  induction hn : r.length using Nat.strong_induction_on generalizing a t r with
  | _ n ih =>
    cases ahead d (a ++ t) r with
    | finish hround hscan =>
      have hpend := pending?_eq (d := d) a (t ++ r) []
      rw [List.append_nil, ← List.append_assoc] at hpend
      rw [loop?_of_finish hround, hpend, hscan, ← glue_of_nil (t ++ r), glue_append, glue_of_nil]
    | skip u q hr hu hround hscan =>
      have hcs : a ++ t ++ r = a ++ (t ++ u) ++ q := by simp [hr]
      have hpos := List.length_pos_of_ne_nil hu
      have hlen : q.length < n := by
        rw [← hn, hr, List.length_append]
        omega
      rw [loop?_of_skip hround, hcs, List.append_assoc a t u, ih _ hlen _ _ _ rfl, hscan,
        glue_append]
    | placeholder u s q hr hs hround hscan =>
      have hpos := List.length_pos_of_ne_nil (Segment.raw_ne_nil_of_isPlaceholder (d := d) hs)
      have hlen : q.length < n := by
        rw [← hn, hr, List.length_append, List.length_append]
        omega
      have htext := pending?_eq (d := d) a (t ++ u) (s.raw d ++ q)
      have hcs : a ++ (t ++ u) ++ (s.raw d ++ q) = a ++ t ++ r := by simp [hr]
      rw [hcs, ← List.append_assoc a t u] at htext
      -- nothing is pending behind the placeholder
      have hrest := ih _ hlen (a ++ t ++ (u ++ s.raw d)) [] q rfl
      have hcs' : a ++ t ++ (u ++ s.raw d) ++ [] ++ q = a ++ t ++ r := by simp [hr]
      rw [hcs', List.append_nil, glue_nil_left] at hrest
      have hglue : glue (t ++ u) (s :: scan d q) = textOf (t ++ u) ++ s :: scan d q :=
        glue_of_head (by simpa using Segment.not_isText_of_isPlaceholder hs)
      rw [loop?_of_placeholder hround htext hrest, hscan, ← glue_append, hglue]
      simp [pieces]

/-- The loop ends on every template, no slice of it fails, and its pieces are the scan. -/
theorem scanOffsets?_eq (d : Delimiters) (cs : List Char) :
    scanOffsets? d cs = some (pieces d (scan d cs)) :=
  loop?_eq [] [] cs

/-- **The scan is exact.** The loop over the offsets of a template ends, with every slice inside
the template and between two of its characters, and its pieces are the segments of the template,
which are the only ones that the grammar has for it. -/
theorem scan_exact (d : Delimiters) (cs : List Char) :
    scanOffsets? d cs = some (pieces d (scan d cs)) ∧
      ∀ segments, IsScan d cs segments ↔ segments = scan d cs := by
  refine ⟨scanOffsets?_eq d cs, fun segments => ⟨fun h => h.eq_scan, ?_⟩⟩
  rintro rfl
  exact isScan_scan d cs

end PromptKit.Template
