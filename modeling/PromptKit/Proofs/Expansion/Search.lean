import PromptKit.Proofs.Expansion.Limit

/-!
What the search for missing fragments comes to.

The search ends on every graph of fragments, whatever its cycles. It enters a fragment once and
leaves no reference behind: one that it comes upon is missing and goes into the result, or leads
into a fragment that has been entered, or is still ahead. So it finds the missing fragments within
reach, each once. Where a template resolves, these are the references that were copied, in the
order in which they were.
-/

namespace PromptKit

namespace Fragments

variable {fs : Fragments} {segments : List Segment} {n : String}

/-- The fragment `n` is not defined, and the segments refer to it or reach a defined fragment
whose body does. -/
def Lacks (fs : Fragments) (segments : List Segment) (n : String) : Prop :=
  fs.get? n = none ∧ (.fragment n ∈ segments ∨
    ∃ m body, fs.get? m = some body ∧ fs.Reaches segments m ∧ .fragment n ∈ body)

lemma lacks_iff : fs.Lacks segments n ↔ fs.get? n = none ∧ fs.Reaches segments n := by
  refine and_congr_right fun _ => ?_
  constructor
  · rintro (hn | ⟨m, body, hm, ⟨k, hk, hreach⟩, hn⟩)
    · exact ⟨n, hn, Relation.ReflTransGen.refl⟩
    · exact ⟨k, hk, hreach.tail ⟨body, hm, hn⟩⟩
  · rintro ⟨k, hk, hreach⟩
    rcases Relation.ReflTransGen.cases_tail hreach with rfl | ⟨m, hm, ⟨body, hbody, hn⟩⟩
    · exact .inl hk
    · exact .inr ⟨m, body, hbody, ⟨k, hk, hm⟩, hn⟩

end Fragments

namespace Expansion

open Fragments

variable {fs : Fragments} {seen found : List String} {segments : List Segment} {n : String}

/-! ### Only what is missing and in reach -/

/-- A name that is found is in the result from then on. -/
lemma mem_found_iff {m : String} :
    (n ∈ if m ∈ found then found else found ++ [m]) ↔ n ∈ found ∨ n = m := by
  split
  · rename_i hm
    exact ⟨.inl, fun h => h.elim id fun h => h ▸ hm⟩
  · rw [List.mem_append, List.mem_singleton]

lemma nodup_missingFrom (h : found.Nodup) : (missingFrom fs seen found segments).Nodup := by
  fun_induction missingFrom fs seen found segments with
  | case1 seen found => exact h
  | case2 seen found n rest hn ih =>
    refine ih ?_
    split
    · exact h
    · rename_i hmem
      exact List.nodup_append.mpr ⟨h, List.nodup_singleton n, by
        rintro a ha b hb rfl
        exact hmem (List.mem_singleton.mp hb ▸ ha)⟩
  | case3 seen found n rest body hn hmem ih => exact ih h
  | case4 seen found n rest body hn hmem ih => exact ih h
  | case5 seen found s rest hs ih => exact ih h

/-- **Soundness**: the search adds what is missing and in reach. -/
lemma mem_or_reaches_of_mem_missingFrom (h : n ∈ missingFrom fs seen found segments) :
    n ∈ found ∨ fs.get? n = none ∧ fs.Reaches segments n := by
  fun_induction missingFrom fs seen found segments with
  | case1 seen found => exact .inl h
  | case2 seen found m rest hm ih =>
    rcases ih h with hn | ⟨hn, hreach⟩
    · rcases mem_found_iff.mp hn with hn | rfl
      · exact .inl hn
      · exact .inr ⟨hm, reaches_self n rest⟩
    · exact .inr ⟨hn, reaches_of_rest hreach⟩
  | case3 seen found m rest body hm hmem ih =>
    exact (ih h).imp_right fun ⟨hn, hreach⟩ => ⟨hn, reaches_of_rest hreach⟩
  | case4 seen found m rest body hm hmem ih =>
    refine (ih h).imp_right fun ⟨hn, k, hk, hreach⟩ => ⟨hn, ?_⟩
    rcases List.mem_append.mp hk with hk | hk
    · exact reaches_of_body hm ⟨k, hk, hreach⟩
    · exact reaches_of_rest ⟨k, hk, hreach⟩
  | case5 seen found s rest hs ih =>
    exact (ih h).imp_right fun ⟨hn, hreach⟩ => ⟨hn, reaches_of_rest hreach⟩

/-! ### All of it -/

/-- A reference to `n` is still ahead of the search, or has been dealt with: `n` is missing and
was found, or it is defined and was entered. -/
def Noted (fs : Fragments) (seen found : List String) (segments : List Segment) (n : String) :
    Prop :=
  .fragment n ∈ segments ∨ fs.get? n = none ∧ n ∈ found ∨ fs.contains n ∧ n ∈ seen

/-- Whatever a fragment mentions that was entered is noted. -/
def LeavesNothing (fs : Fragments) (seen found : List String) (segments : List Segment) : Prop :=
  ∀ m ∈ seen, ∀ n, fs.Mentions m n → Noted fs seen found segments n

/-- A step may move what is noted from one place to another. -/
lemma LeavesNothing.mono {found' : List String} {segments' : List Segment}
    (h : LeavesNothing fs seen found segments)
    (hnoted : ∀ n, Noted fs seen found segments n → Noted fs seen found' segments' n) :
    LeavesNothing fs seen found' segments' :=
  fun m hm n hn => hnoted n (h m hm n hn)

lemma Noted.rest {s : Segment} {rest : List Segment} (h : Noted fs seen found (s :: rest) n)
    (hs : s = .fragment n → Noted fs seen found rest n) : Noted fs seen found rest n := by
  rcases h with h | h
  · rcases List.mem_cons.mp h with h | h
    · exact hs h.symm
    · exact .inl h
  · exact .inr h

/-- A missing fragment goes into the result. -/
lemma Noted.find {m : String} {rest : List Segment}
    (h : Noted fs seen found (.fragment m :: rest) n) (hm : fs.get? m = none) :
    Noted fs seen (if m ∈ found then found else found ++ [m]) rest n := by
  rcases h with h | ⟨hn, h⟩ | h
  · rcases List.mem_cons.mp h with h | h
    · obtain rfl := Segment.fragment.inj h
      exact .inr (.inl ⟨hm, mem_found_iff.mpr (.inr rfl)⟩)
    · exact .inl h
  · exact .inr (.inl ⟨hn, mem_found_iff.mpr (.inl h)⟩)
  · exact .inr (.inr h)

/-- A fragment that is entered counts as dealt with, and its body is ahead. -/
lemma Noted.enter {m : String} {body rest : List Segment}
    (h : Noted fs seen found (.fragment m :: rest) n) (hm : fs.get? m = some body) :
    Noted fs (seen ++ [m]) found (body ++ rest) n := by
  rcases h with h | h | ⟨hn, h⟩
  · rcases List.mem_cons.mp h with h | h
    · obtain rfl := Segment.fragment.inj h
      exact .inr (.inr ⟨contains_of_get? hm, by simp⟩)
    · exact .inl (List.mem_append_right body h)
  · exact .inr (.inl h)
  · exact .inr (.inr ⟨hn, List.mem_append_left [m] h⟩)

lemma LeavesNothing.enter {m : String} {body rest : List Segment}
    (h : LeavesNothing fs seen found (.fragment m :: rest)) (hm : fs.get? m = some body) :
    LeavesNothing fs (seen ++ [m]) found (body ++ rest) := by
  intro k hk n hn
  rcases List.mem_append.mp hk with hk | hk
  · exact (h k hk n hn).enter hm
  · obtain rfl := List.mem_singleton.mp hk
    obtain ⟨body', hbody', hmem⟩ := hn
    obtain rfl := Option.some.inj (hm.symm.trans hbody')
    exact .inl (List.mem_append_left rest hmem)

/-- Where nothing is ahead, all that is in reach of what is noted has been dealt with. -/
lemma LeavesNothing.noted_of_reflTransGen (h : LeavesNothing fs seen found []) {m : String}
    (hm : Noted fs seen found [] m) (hreach : Relation.ReflTransGen fs.Mentions m n) :
    Noted fs seen found [] n := by
  induction hreach with
  | refl => exact hm
  | tail _ hmention ih =>
    obtain ⟨body, hbody, -⟩ := id hmention
    rcases ih with hk | ⟨hk, -⟩ | ⟨-, hk⟩
    · simp at hk
    · simp [hk] at hbody
    · exact h _ hk _ hmention

/-- **Completeness**: what is missing and in reach of anything noted is found. -/
lemma mem_missingFrom {m : String} (h : LeavesNothing fs seen found segments)
    (hm : Noted fs seen found segments m) (hreach : Relation.ReflTransGen fs.Mentions m n)
    (hn : fs.get? n = none) : n ∈ missingFrom fs seen found segments := by
  fun_induction missingFrom fs seen found segments with
  | case1 seen found =>
    rcases h.noted_of_reflTransGen hm hreach with hmem | ⟨-, hmem⟩ | ⟨hdefined, -⟩
    · simp at hmem
    · exact hmem
    · simp [NameMap.contains, hn] at hdefined
  | case2 seen found k rest hk ih =>
    exact ih (h.mono fun _ hnoted => hnoted.find hk) (hm.find hk)
  | case3 seen found k rest body hk hmem ih =>
    -- the reference leads into a fragment that was entered before
    have hpass : ∀ x, Noted fs seen found (.fragment k :: rest) x →
        Noted fs seen found rest x := by
      intro x hx
      refine hx.rest fun heq => ?_
      obtain rfl := Segment.fragment.inj heq
      exact .inr (.inr ⟨contains_of_get? hk, hmem⟩)
    exact ih (h.mono hpass) (hpass m hm)
  | case4 seen found k rest body hk hmem ih => exact ih (h.enter hk) (hm.enter hk)
  | case5 seen found s rest hs ih =>
    have hpass : ∀ x, Noted fs seen found (s :: rest) x → Noted fs seen found rest x :=
      fun x hx => hx.rest fun heq => absurd heq (hs x)
    exact ih (h.mono hpass) (hpass m hm)

/-- **The search is exact** on every graph. -/
theorem mem_missing_iff : n ∈ missing fs segments ↔ fs.Lacks segments n := by
  rw [lacks_iff]
  constructor
  · intro h
    exact (mem_or_reaches_of_mem_missingFrom h).resolve_left List.not_mem_nil
  · rintro ⟨hn, m, hm, hreach⟩
    exact mem_missingFrom (fun k hk => absurd hk List.not_mem_nil) (.inl hm) hreach hn

end Expansion

namespace Resolver

open Expansion Writer

variable {r : Resolver} {template out : String}

lemma notices_of_run {w : Writer}
    (h : run r.delimiters r.limit r.bodies [] {} (r.scan template) = (w, .done)) :
    (r.resolve template).notices = notices w.written.reverse := by
  unfold resolve
  rw [h]
  exact List.append_nil _

/-- A template that resolves is noted to copy the references among its pieces. -/
lemma notices_resolve (h : (r.resolve template).result = .ok out) :
    (r.resolve template).notices = notices (expand r.bodies [] (r.scan template)).pieces := by
  obtain ⟨hexpands, -⟩ := result_eq_ok_iff.mp h
  obtain ⟨hcycle, -⟩ := expands_iff.mp hexpands
  have hrun : run r.delimiters r.limit r.bodies [] {} (r.scan template) =
      write r.delimiters r.limit {} (expand r.bodies [] (r.scan template)) := run_eq [] {} _
  rw [write] at hrun
  rcases hput : putAll r.delimiters r.limit {} (expand r.bodies [] (r.scan template)).pieces
    with ⟨w, _ | s⟩
  · have hwritten := written_of_putAll hput
    rw [hput, show endingOf (expand r.bodies [] (r.scan template)) = .done by
      rw [endingOf, hcycle]] at hrun
    rw [notices_of_run hrun, hwritten, List.append_nil, List.reverse_reverse]
  · rw [hput] at hrun
    rw [result_of_run hrun] at h
    cases h

/-- The names that a template lacks: those that its fragments refer to, and that are no
fragments. -/
lemma lacks_bodies_iff {n : String} :
    r.bodies.Lacks (r.scan template) n ↔
      r.fragments.get? n = none ∧ (.fragment n ∈ r.scan template ∨
        ∃ m text, r.fragments.get? m = some text ∧ r.bodies.Reaches (r.scan template) m ∧
          .fragment n ∈ r.scan text) := by
  unfold Fragments.Lacks
  rw [get?_bodies_eq_none]
  refine and_congr_right fun _ => or_congr_right ?_
  constructor
  · rintro ⟨m, body, hm, hreach, hn⟩
    obtain ⟨text, htext, rfl⟩ := get?_bodies_eq_some.mp hm
    exact ⟨m, text, htext, hreach, hn⟩
  · rintro ⟨m, text, hm, hreach, hn⟩
    exact ⟨m, r.scan text, get?_bodies hm, hreach, hn⟩

/-- **The missing fragments are exactly those.** Whatever the cycles among the fragments, the
search gives each name once, and a name exactly where it is no fragment and the template refers to
it, or the body of a fragment that the template reaches. Where the template resolves under some
limit, its text is made of pieces, and the search gives the names of the references among them,
which are those noted to be copied, in the order of their first copies. -/
theorem missing_exact (r : Resolver) (template : String) :
    (r.missing template).Nodup ∧
    (∀ n, n ∈ r.missing template ↔
      r.fragments.get? n = none ∧ (.fragment n ∈ r.scan template ∨
        ∃ m text, r.fragments.get? m = some text ∧ r.bodies.Reaches (r.scan template) m ∧
          .fragment n ∈ r.scan text)) ∧
    ∀ limit out, (({ r with limit := limit } : Resolver).resolve template).result = .ok out →
      ∃ pieces copied, r.bodies.Inlines (r.scan template) pieces ∧ out = r.textOf pieces ∧
        copied = pieces.filterMap Segment.fragmentName? ∧
        (({ r with limit := limit } : Resolver).resolve template).notices =
          copied.map .undefinedFragment ∧
        r.missing template = copied.eraseDups := by
  refine ⟨nodup_missingFrom List.nodup_nil, fun n => ?_, fun limit out h => ?_⟩
  · exact mem_missing_iff.trans lacks_bodies_iff
  · obtain ⟨⟨pieces, hinl, hout⟩, -⟩ := result_eq_ok_iff.mp h
    have hpieces : (expand r.bodies [] (r.scan template)).pieces = pieces :=
      (inlines_expand (cycle_expand_eq_none.mpr hinl.not_reachesCycle)).unique hinl
    refine ⟨pieces, _, hinl, hout, rfl, ?_, missing_eq hinl⟩
    rw [← hpieces]
    exact notices_resolve h

/-! ### A cycle with references that lead out of it -/

/-- Two fragments that stand in each other and lack one each, and one that lacks another. -/
def leaky : Resolver where
  delimiters := twoInEachOther.delimiters
  fragments := NameMap.ofList [("a", "<fragment:b><fragment:gone>"),
    ("b", "<fragment:a><fragment:lost>"), ("c", "<fragment:lost><fragment:gone>")]

lemma reaches_leaky : leaky.bodies.Reaches (leaky.scan "<fragment:a>") "b" :=
  ⟨"a", by decide +kernel, Relation.ReflTransGen.single
    ⟨leaky.scan "<fragment:b><fragment:gone>", get?_bodies (by decide +kernel),
      by decide +kernel⟩⟩

lemma inlines_leaky :
    leaky.bodies.Inlines (leaky.scan "<fragment:gone><fragment:c><fragment:c>")
      [.fragment "gone", .fragment "lost", .fragment "gone", .fragment "lost",
        .fragment "gone"] := by
  have hscan : leaky.scan "<fragment:gone><fragment:c><fragment:c>" =
      [.fragment "gone", .fragment "c", .fragment "c"] := by decide +kernel
  have hc : leaky.bodies.get? "c" = some [.fragment "lost", .fragment "gone"] := by
    decide +kernel
  have hkeep : ∀ n, leaky.bodies.get? n = none →
      ∀ k, Segment.fragment n = .fragment k → leaky.bodies.get? k = none :=
    fun n hn k hk => Segment.fragment.inj hk ▸ hn
  have hgone := hkeep "gone" (by decide +kernel)
  have hbody : leaky.bodies.Inlines [.fragment "lost", .fragment "gone"]
      [.fragment "lost", .fragment "gone"] :=
    .keep (hkeep "lost" (by decide +kernel)) (.keep hgone .nil)
  rw [hscan]
  exact .keep hgone (.replace hc hbody (.replace hc hbody .nil))

theorem missing_exact_leaky :
    leaky.bodies.Reaches (leaky.scan "<fragment:a>") "b" ∧
    "lost" ∈ leaky.missing "<fragment:a>" ∧
    (leaky.resolve "<fragment:gone><fragment:c><fragment:c>").result =
      .ok "<fragment:gone><fragment:lost><fragment:gone><fragment:lost><fragment:gone>" ∧
    leaky.missing "<fragment:gone><fragment:c><fragment:c>" = ["gone", "lost"] := by
  have hb : leaky.fragments.get? "b" = some "<fragment:a><fragment:lost>" := by decide +kernel
  have hlost := ((missing_exact leaky "<fragment:a>").2.1 "lost").mpr
    ⟨by decide +kernel, .inr ⟨"b", _, hb, reaches_leaky, by decide +kernel⟩⟩
  have hresult : (leaky.resolve "<fragment:gone><fragment:c><fragment:c>").result =
      .ok "<fragment:gone><fragment:lost><fragment:gone><fragment:lost><fragment:gone>" :=
    result_eq_ok_iff.mpr ⟨⟨_, inlines_leaky, by decide +kernel⟩, by decide +kernel⟩
  obtain ⟨pieces, copied, hpieces, -, rfl, -, hmissing⟩ :=
    (missing_exact leaky "<fragment:gone><fragment:c><fragment:c>").2.2 leaky.limit _ hresult
  obtain rfl := hpieces.unique inlines_leaky
  exact ⟨reaches_leaky, hlost, hresult, hmissing⟩

end Resolver

end PromptKit
