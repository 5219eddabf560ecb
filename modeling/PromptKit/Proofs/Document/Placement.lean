import PromptKit.Proofs.Document.Visible

/-!
Where a declaration stands does not matter to what is read of it.

The same declaration is read at two places: it gives the same variable, or it fails with the same
fault, and then the two paths differ in the place only. Its own name is not looked at, as it comes
from outside.
-/

namespace PromptKit

/-! ### Results up to their errors -/

section Alike

variable {ε α β γ : Type} {R R' : ε → ε → Prop}

/-- The same value twice, or two errors that are related. -/
inductive Alike (R : ε → ε → Prop) : Except ε α → Except ε α → Prop
  | ok (a : α) : Alike R (.ok a) (.ok a)
  | error {e e' : ε} (h : R e e') : Alike R (.error e) (.error e')

namespace Alike

lemma refl (hR : ∀ e, R e e) (x : Except ε α) : Alike R x x := by
  cases x with
  | ok a => exact .ok a
  | error e => exact .error (hR e)

lemma mono {x y : Except ε α} (h : Alike R x y) (hR : ∀ e e', R e e' → R' e e') :
    Alike R' x y := by
  cases h with
  | ok a => exact .ok a
  | error h => exact .error (hR _ _ h)

lemma bind {x y : Except ε α} {f g : α → Except ε β} (h : Alike R x y)
    (hfg : ∀ a, Alike R (f a) (g a)) : Alike R (x >>= f) (y >>= g) := by
  cases h with
  | ok a => exact hfg a
  | error h => exact .error h

lemma eq_ok {x y : Except ε α} {a : α} (h : Alike R x y) (hx : x = .ok a) : y = .ok a := by
  cases h with
  | ok b => exact hx
  | error h => cases hx

/-- Items that are read alike, one beside the other, make lists that are. -/
lemma mapM {f : α → Except ε γ} {g : β → Except ε γ} {xs : List α} {ys : List β}
    (h : List.Forall₂ (fun x y => Alike R (f x) (g y)) xs ys) :
    Alike R (xs.mapM f) (ys.mapM g) := by
  induction h with
  | nil => exact .ok []
  | cons hxy _ ih =>
    rw [List.mapM_cons, List.mapM_cons]
    exact hxy.bind fun _ => ih.bind fun _ => .ok _

end Alike

/-- Alike with the same notices. -/
structure Traced.Alike (R : ε → ε → Prop) (x y : Traced ε α) : Prop where
  result : PromptKit.Alike R x.result y.result
  notices : x.notices = y.notices

namespace Traced.Alike

lemma refl (hR : ∀ e, R e e) (x : Traced ε α) : Traced.Alike R x x :=
  ⟨.refl hR _, rfl⟩

lemma lift {x y : Except ε α} (h : PromptKit.Alike R x y) :
    Traced.Alike R (liftM x) (liftM y : Traced ε α) :=
  ⟨h, rfl⟩

lemma bind {x y : Traced ε α} {f g : α → Traced ε β} (h : Traced.Alike R x y)
    (hfg : ∀ a, Traced.Alike R (f a) (g a)) : Traced.Alike R (x >>= f) (y >>= g) := by
  obtain ⟨x, ns⟩ := x
  obtain ⟨y, ns'⟩ := y
  obtain ⟨hresult, rfl : ns = ns'⟩ := h
  cases hresult with
  | ok a =>
    have hnotices : ns ++ (f a).notices = ns ++ (g a).notices := by rw [(hfg a).notices]
    exact ⟨(hfg a).result, hnotices⟩
  | error h => exact ⟨.error h, rfl⟩

/-- Alike after a step that both take. -/
lemma after (hR : ∀ e, R e e) (x : Traced ε α) {f g : α → Traced ε β}
    (hfg : ∀ a, Traced.Alike R (f a) (g a)) : Traced.Alike R (x >>= f) (x >>= g) :=
  (refl hR x).bind hfg

end Traced.Alike

end Alike

namespace Document

open Node (reject rejectIf placed)

/-! ### One fault at two places -/

/-- The same fault, on the same way down from two places. -/
inductive Moved (p p' : FieldPath) : PackError → PackError → Prop
  | fault (rest : List Step) (fault : Fault) :
    Moved p p' (.invalid ⟨p.steps ++ rest⟩ fault) (.invalid ⟨p'.steps ++ rest⟩ fault)

variable {α : Type} {p p' : FieldPath} {n n' : Node} {key : String}

lemma Moved.below {e e' : PackError} (h : Moved (p.key key) (p'.key key) e e') :
    Moved p p' e e' := by
  obtain ⟨rest, fault⟩ := h
  rw [FieldPath.steps_key, FieldPath.steps_key, List.append_assoc, List.append_assoc]
  exact ⟨.key key :: rest, fault⟩

namespace Node

lemma alike_reject (p p' : FieldPath) (fault : Fault) :
    Alike (Moved p p') (reject p fault : Result α) (reject p' fault) := by
  have h : Moved p p' (.invalid ⟨p.steps ++ []⟩ fault) (.invalid ⟨p'.steps ++ []⟩ fault) :=
    .fault [] fault
  rw [List.append_nil, List.append_nil] at h
  exact .error h

lemma alike_reject_child (n n' : Node) (key : String) (fault : Fault) :
    Alike (Moved n.path n'.path) (reject (n.child key) fault : Result α)
      (reject (n'.child key) fault) :=
  (alike_reject (n.path.key key) (n'.path.key key) fault).mono fun _ _ => Moved.below

lemma alike_rejectIf_child (n n' : Node) (bad : Bool) (key : String) (fault : Fault) :
    Alike (Moved n.path n'.path) (rejectIf bad (n.child key) fault)
      (rejectIf bad (n'.child key) fault) := by
  cases bad with
  | false => exact .ok ()
  | true => exact alike_reject_child n n' key fault

lemma alike_placed (p p' : FieldPath) (check : Except Fault Unit) :
    Alike (Moved p p') (placed p check) (placed p' check) := by
  cases check with
  | ok u => exact .ok u
  | error fault => exact alike_reject p p' fault

/-! ### One member at two places -/

section Member

variable (h : n.members.present? key = n'.members.present? key)

include h

lemma alike_required : Alike (Moved n.path n'.path) (n.required key) (n'.required key) := by
  rw [required, required, h]
  cases n'.members.present? key with
  | none => exact alike_reject_child n n' key .required
  | some v => exact .ok v

lemma alike_optional (wanted : Wanted) (read : Json → Option α) :
    Alike (Moved n.path n'.path) (n.optional key wanted read) (n'.optional key wanted read) := by
  rw [optional, optional, h]
  cases n'.members.present? key with
  | none => exact .ok none
  | some v =>
    dsimp only
    cases read v with
    | none => exact alike_reject_child n n' key _
    | some a => exact .ok (some a)

lemma alike_requiredString :
    Alike (Moved n.path n'.path) (n.requiredString key) (n'.requiredString key) := by
  refine (alike_required h).bind fun v => ?_
  cases v with
  | string s => exact .ok s
  | _ => exact alike_reject_child n n' key _

lemma alike_optionalCount :
    Alike (Moved n.path n'.path) (n.optionalCount key) (n'.optionalCount key) := by
  rw [optionalCount, optionalCount, h]
  cases n'.members.present? key with
  | none => exact .ok none
  | some v =>
    cases v with
    | number x =>
      dsimp only
      cases x.toCount? with
      | none => exact alike_reject_child n n' key _
      | some k => exact .ok (some k)
    | _ => exact alike_reject_child n n' key _

/-- A reader of objects that does not mind their place reads an optional one alike. -/
lemma alike_ofObject (absent : α) {read : Node → Result α}
    (hread : ∀ ms p p', Alike (Moved p p') (read ⟨ms, p⟩) (read ⟨ms, p'⟩)) :
    Alike (Moved n.path n'.path) (n.ofObject key absent read) (n'.ofObject key absent read) := by
  rw [ofObject, ofObject, optionalObject, optionalObject, optional, optional, h]
  cases n'.members.present? key with
  | none => exact .ok absent
  | some v =>
    cases v with
    | object ms => exact (hread ms _ _).mono fun _ _ => Moved.below
    | _ => exact alike_reject_child n n' key _

end Member

end Node

/-! ### Declarations -/

lemma alike_readPattern (h : n.members.present? "pattern" = n'.members.present? "pattern") :
    Alike (Moved n.path n'.path) (readPattern n) (readPattern n') := by
  refine (Node.alike_optional h _ _).bind fun s => ?_
  cases s with
  | none => exact .ok none
  | some s =>
    dsimp only
    cases Regex.compile s with
    | ok r => exact .ok (some r)
    | error e => exact Node.alike_reject_child n n' "pattern" _

lemma alike_checkLengths (n n' : Node) (least most : Option Nat) :
    Alike (Moved n.path n'.path) (checkLengths n least most) (checkLengths n' least most) := by
  cases least with
  | none => exact .ok ()
  | some least =>
    cases most with
    | none => exact .ok ()
    | some most => exact Node.alike_rejectIf_child n n' _ "min_length" _

lemma alike_readRules (ms : Members) (p p' : FieldPath) :
    Alike (Moved p p') (readRules ⟨ms, p⟩) (readRules ⟨ms, p'⟩) := by
  have h (key : String) :
      (Node.mk ms p).members.present? key = (Node.mk ms p').members.present? key := rfl
  refine (alike_readPattern (h "pattern")).bind fun pattern => ?_
  refine (Node.alike_optionalCount (h "min_length")).bind fun minLength => ?_
  refine (Node.alike_optionalCount (h "max_length")).bind fun maxLength => ?_
  refine (alike_checkLengths ⟨ms, p⟩ ⟨ms, p'⟩ minLength maxLength).bind fun _ => ?_
  refine (Node.alike_optional (h "minimum") _ _).bind fun minimum => ?_
  refine (Node.alike_optional (h "maximum") _ _).bind fun maximum => ?_
  exact (Node.alike_optional (h "enum") _ _).bind fun allowed => .ok _

lemma alike_readType (h : n.members.present? "type" = n'.members.present? "type") :
    Alike (Moved n.path n'.path) (readType n) (readType n') := by
  refine (Node.alike_requiredString h).bind fun name => ?_
  cases ValueType.ofName? name with
  | none => exact Node.alike_reject_child n n' "type" _
  | some t => exact .ok t

lemma alike_readPresence
    (hrequired : n.members.present? "required" = n'.members.present? "required")
    (hdefault : n.members.present? "default" = n'.members.present? "default") (t : ValueType) :
    Alike (Moved n.path n'.path) (readPresence n t) (readPresence n' t) := by
  refine (Node.alike_optional hrequired _ _).bind fun required => ?_
  rw [bind_ofJson?_get?, bind_ofJson?_get?, hdefault]
  cases required.getD false with
  | true =>
    cases (n'.members.present? "default").bind Value.ofJson? with
    | none => exact .ok Presence.required
    | some d => exact Node.alike_reject_child n n' "default" _
  | false =>
    cases (n'.members.present? "default").bind Value.ofJson? with
    | none => exact .ok Presence.optional
    | some d =>
      dsimp only
      cases convert? t d with
      | none => exact Node.alike_reject_child n n' "default" _
      | some d => exact .ok (Presence.default d)

/-- What is read of a declaration does not depend on its place, nor on the name inside it. -/
lemma alike_readVariable (n n' : Node) (name : String)
    (h : ∀ key, key ≠ "name" → n.members.present? key = n'.members.present? key) :
    Alike (Moved n.path n'.path) (readVariable name n) (readVariable name n') := by
  refine (Node.alike_placed n.path n'.path _).bind fun _ => ?_
  refine (alike_readType (h "type" (by decide))).bind fun type => ?_
  refine (Node.alike_optional (h "description" (by decide)) _ _).bind fun description => ?_
  refine (alike_readPresence (h "required" (by decide)) (h "default" (by decide)) type).bind
    fun presence => ?_
  exact (Node.alike_ofObject (h "validation" (by decide)) _ alike_readRules).bind fun rules => .ok _

end Document

end PromptKit
