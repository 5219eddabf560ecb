import Mathlib.Algebra.Group.Int.Defs
import PromptKit.Inputs
import PromptKit.Proofs.Document.Visible
import PromptKit.Proofs.Text.Numeral

/-!
Defaults that are whole numbers.

A default may be written as a number or as a text, whatever the type of its variable. A whole
number of 63 bits with its sign is the same in both forms. Above that a text stands for a double,
so it is not the number that it writes.
-/

namespace PromptKit.Document

open Node (reject)

/-! ### A declaration with a default -/

variable {n : Node} {name key : String} {v : Variable} {w : Value} {t : ValueType}

lemma ofJson?_get?_set (n : Node) (key : String) (w : Value) :
    ((n.set key w.toJson).members.get? key).bind Value.ofJson? = some w := by
  rw [Node.set, Members.get?_set, if_pos rfl]
  exact Value.ofJson?_toJson w

lemma readPresence_set_default (h : readPresence n t = .ok .optional) (w : Value) :
    readPresence (n.set "default" w.toJson) t =
      match convert? t w with
      | some d => .ok (.default d)
      | none => reject (n.child "default") (.defaultConversion t) := by
  obtain ⟨required, hrequired, h⟩ := bind_eq_ok.mp h
  have hflag : required.getD false = false := by
    split at h
    · cases h
    · cases h
    · assumption
    · assumption
  have hsees : (n.set "default" w.toJson).Agree n "required" := Node.agree_set (by decide)
  have hrequired' : (n.set "default" w.toJson).optionalBool "required" = pure required := by
    rw [Node.optionalBool, hsees.optional]
    exact hrequired
  rw [readPresence, hrequired', pure_bind, hflag, ofJson?_get?_set]
  rfl

/-- An optional variable that is given a default has it as a value of its type, if it can be
converted. -/
lemma readVariable_set_default (h : readVariable name n = .ok v) (hopt : v.presence = .optional)
    (w : Value) :
    readVariable name (n.set "default" w.toJson) =
      match convert? v.type w with
      | some d => .ok (v.withDefault d)
      | none => reject (n.child "default") (.defaultConversion v.type) := by
  simp only [readVariable, bind_eq_ok, pure_eq_ok] at h
  obtain ⟨u, hname, type, htype, description, hdescription, presence, hpresence, rules, hrules,
    rfl⟩ := h
  obtain rfl : presence = .optional := hopt
  have hsees (key : String) (hkey : key ≠ "default") : (n.set "default" w.toJson).Agree n key :=
    Node.agree_set hkey
  have htype' : readType (n.set "default" w.toJson) = pure type :=
    (readType_eq (hsees "type" (by decide))).trans htype
  have hdescription' :
      (n.set "default" w.toJson).optionalString "description" = pure description := by
    rw [Node.optionalString, (hsees "description" (by decide)).optional]
    exact hdescription
  have hrules' : (n.set "default" w.toJson).ofObject "validation" {} readRules = pure rules := by
    rw [(hsees "validation" (by decide)).ofObject]
    exact hrules
  have hpresence' := readPresence_set_default hpresence w
  have hpath : (n.set "default" w.toJson).path = n.path := rfl
  rw [readVariable, hpath, hname, htype', pure_bind, hdescription', pure_bind, hpresence', hrules']
  cases convert? type w with
  | none => rfl
  | some d => rfl

/-! ### Whole numbers in texts -/

/-- A text that is a whole number in decimal, with blanks around it. -/
def Writes (k : Int) (s : String) : Prop :=
  ∃ before after : List Char, (∀ c ∈ before, Text.isBlank c) ∧ (∀ c ∈ after, Text.isBlank c) ∧
    s.toList = before ++ (toString k).toList ++ after

variable {k : Int} {w : Whole} {s : String}

lemma writes_toString (k : Int) : Writes k (toString k) := ⟨[], [], by simp⟩

lemma Writes.trim_eq (h : Writes k s) : Text.trim s.toList = (toString k).toList := by
  obtain ⟨before, after, hbefore, hafter, hs⟩ := h
  rw [hs]
  have htrimmed : Text.Trimmed (toString k).toList :=
    Text.trimmed_of_solid fun c hc => Decimal.not_isBlank_of_mem_toString hc
  exact htrimmed.trim_padded hbefore hafter

lemma wholeNumber?_toString (w : Whole) :
    wholeNumber? (toString w.val).toList = if w.val < 2 ^ 63 then some w else none := by
  rw [wholeNumber?, Decimal.integer?_toString, Option.bind_some, Whole.ofInt?_val, Option.filter]
  simp

/-- A whole number of 63 bits with its sign is read as itself. -/
lemma Writes.numberOfText?_eq_int (h : Writes w.val s) (hlt : w.val < 2 ^ 63) :
    numberOfText? s = some (.int w) := by
  rw [numberOfText?, h.trim_eq, wholeNumber?_toString, if_pos hlt]

/-- A larger one is read as the double nearest to it. -/
lemma Writes.numberOfText?_eq_float (h : Writes w.val s) (hge : 2 ^ 63 ≤ w.val) :
    numberOfText? s = Number.ofFloat? (Decimal.nearest w.toNat 0) := by
  have hdigits : (toString w.val).toList = Nat.toDigits 10 w.toNat := by
    rw [Decimal.toList_toString_int, if_pos (by omega)]
    rfl
  rw [numberOfText?, h.trim_eq, wholeNumber?_toString, if_neg (Int.not_lt.mpr hge)]
  simp only [hdigits, Decimal.read?_toDigits, Option.bind_some]

lemma ofFloat?_ne_int (x : Float) (w : Whole) : Number.ofFloat? x ≠ some (.int w) := by
  unfold Number.ofFloat?
  split
  · simp
  · simp

lemma convert?_text (s : String) :
    convert? .number (.string s) = (numberOfText? s).map .number := rfl

lemma convert?_number (x : Number) : convert? .number (.number x) = some (.number x) := rfl

lemma convert?_number_to_string (w : Whole) :
    convert? .string (.number (.int w)) = some (.string (toString w.val)) := rfl

/-- A text that writes a whole number is converted to it where 63 bits hold it. -/
lemma convert?_written_iff (hs : Writes w.val s) :
    convert? .number (.string s) = some (.number (.int w)) ↔ w.val < 2 ^ 63 := by
  rw [convert?_text]
  constructor
  · intro h
    by_contra hge
    rw [hs.numberOfText?_eq_float (Int.not_lt.mp hge)] at h
    obtain ⟨x, hx, heq⟩ := Option.map_eq_some_iff.mp h
    obtain rfl : x = .int w := Value.number.inj heq
    exact ofFloat?_ne_int _ w hx
  · intro hlt
    rw [hs.numberOfText?_eq_int hlt, Option.map_some]

/-- A declaration is read with the default that its text is converted to, and no other. -/
lemma readVariable_text_iff (h : readVariable name n = .ok v) (hopt : v.presence = .optional)
    (htype : v.type = .number) {d : Value} :
    readVariable name (n.set "default" (.string s)) = .ok (v.withDefault d) ↔
      convert? .number (.string s) = some d := by
  rw [← Value.toJson, readVariable_set_default h hopt (.string s), htype]
  constructor
  · intro heq
    rcases hd : convert? .number (.string s) with _ | d'
    · rw [hd] at heq
      exact absurd heq Node.reject_ne_ok
    · rw [hd] at heq
      have hdefault := congrArg Variable.default? (Except.ok.inj heq)
      simpa using hdefault
  · intro hd
    rw [hd]

/-! ### Whole numbers as defaults -/

/-- What becomes of a whole number that is given as a default to a declaration without one. -/
structure IntegerDefault (name : String) (n : Node) (v : Variable) (w : Whole) : Prop where
  /-- As a number it is kept. -/
  literal : v.type = .number →
    readVariable name (n.set "default" (.number (.int w))) =
      .ok (v.withDefault (.number (.int w)))
  /-- As a text it is the same exactly up to 63 bits. -/
  written : v.type = .number → ∀ s, Writes w.val s →
    (readVariable name (n.set "default" (.string s)) = .ok (v.withDefault (.number (.int w))) ↔
      w.val < 2 ^ 63)
  /-- A text of more bits stands for a double. -/
  rounded : v.type = .number → 2 ^ 63 ≤ w.val → ∀ s, Writes w.val s →
    readVariable name (n.set "default" (.string s)) =
      match Number.ofFloat? (Decimal.nearest w.toNat 0) with
      | some x => .ok (v.withDefault (.number x))
      | none => reject (n.child "default") (.defaultConversion .number)
  /-- A variable for texts has its digits, which stand for it up to 63 bits. -/
  textual : v.type = .string →
    readVariable name (n.set "default" (.number (.int w))) =
      .ok (v.withDefault (.string (toString w.val)))
  back : convert? .number (.string (toString w.val)) = some (.number (.int w)) ↔ w.val < 2 ^ 63
  /-- It is shown by its digits where the variable is left out. -/
  shown : ∀ inputs : Inputs, inputs.get? v.name = none →
    inputs.textOf (v.withDefault (.number (.int w))) = toString w.val

/-- **Whole numbers as defaults.** Take a declaration that is read and has no default, and a whole
number from `-2 ^ 63` to below `2 ^ 64`, which a JSON number holds. The number means the same
written as a number and as a text exactly when it has 63 bits and a sign; above that the text
stands for a double. A variable for texts gets the digits of the number, and these stand for the
number under the same condition. -/
theorem integer_default {name : String} {n : Node} {v : Variable} {k : Int}
    (h : readVariable name n = .ok v) (hopt : v.presence = .optional) (low : -2 ^ 63 ≤ k)
    (high : k < 2 ^ 64) : ∃ w : Whole, w.val = k ∧ IntegerDefault name n v w := by
  obtain ⟨w, rfl⟩ : ∃ w : Whole, w.val = k :=
    ⟨⟨k, by simpa using low, by simpa using high⟩, rfl⟩
  have hset := readVariable_set_default h hopt
  refine ⟨w, rfl, {
    literal := fun htype => ?_
    written := fun htype s hs => ?_
    rounded := fun htype hge s hs => ?_
    textual := fun htype => ?_
    back := convert?_written_iff (writes_toString w.val)
    shown := fun inputs hinputs => ?_ }⟩
  · exact (hset (.number (.int w))).trans (by rw [htype, convert?_number])
  · rw [readVariable_text_iff h hopt htype, convert?_written_iff hs]
  · refine (hset (.string s)).trans ?_
    rw [htype, convert?_text, hs.numberOfText?_eq_float hge]
    cases Number.ofFloat? (Decimal.nearest w.toNat 0) with
    | none => rfl
    | some x => rfl
  · exact (hset (.number (.int w))).trans (by rw [htype, convert?_number_to_string])
  · have hname : (v.withDefault (.number (.int w))).name = v.name := rfl
    rw [Inputs.textOf, hname, hinputs, Variable.default?_withDefault]
    rfl

/-! ### A declaration at both ends of the range -/

/-- A declaration without a default. -/
def seats : Node := ⟨[("type", .string "number"), ("required", .bool false)], .root⟩

def seatsVariable : Variable where
  name := "seats"
  type := .number

/-- The least whole number of a JSON number. -/
def least : Whole := ⟨-9223372036854775808, by decide, by decide⟩

/-- The greatest whole number of a JSON number. -/
def greatest : Whole := ⟨18446744073709551615, by decide, by decide⟩

lemma readVariable_seats : readVariable "seats" seats = .ok seatsVariable := rfl

lemma writes_least : Writes least.val " -9223372036854775808\n" :=
  ⟨[' '], ['\n'], List.forall_mem_singleton.mpr (by decide),
    List.forall_mem_singleton.mpr (by decide), by decide⟩

theorem integer_default_seats :
    readVariable "seats" seats = .ok seatsVariable ∧ seatsVariable.presence = .optional ∧
    (-2 ^ 63 : Int) ≤ -9223372036854775808 ∧ (-9223372036854775808 : Int) < 2 ^ 64 ∧
    readVariable "seats" (seats.set "default" (.number (.int least))) =
      .ok (seatsVariable.withDefault (.number (.int least))) ∧
    readVariable "seats" (seats.set "default" (.string " -9223372036854775808\n")) =
      .ok (seatsVariable.withDefault (.number (.int least))) ∧
    Inputs.textOf .empty (seatsVariable.withDefault (.number (.int least))) =
      "-9223372036854775808" := by
  obtain ⟨w, hw, hdefault⟩ := integer_default readVariable_seats rfl (k := -9223372036854775808)
    (by decide) (by decide)
  obtain rfl : w = least := Whole.ext hw
  exact ⟨readVariable_seats, rfl, by decide, by decide, hdefault.literal rfl,
    (hdefault.written rfl _ writes_least).mpr (by decide), hdefault.shown .empty rfl⟩

/-- The largest whole number of 64 bits, as a number and as a text. -/
theorem integer_default_of_64_bits :
    readVariable "seats" (seats.set "default" (.number (.int greatest))) =
      .ok (seatsVariable.withDefault (.number (.int greatest))) ∧
    Writes 18446744073709551615 "18446744073709551615" ∧
    readVariable "seats" (seats.set "default" (.string "18446744073709551615")) ≠
      .ok (seatsVariable.withDefault (.number (.int greatest))) ∧
    convert? .number (.string "18446744073709551615") ≠ some (.number (.int greatest)) := by
  have hwrites : Writes greatest.val "18446744073709551615" :=
    writes_toString 18446744073709551615
  have hconvert : convert? .number (.string "18446744073709551615") ≠
      some (.number (.int greatest)) := mt (convert?_written_iff hwrites).mp (by decide)
  exact ⟨rfl, hwrites, mt (readVariable_text_iff readVariable_seats rfl rfl).mp hconvert, hconvert⟩

end PromptKit.Document
