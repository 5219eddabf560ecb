/-!
What is worth a note while work goes on, beside its result.

A `Traced` computation gives its notices in order, whether it succeeds or fails.
-/

namespace PromptKit

inductive Notice where
  | fileRead (path : String) (bytes : Nat)
  | packParsed (pack : String) (prompts tools fragments : Nat)
  | undeclaredTool (prompt tool : String)
  | undeclaredBlock (prompt tool : String)
  | undefinedFragment (name : String)
  | unknownPlaceholder (name : String)
  | promptRendered (prompt : String) (bytes : Nat)
  | messagesRendered (prompt : String) (messages : Nat)
  | toolBlocked (prompt tool : String)
  | toolUndefined (prompt tool : String)
  | toolsSelected (prompt : String) (selected bound : Nat)
  | schemaUnusable (tool reason : String)
  | checkMissing (validator : String)
  | contentValidated (validators violations : Nat) (valid : Bool)
deriving DecidableEq, Repr

namespace Notice

inductive Level where
  | trace
  | debug
  | warn
deriving DecidableEq, Repr

def Level.name : Level → String
  | .trace => "TRACE"
  | .debug => "DEBUG"
  | .warn => "WARN"

def level : Notice → Level
  | undefinedFragment .. | unknownPlaceholder .. | toolBlocked .. | toolUndefined .. => .trace
  | undeclaredTool .. | undeclaredBlock .. | schemaUnusable .. | checkMissing .. => .warn
  | _ => .debug

def message : Notice → String
  | fileRead .. => "read pack file"
  | packParsed .. => "pack parsed"
  | undeclaredTool .. => "prompt references an undeclared tool; it will be unavailable"
  | undeclaredBlock .. => "blocklist names an undeclared tool"
  | undefinedFragment .. => "leaving undefined fragment reference in place"
  | unknownPlaceholder .. => "leaving unknown placeholder in place"
  | promptRendered .. => "rendered prompt"
  | messagesRendered .. => "rendered chat messages"
  | toolBlocked .. => "tool blocklisted"
  | toolUndefined .. => "skipping undefined tool"
  | toolsSelected .. => "selected tools"
  | schemaUnusable .. => "parameter schema does not compile; arguments will not be checked"
  | checkMissing .. => "no check registered for validator kind; skipping"
  | contentValidated .. => "validated content"

/-- The value of a field of a notice. -/
inductive Field where
  | text (s : String)
  | count (n : Nat)
  | flag (b : Bool)
deriving DecidableEq, Repr

def fields : Notice → List (String × Field)
  | fileRead path bytes => [("path", .text path), ("bytes", .count bytes)]
  | packParsed pack prompts tools fragments =>
    [("pack", .text pack), ("prompts", .count prompts), ("tools", .count tools),
      ("fragments", .count fragments)]
  | undeclaredTool prompt tool | undeclaredBlock prompt tool | toolBlocked prompt tool
  | toolUndefined prompt tool => [("prompt", .text prompt), ("tool", .text tool)]
  | undefinedFragment name => [("fragment", .text name)]
  | unknownPlaceholder name => [("placeholder", .text name)]
  | promptRendered prompt bytes => [("prompt", .text prompt), ("bytes", .count bytes)]
  | messagesRendered prompt messages =>
    [("prompt", .text prompt), ("messages", .count messages)]
  | toolsSelected prompt selected bound =>
    [("prompt", .text prompt), ("selected", .count selected), ("bound", .count bound)]
  | schemaUnusable tool reason => [("tool", .text tool), ("reason", .text reason)]
  | checkMissing validator => [("validator", .text validator)]
  | contentValidated validators violations valid =>
    [("validators", .count validators), ("violations", .count violations),
      ("valid", .flag valid)]

end Notice

/-- A result that may be an error, with the notices on the way to it. -/
structure Traced (ε α : Type) where
  result : Except ε α
  notices : List Notice := []

namespace Traced

variable {ε α β : Type}

instance : Monad (Traced ε) where
  pure a := ⟨.ok a, []⟩
  bind x f :=
    match x.result with
    | .ok a => ⟨(f a).result, x.notices ++ (f a).notices⟩
    | .error e => ⟨.error e, x.notices⟩

instance : MonadLift (Except ε) (Traced ε) := ⟨fun x => ⟨x, []⟩⟩

instance : MonadExceptOf ε (Traced ε) where
  throw e := ⟨.error e, []⟩
  tryCatch x h :=
    match x.result with
    | .ok _ => x
    | .error e => ⟨(h e).result, x.notices ++ (h e).notices⟩

def note (n : Notice) : Traced ε Unit := ⟨.ok (), [n]⟩

def noteAll (ns : List Notice) : Traced ε Unit := ⟨.ok (), ns⟩

@[simp] theorem result_pure (a : α) : (pure a : Traced ε α).result = .ok a := rfl

@[simp] theorem result_lift (x : Except ε α) : (liftM x : Traced ε α).result = x := rfl

@[simp] theorem result_note (n : Notice) : (note n : Traced ε Unit).result = .ok () := rfl

@[simp] theorem result_noteAll (ns : List Notice) :
    (noteAll ns : Traced ε Unit).result = .ok () := rfl

@[simp] theorem result_throw (e : ε) : (throw e : Traced ε α).result = .error e := rfl

@[simp] theorem result_bind (x : Traced ε α) (f : α → Traced ε β) :
    (x >>= f).result = x.result >>= fun a => (f a).result := by
  obtain ⟨r, ns⟩ := x
  cases r <;> rfl

theorem lift_pure (a : α) : (liftM (pure a : Except ε α) : Traced ε α) = pure a := rfl

theorem id_map (x : Traced ε α) : id <$> x = x := by
  rcases x with ⟨_ | a, ns⟩
  · rfl
  · simp [Functor.map]

theorem pure_bind (a : α) (f : α → Traced ε β) : (pure a >>= f) = f a := by
  simp [bind, pure]

theorem bind_assoc {γ : Type} (x : Traced ε α) (f : α → Traced ε β) (g : β → Traced ε γ) :
    x >>= f >>= g = x >>= fun a => f a >>= g := by
  rcases x with ⟨_ | a, ns⟩
  · rfl
  · rcases hf : f a with ⟨_ | b, ms⟩
    · simp [bind, hf]
    · simp [bind, hf]

instance : LawfulMonad (Traced ε) := .mk' _ id_map pure_bind bind_assoc

end Traced

end PromptKit
