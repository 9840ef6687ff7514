import SnippetService.Sandbox.Engine
/-!
Prepared sandboxes. They answer every submission alike, and keep count of how they are used.
-/
namespace SnippetService.Sandbox

/-- What a prepared sandbox does. -/
structure Script where
  answer : Except Failure Run := .ok {}
  onCreate : Option Failure := none
  onKill : Option Failure := none

/-- How prepared sandboxes have been used. -/
structure Usage where
  created : Nat := 0
  /-- The codes that were submitted, in order. -/
  submitted : List Text := []
  killed : Nat := 0

/-- The outcome of an act that may be told to fail. -/
def Script.outcome (f : Option Failure) : Except Failure Unit :=
  match f with
  | none => .ok ()
  | some f => .error f

/-- Prepared sandboxes as a provider. Uses count also when they fail. -/
def Script.provider (s : Script) : Provider Usage where
  create u := (outcome s.onCreate, { u with created := u.created + 1 })
  run code u := (s.answer, { u with submitted := u.submitted ++ [code] })
  kill u := (outcome s.onKill, { u with killed := u.killed + 1 })

end SnippetService.Sandbox
