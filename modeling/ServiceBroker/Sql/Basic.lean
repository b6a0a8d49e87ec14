/-
# Statements and words

A name that stands in the text of a statement is a word: at least one character, all of
them ASCII letters, digits or underscores, so that quotes around it are never closed
early.  Everything else that a statement speaks of is bound as a parameter.
-/

import ServiceBroker.Connection
import ServiceBroker.Program
import ServiceBroker.ServiceError
import ServiceBroker.Text.Letters

namespace ServiceBroker
namespace Sql

/-- A character that may stand in a quoted name. -/
def isWordChar (c : Char) : Bool := c.isAlphanum || c = '_'

/-- A name that can be quoted. -/
def isWord (s : String) : Bool := !s.toList.isEmpty && s.toList.all isWordChar

/-- A name that can be quoted in the text of a statement. -/
structure Word where
  text : String
  isWord_text : isWord text = true
deriving DecidableEq, Repr

namespace Word

/-- A name as a word. -/
def ofText? (s : String) : Option Word := if h : isWord s = true then some ⟨s, h⟩ else none

/-- A name as a word, or the failure that says that it is none. -/
def ofText (s : String) : Except ServiceError Word :=
  match ofText? s with
  | some w => .ok w
  | none => .error (.invalidIdentifier s)

/-- Letters are a word. -/
def ofLetters {n : Nat} (letters : Letters (n + 1)) : Word where
  text := letters.text
  isWord_text := by
    have hl := letters.length_eq
    have ha := letters.all_letters
    simp only [isWord, Bool.and_eq_true, Bool.not_eq_true', List.isEmpty_eq_false_iff,
      List.all_eq_true, isWordChar, Char.isAlphanum] at ha ⊢
    exact ⟨fun h => by simp [h] at hl, fun c hc => by simp [ha c hc]⟩

/-- A word between quote characters. -/
def quoted (quote : Char) (w : Word) : String :=
  String.singleton quote ++ w.text ++ String.singleton quote

/-- A word as a text in a statement. -/
def literal (w : Word) : String := w.quoted '\''

end Word

/-- A row of an answer, cell by cell; a cell may be null. -/
abbrev Row := List (Option String)

/-- The server refuses a statement or cannot be reached. -/
inductive Failure where
  | refused
deriving DecidableEq, Repr

/-- What is asked of a server whose statements have type `S`. -/
inductive Call (S : Type) where
  | connect (at' : Connection)
  | execute (statement : S)

/-- A connection gives nothing, a statement the rows that it selects. -/
abbrev Call.Result {S : Type} : Call S → Type
  | connect _ => Unit
  | execute _ => List Row

/-- The questions that a server answers. -/
abbrev interface (S : Type) : Interface := ⟨Call S, fun call => Except Failure call.Result⟩

/-- A program on a server. -/
abbrev Script (S : Type) (α : Type) := ExceptT ServiceError (Program (interface S)) α

/-- The failure of a server as one of a service. -/
def Failure.toServiceError : Failure → ServiceError
  | refused => .database

/-- Connects. -/
def connect {S : Type} (c : Connection) : Script S Unit :=
  ExceptT.mk (.ask (I := interface S) (.connect c) fun answer =>
    .done (answer.mapError Failure.toServiceError))

/-- Executes a statement. -/
def execute {S : Type} (statement : S) : Script S (List Row) :=
  ExceptT.mk (.ask (I := interface S) (.execute statement) fun answer =>
    .done (answer.mapError Failure.toServiceError))

/-- Executes a statement that selects nothing. -/
def perform {S : Type} (statement : S) : Script S Unit := do
  let _ ← execute statement

/-- Whether a statement selects a row. -/
def selectsAny {S : Type} (statement : S) : Script S Bool := do
  return !(← execute statement).isEmpty

/-- A script as one named step. -/
def inStep {S α : Type} (name : String) (script : Script S α) : Script S α :=
  ExceptT.mk do return ServiceError.inStep name (← script.run)

/-- A value or its failure, within a script. -/
def check {S α : Type} (value : Except ServiceError α) : Script S α := ExceptT.mk (pure value)

/-- A cell of a row that has to hold a text. -/
def cell (row : Row) (column : Nat) : Except ServiceError String :=
  match row[column]? with
  | some (some text) => .ok text
  | _ => .error .database

end Sql
end ServiceBroker
