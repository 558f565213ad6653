import VocabBindings.Text.Wrapping

/-!
The pieces of a printed module: code, and docstrings between triple quotes. A description is escaped
so that it neither ends its docstring nor changes meaning, wrapped, and indented.
-/

set_option autoImplicit false

namespace VocabBindings.Module

inductive Piece where
  | code (text : Text)
  | docstring (body : Text)
  deriving DecidableEq

def tripleQuote : Text := ['"', '"', '"']

def Piece.text : Piece → Text
  | code t => t
  | docstring body => tripleQuote ++ body ++ tripleQuote

def printed (pieces : List Piece) : Text := pieces.flatMap Piece.text

def doubleBackslashes (t : Text) : Text := t.flatMap fun c => if c = '\\' then ['\\', '\\'] else [c]

/-- The text with a backslash before each quote of every three consecutive ones, counted from the
left. -/
def escapeTripleQuotes : Text → Text
  | [] => []
  | '"' :: '"' :: '"' :: rest =>
    '\\' :: '"' :: '\\' :: '"' :: '\\' :: '"' :: escapeTripleQuotes rest
  | c :: rest => c :: escapeTripleQuotes rest

def escaped (t : Text) : Text := escapeTripleQuotes (doubleBackslashes t)

def lineWidth : Nat := 92

theorem lineWidth_pos : 0 < lineWidth := by decide

def indentation : Nat := 4

/-- A description as it stands in the docstring of a class, after the indentation of its first
line. -/
def descriptionBlock (t : Text) : Text :=
  Text.indentRest indentation (Text.wrapped lineWidth lineWidth_pos (escaped t))

end VocabBindings.Module
