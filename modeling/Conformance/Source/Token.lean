import Conformance.Syntax.Node

/-!
# Tokens of Go source

A token keeps what the grammar asks of it: its class, its text, the line it is on, whether a line
end came before it, and the comments between it and the token before.

Comments are no tokens of the grammar; each belongs to the innermost construct that has a token
before it and a token after it.  Keeping them with the next token makes that placement a matter of
where the token itself goes.
-/

namespace Conformance
namespace Source

/-- A comment with its delimiters. -/
structure Comment where
  text : String
  line : Nat
deriving DecidableEq, Repr

/-- The classes of tokens. -/
inductive Lexeme
  /-- An identifier. -/
  | word
  /-- A reserved word. -/
  | keyword
  /-- A number. -/
  | number
  /-- A string or a rune. -/
  | quotation
  /-- An operator, a bracket or another mark. -/
  | symbol
  /-- A character, or the start of a quotation, that belongs to no token. -/
  | junk
  /-- A raw string without an end. -/
  | unclosed
deriving DecidableEq, Repr

/-- A token with the comments before it. -/
structure Token where
  lexeme : Lexeme
  text : String
  line : Nat
  /-- Whether there is a line end, outside comments, between the token and the one before it. -/
  startsLine : Bool
  comments : List Comment
deriving DecidableEq, Repr

/-- The tokens of a source, and the comments after the last of them. -/
structure Tokens where
  tokens : List Token
  trailing : List Comment
deriving Repr

/-- The mark that opens a body. -/
def openBrace : String := "\x7b"

/-- The mark that closes a body. -/
def closeBrace : String := "\x7d"

/-- The reserved words. -/
def keywords : List String := [
  "break", "case", "chan", "const", "continue", "default", "defer", "else", "fallthrough", "for",
  "func", "go", "goto", "if", "import", "interface", "map", "package", "range", "return", "select",
  "struct", "switch", "type", "var"]

/-- The operators and marks, each before its own prefixes. -/
def symbols : List String := [
  "<<=", ">>=", "&^=", "...",
  "<<", ">>", "&^", "+=", "-=", "*=", "/=", "%=", "&=", "|=", "^=", "&&", "||", "<-", "++", "--",
  "==", "!=", "<=", ">=", ":=",
  "+", "-", "*", "/", "%", "&", "|", "^", "<", ">", "=", "!", "~",
  "(", ")", "[", "]", openBrace, closeBrace, ",", ";", ".", ":"]

namespace Token

/-- Whether the token is this reserved word or mark. -/
def is (t : Token) (text : String) : Bool :=
  (t.lexeme == .keyword || t.lexeme == .symbol) && t.text == text

/-- Whether the token is an identifier. -/
def isWord (t : Token) : Bool :=
  t.lexeme == .word

end Token

namespace Comment

/-- The node of a comment. -/
def node (c : Comment) : Node where
  kind := .comment
  text := c.text
  line := c.line
  named := true
  hasError := false
  role := none
  children := []

end Comment

end Source
end Conformance
