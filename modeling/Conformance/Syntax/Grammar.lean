import Conformance.Syntax.Node

/-!
# Grammars

How the text of a source file becomes a syntax tree is up to the grammar; the analysis takes any
(`Grammar`).  A grammar may refuse a file and say why.
-/

namespace Conformance

/-- A grammar of the source language. -/
class Grammar where
  /-- The syntax tree of the bytes of a file, or why there is none. -/
  parse : List UInt8 → Except String Node

end Conformance
