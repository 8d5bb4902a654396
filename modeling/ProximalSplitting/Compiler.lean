/-!
A switchable store of compiled functions. While the store is enabled, a function is compiled once
under its key, its name together with the positions of its fixed arguments, and every later call
under that key uses what was compiled first.
-/

namespace ProximalSplitting

structure CompileKey where
  name : String
  fixedPositions : List Int
deriving DecidableEq

def CompileKey.atMost (left right : CompileKey) : Bool :=
  left.name < right.name ||
    (left.name = right.name && !right.fixedPositions.lex left.fixedPositions (· < ·))

structure Compiler (F : Type) where
  enabled : Bool := true
  compiled : List (CompileKey × F) := []

def positionsFit (arguments : Nat) (positions : List Int) : Bool :=
  positions.all fun position => -arguments ≤ position && position < arguments

namespace Compiler

variable {F : Type}

def compile (compiler : Compiler F) (key : CompileKey) (function : F) : F × Compiler F :=
  match compiler.compiled.lookup key with
  | some stored => (stored, compiler)
  | none => (function, { compiler with compiled := compiler.compiled ++ [(key, function)] })

def select (compiler : Compiler F) (key : CompileKey) (function : F) : F × Compiler F :=
  if compiler.enabled then compiler.compile key function else (function, compiler)

def switch (compiler : Compiler F) (enabled : Bool) : Compiler F :=
  { compiler with enabled }

def clear (compiler : Compiler F) : Compiler F :=
  { compiler with compiled := [] }

def keys (compiler : Compiler F) : List CompileKey :=
  (compiler.compiled.map Prod.fst).mergeSort CompileKey.atMost

end Compiler

def Compiler.switchMessage (enabled : Bool) : String :=
  if enabled then "RiemannProx JIT optimization enabled"
  else "RiemannProx JIT optimization disabled"

def Compiler.clearMessage : String := "RiemannProx JIT cache cleared"

end ProximalSplitting
