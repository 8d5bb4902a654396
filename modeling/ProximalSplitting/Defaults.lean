import ProximalSplitting.Scalar

/-!
Named constants: the tolerances of geometry and the standard settings of the solvers.
-/

namespace ProximalSplitting

namespace Tolerance

variable {S : Type} [Scalar S]

def smallLength : S := Scalar.decimal 1 10

def antipodal : S := Scalar.decimal 1 6

def meanUpdate : S := Scalar.decimal 1 7

def meanIterations : Int := 50

def validation : S := Scalar.decimal 1 6

def relative : S := Scalar.decimal 1 5

end Tolerance

namespace SolverDefaults

variable {S : Type} [Scalar S]

def relaxation : S := Scalar.decimal 9 1

def proximalParameter : S := Scalar.one

def splittingIterations : Int := 300

def cyclicIterations : Int := 5000

def cyclicChange : S := Scalar.decimal 1 12

end SolverDefaults

inductive Constant (S : Type) where
  | count (number : Int)
  | size (number : S)

namespace Constant

variable {S : Type} [Scalar S]

def numerical : List (String × Constant S) :=
  [("EPSILON", .size Tolerance.smallLength),
   ("ANTIPODAL_TOLERANCE", .size Tolerance.antipodal),
   ("MEAN_TOLERANCE", .size Tolerance.meanUpdate),
   ("MEAN_MAX_ITERATIONS", .count Tolerance.meanIterations),
   ("VALIDATION_TOLERANCE", .size Tolerance.validation)]

def solver : List (String × Constant S) :=
  [("DOUGLAS_RACHFORD_ALPHA", .size SolverDefaults.relaxation),
   ("DOUGLAS_RACHFORD_LAMBDA", .size SolverDefaults.proximalParameter),
   ("DOUGLAS_RACHFORD_MAX_ITERATIONS", .count SolverDefaults.splittingIterations),
   ("CYCLIC_PROXIMAL_POINT_MAX_ITERATIONS", .count SolverDefaults.cyclicIterations),
   ("CYCLIC_PROXIMAL_POINT_MIN_CHANGE", .size SolverDefaults.cyclicChange)]

end Constant

end ProximalSplitting
