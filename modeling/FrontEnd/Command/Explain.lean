/-
FrontEnd/Command/Explain.lean

Looking up the explanation of a code that the user has typed.
-/
import FrontEnd.Command.Failure
import FrontEnd.Explanation

namespace FrontEnd

/-- The explanation that a text asks for, followed by an empty line. -/
def explain (text : String) : Except Failure String :=
  match Code.parse? text with
  | none => .error (.unknownCode text)
  | some code =>
    match Explanation.find? code with
    | none => .error (.missingExplanation code)
    | some explanation => .ok (explanation.markdown ++ "\n")

end FrontEnd
