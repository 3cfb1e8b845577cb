/-!
# Failures and outcomes of a dispatch
-/

namespace TableMachine

/-- Why an action did not succeed. -/
inductive Failure where
  | undefinedAction (name : String)
  | failed (reason : String)
  | caused (reason cause : String)
deriving DecidableEq, Inhabited

namespace Failure

def message : Failure → String
  | .undefinedAction name => "Action '" ++ name ++ "' not defined in the machine's action registry"
  | .failed reason => "Transition action failed: " ++ reason
  | .caused reason _ => "Transition action failed: " ++ reason

def cause? : Failure → Option String
  | .caused _ cause => some cause
  | _ => none

end Failure

/-- What a dispatch that did not fail came to. -/
inductive Outcome where
  | moved (source target : String)
  | unmatched
deriving DecidableEq, Inhabited

end TableMachine
