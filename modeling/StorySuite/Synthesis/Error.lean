import StorySuite.Build.Error
import StorySuite.ExportName

/-!
# Synthesis — why no suite comes out

Some errors are the request's own and are known before any work; the others come from the module,
the build service or a caller's function.
-/

namespace StorySuite

/-- What is wrong with a function given as text. -/
inductive BodyFault where
  | empty
  /-- It is no program at all. -/
  | unparsable
  | notOneExpression
  | notFunction
  /-- What a caller says is wrong. -/
  | stated (reason : String)
  deriving DecidableEq, Repr

namespace BodyFault

/-- The fault in words; a program that does not parse has none of its own. -/
def reason? : BodyFault → Option String
  | .empty => some "source is empty"
  | .unparsable => none
  | .notOneExpression => some "expected exactly one function expression"
  | .notFunction => some "expression is not a function"
  | .stated reason => some reason

end BodyFault

/-- A function of the caller's that can fail. -/
inductive Callback where
  | exportFilter
  | dataSupplier
  deriving DecidableEq, Repr

namespace Callback

/-- What the function is called. -/
def name : Callback → String
  | .exportFilter => "export filter"
  | .dataSupplier => "test data supplier"

end Callback

/-- Why no suite comes out. -/
inductive SynthesisError where
  /-- The request has no function that makes tests. -/
  | missingTestBody
  | invalidTestBody (fault : BodyFault)
  /-- The filter chose an export that the module does not have. -/
  | unknownExport (story : ExportName) (module : Path)
  | supplier (callback : Callback) (detail : String)
  /-- A setting's key is no path of names. -/
  | invalidSetting (key : String)
  | template
  | build (error : BuildError)
  deriving DecidableEq, Repr

namespace SynthesisError

/-- What is told of the error, where the words are the library's own. -/
def message? : SynthesisError → Option String
  | .missingTestBody => some "createTest function must be defined."
  | .invalidTestBody fault => fault.reason?.map ("Invalid test body: " ++ ·)
  | .unknownExport e m =>
    some ("Export '" ++ e.text ++ "' selected for " ++ m.text ++ " does not exist")
  | .supplier callback detail => some (callback.name ++ " failed: " ++ detail)
  | .invalidSetting key => some ("Invalid framework setting key: '" ++ key ++ "'")
  | .template => none
  | .build e => some e.message

/-- The error's code. -/
def code : SynthesisError → String
  | .missingTestBody => "storytest::gen::missing_test_body"
  | .invalidTestBody _ => "storytest::gen::invalid_test_body"
  | .unknownExport .. => "storytest::gen::unknown_export"
  | .supplier .. => "storytest::gen::supplier_failed"
  | .invalidSetting _ => "storytest::gen::invalid_setting"
  | .template => "storytest::gen::template_failed"
  | .build e => e.code

/-- What may help. -/
def help? : SynthesisError → Option String
  | .invalidTestBody _ => some "createTest must be a function or arrow function expression"
  | .invalidSetting _ =>
    some "setting keys are dotted identifier paths such as `desiredCapabilities.browserName`"
  | .build e => e.help?
  | _ => none

/-- The error is about the request, not about the module. -/
def isPrecondition : SynthesisError → Bool
  | .missingTestBody | .invalidTestBody _ | .invalidSetting _ => true
  | _ => false

end SynthesisError

end StorySuite
