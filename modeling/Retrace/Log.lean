/-!
# Log records

What the driver says about its work. A record carries the part of the program it
comes from, which is what filters select by.
-/

namespace Retrace

inductive Level where
  | error
  | warn
  | info
  | debug
  deriving DecidableEq, Repr

def Level.label : Level → String
  | .error => "error"
  | .warn => "warn"
  | .info => "info"
  | .debug => "debug"

inductive Topic where
  | program
  | job
  | attribution
  | build
  | output
  | execution
  | visualStudio
  deriving DecidableEq, Repr

def Topic.path : Topic → String
  | .program => "cxir_driver"
  | .job => "cxir_driver::action"
  | .attribution => "cxir_driver::diagnostic::remap"
  | .build => "cxir_driver::driver::compiler"
  | .output => "cxir_driver::driver::output"
  | .execution => "cxir_driver::process"
  | .visualStudio => "cxir_driver::toolchain::msvc"

structure Record where
  level : Level
  topic : Topic
  message : String
  deriving DecidableEq, Repr

def Record.line (record : Record) : String :=
  "[" ++ record.level.label ++ "] " ++ record.message

end Retrace
