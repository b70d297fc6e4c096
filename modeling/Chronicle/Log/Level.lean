import Chronicle.Vocabulary

/-!
# Levels of log messages
-/
namespace Chronicle

/-- How much a log message matters, from least to most. -/
inductive LogLevel where
  | debug | info | warning | error
  deriving DecidableEq, Repr, Inhabited

instance : Vocabulary LogLevel where
  all := [.debug, .info, .warning, .error]
  word
    | .debug => "debug"
    | .info => "info"
    | .warning => "warning"
    | .error => "error"
  find_word a := by cases a <;> rfl

/-- The place of a level among all levels. -/
def LogLevel.rank : LogLevel → Nat
  | .debug => 0
  | .info => 1
  | .warning => 2
  | .error => 3

end Chronicle
