import Chronicle.Message

/-!
# What a log leaves pending

Suites, tests, steps and hooks each start with one kind of message and end with another. One of
them is pending when the last start in a log comes after the last end, or when there is no end.
`isPending` finds the two places by searching backward; nothing but the log is consulted.
-/
namespace Chronicle

/-- What starts and ends within a log. -/
inductive Span where
  | suite | test | step | hook
  deriving DecidableEq, Repr, Inhabited

/-- The kind of message that starts a span. -/
def Span.opens : Span → MessageKind
  | .suite => .suiteStart
  | .test => .testStart
  | .step => .stepStart
  | .hook => .hookStart

/-- The kind of message that ends a span. -/
def Span.closes : Span → MessageKind
  | .suite => .suiteEnd
  | .test => .testEnd
  | .step => .stepStop
  | .hook => .hookEnd

/-- The place of the last message of a kind, counted from one, or zero when there is none. -/
def lastPlace (kind : MessageKind) : List Message → Nat
  | [] => 0
  | m :: rest =>
    match lastPlace kind rest with
    | 0 => if m.kind = kind then 1 else 0
    | n + 1 => n + 2

/-- Whether the last start of a span comes after its last end. -/
def isPending (s : Span) (log : List Message) : Bool :=
  lastPlace s.closes log < lastPlace s.opens log

/-- The name of a suite that stands for a feature. -/
def Message.feature? : Message → Option String
  | .suiteStart name true => some name
  | _ => none

/-- The feature that was started last. Ends of suites do not matter: a test that follows the suite
of a feature still belongs to it, until another feature starts. -/
def currentFeature (log : List Message) : Option String :=
  log.reverse.findSome? Message.feature?

end Chronicle
