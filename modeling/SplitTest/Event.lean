import Std.Data.ExtTreeMap

namespace SplitTest

structure Level where
  severity : Int
deriving DecidableEq, Repr

namespace Level

def debug : Level := ⟨0⟩

def info : Level := ⟨1⟩

def warning : Level := ⟨2⟩

def error : Level := ⟨3⟩

def name (level : Level) : String :=
  if level = debug then "debug"
  else if level = info then "info"
  else if level = warning then "warning"
  else if level = error then "error"
  else "unknown"

end Level

structure Event where
  level : Level
  component : String
  message : String
  fields : Std.ExtTreeMap String String := {}
deriving DecidableEq

namespace Event

def line (event : Event) : String :=
  let level :=
    if Level.warning.severity ≤ event.level.severity then event.level.name ++ ": " else ""
  let fields := event.fields.toList.map fun (key, value) => s!" {key}={value}"
  s!"[{event.component}] " ++ level ++ event.message ++ String.join fields

def transcript (lowest : Level) (events : List Event) : String :=
  String.join <|
    (events.filter fun e => lowest.severity ≤ e.level.severity).map fun e => e.line ++ "\n"

end Event

end SplitTest
