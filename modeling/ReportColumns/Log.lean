/-!
Log lines and computations that write them. Nothing is logged behind the caller's back: a computation
that may log returns its lines, in order, beside its value.
-/

namespace ReportColumns

inductive LogLevel where
  | debug
  | info
  | warn
  deriving DecidableEq, Repr

inductive LogTopic where
  | format
  | locale
  | element
  | catalog
  | exporting
  deriving DecidableEq, Repr

structure LogLine where
  level : LogLevel
  topic : LogTopic
  message : String
  deriving DecidableEq, Repr

def LogLevel.text : LogLevel → String
  | .debug => "DEBUG"
  | .info => "INFO"
  | .warn => "WARN"

def LogTopic.text : LogTopic → String
  | .format => "FORMAT"
  | .locale => "LOCALE"
  | .element => "ELEMENT"
  | .catalog => "CATALOG"
  | .exporting => "EXPORT"

def LogLine.text (line : LogLine) : String :=
  s!"{line.level.text} {line.topic.text} {line.message}"

/-- A value with the lines that were logged on the way to it. -/
structure Logged (α : Type) where
  value : α
  lines : List LogLine
  deriving Repr

namespace Logged

def silent (value : α) : Logged α := ⟨value, []⟩

def log (level : LogLevel) (topic : LogTopic) (message : String) : Logged Unit :=
  ⟨(), [⟨level, topic, message⟩]⟩

def andThen (first : Logged α) (next : α → Logged β) : Logged β :=
  let second := next first.value
  ⟨second.value, first.lines ++ second.lines⟩

instance : Monad Logged where
  pure := silent
  bind := andThen

@[simp] theorem value_pure (a : α) : (pure a : Logged α).value = a := rfl

@[simp] theorem lines_pure (a : α) : (pure a : Logged α).lines = [] := rfl

@[simp] theorem value_bind (first : Logged α) (next : α → Logged β) :
    (first >>= next).value = (next first.value).value := rfl

@[simp] theorem lines_bind (first : Logged α) (next : α → Logged β) :
    (first >>= next).lines = first.lines ++ (next first.value).lines := rfl

@[simp] theorem value_map (f : α → β) (action : Logged α) :
    (f <$> action).value = f action.value := rfl

@[simp] theorem lines_map (f : α → β) (action : Logged α) : (f <$> action).lines = action.lines :=
  List.append_nil _

instance : LawfulMonad Logged := .mk' Logged
  (fun action => by cases action; exact congrArg (Logged.mk _) (List.append_nil _))
  (fun _ _ => rfl)
  (fun _ _ _ => congrArg (Logged.mk _) (List.append_assoc _ _ _))

end Logged

end ReportColumns
