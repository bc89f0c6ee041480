import LiveCheck.Program

namespace LiveCheck

/-! ### Notifications: what the user is shown

A failed scan is shown to the user under a fixed title. The text of a failure of the checker ends
with its cause in parentheses. Showing something never fails a scan: an error on the way is noted
in the log, and only a fault that ends the program goes on. -/

namespace Notification

/-- The title of all notifications. -/
def title : String := "Mypy"

/-- The text that a fault is shown with. -/
def text (fault : Fault) : String :=
  match fault.cause? with
  | some cause => fault.message ++ " (" ++ cause.className ++ ": " ++ cause.message ++ ")"
  | none => fault.message

/-- Show a text, with the fault that it is about. -/
def show_ (message : String) (fault : Option Fault) : Action Unit := do
  match ← Action.ofTotal (.request (.present title message fault)) with
  | .ok () => pure ()
  | .error error =>
    if error.isFatal then throw error
    else Action.ofTotal (logLine .error .notifications ("Sink failed: " ++ error.message))

/-- Show a fault. -/
def ofFault (fault : Fault) : Action Unit := show_ (text fault) (some fault)

/-- Show a warning. -/
def ofWarning (message : String) : Action Unit := show_ message none

/-- The line of the log for a notification, where nothing else is there to show it. -/
def line (title message : String) : LogLine :=
  .make .warning .notifications (title ++ ": " ++ message)

end Notification

end LiveCheck
