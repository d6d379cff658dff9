import LunConsole.Instant
/-!
# Alerts and the call to action

What the user is told: a list of alerts, one per id, and whether the action "create a storage
cluster" is offered. Both change only by the events listed here.

An alert that is raised again takes the place of the one before it. The user can dismiss an alert
unless it is sticky; a sticky alert goes when the condition behind it does.
-/

set_option autoImplicit false

namespace LunConsole

/-- How serious an alert is. -/
inductive Severity where
  | danger
  | warning
  | info
  | success
  deriving DecidableEq, Repr

/-- The word for the severity. -/
def Severity.word : Severity → String
  | danger => "danger"
  | warning => "warning"
  | info => "info"
  | success => "success"

/-- Something the user is told. -/
structure Alert where
  id : String
  severity : Severity
  title : String
  description : String
  dismissible : Bool
  raisedAt : Instant
  deriving DecidableEq, Repr

/-- The same alert, to stay until its condition clears. -/
def Alert.sticky (a : Alert) : Alert := { a with dismissible := false }

/-- Whether the action is offered, and if not, why. -/
structure CallToAction where
  enabled : Bool
  reason : Option String
  deriving DecidableEq, Repr

/-- All that the user is told. -/
structure Board where
  alerts : List Alert
  cta : CallToAction
  deriving DecidableEq, Repr

/-- What happens to a board. -/
inductive BoardEvent where
  /-- An alert is raised. -/
  | raise (alert : Alert)
  /-- The user dismisses an alert. -/
  | dismiss (id : String)
  /-- The condition behind an alert has cleared. -/
  | retract (id : String)
  /-- The action is offered or withdrawn. -/
  | setCta (cta : CallToAction)
  deriving DecidableEq, Repr

namespace Board

/-- No alerts, and no action offered. -/
def empty : Board := ⟨[], ⟨false, none⟩⟩

/-- Puts an alert in the place of the first one of its id, or at the end. -/
def raise (a : Alert) : List Alert → List Alert
  | [] => [a]
  | b :: bs => if b.id = a.id then a :: bs else b :: raise a bs

/-- The board after an event. -/
def after (b : Board) : BoardEvent → Board
  | .raise a => { b with alerts := raise a b.alerts }
  | .dismiss id => { b with alerts := b.alerts.filter fun a => a.id != id || !a.dismissible }
  | .retract id => { b with alerts := b.alerts.filter fun a => a.id != id }
  | .setCta cta => { b with cta }

end Board

/-! ## Wire forms -/

instance : Wire Severity where
  encode s := .string s.word
  decode? x := do
    let word ← x.word?
    [Severity.danger, .warning, .info, .success].find? fun s => s.word = word

instance : Wire Alert where
  encode a := .object <|
    Json.member "id" a.id ++ Json.member "variant" a.severity ++ Json.member "title" a.title
      ++ Json.member "description" a.description ++ Json.member "dismissible" a.dismissible
      ++ Json.member "raisedAt" a.raisedAt
  decode? x := do
    let fs ← x.record? ["id", "variant", "title", "description", "dismissible", "raisedAt"] 6
    return {
      id := ← fs.required? "id"
      severity := ← fs.required? "variant"
      title := ← fs.required? "title"
      description := ← fs.required? "description"
      dismissible := ← fs.required? "dismissible"
      raisedAt := ← fs.required? "raisedAt" }

instance : Wire CallToAction where
  encode c := .object (Json.member "enabled" c.enabled ++ Json.memberIf "reason" c.reason)
  decode? x := do
    let fs ← x.record? ["enabled", "reason"] 2
    return { enabled := ← fs.required? "enabled", reason := ← fs.optional? "reason" }

instance : Wire Board where
  encode b := .object (Json.member "alerts" b.alerts ++ Json.member "cta" b.cta)
  decode? x := do
    let fs ← x.record? ["alerts", "cta"] 2
    return { alerts := ← fs.required? "alerts", cta := ← fs.required? "cta" }

end LunConsole
