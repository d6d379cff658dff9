import LunConsole.Wire
/-!
# Minimum requirements

A storage cluster needs a minimum of storage nodes and of disks that all of them share. The check
lists what is missing, the nodes before the disks.
-/

set_option autoImplicit false

namespace LunConsole

/-- How much of each is needed. -/
structure Requirements where
  minNodes : UInt64
  minSharedDisks : UInt64
  deriving DecidableEq, Repr

/-- Three nodes and one disk are needed unless something else is configured. -/
def Requirements.standard : Requirements := ⟨3, 1⟩

/-- One requirement that is not met, with the number needed and the number found. -/
inductive Violation where
  | tooFewNodes (required selected : UInt64)
  | tooFewSharedDisks (required found : UInt64)
  deriving DecidableEq, Repr

/-- The violation in words. -/
def Violation.text : Violation → String
  | tooFewNodes required selected =>
      s!"At least {required} storage nodes must be selected ({selected} selected)"
  | tooFewSharedDisks required found =>
      s!"At least {required} shared disk(s) visible from every selected node are required "
        ++ s!"({found} found)"

/-- The outcome of a check. -/
structure RequirementCheck where
  violations : List Violation
  deriving DecidableEq, Repr

namespace RequirementCheck

/-- Nothing is missing. -/
def passes (c : RequirementCheck) : Bool := c.violations.isEmpty

/-- The violations, one a line. -/
def message (c : RequirementCheck) : String := "\n".intercalate (c.violations.map Violation.text)

end RequirementCheck

/-- Compares what there is with what is needed. -/
def Requirements.check (r : Requirements) (nodes disks : Nat) : RequirementCheck where
  violations :=
    (if nodes < r.minNodes.toNat then [.tooFewNodes r.minNodes (UInt64.ofNat nodes)] else [])
      ++ (if disks < r.minSharedDisks.toNat then
          [.tooFewSharedDisks r.minSharedDisks (UInt64.ofNat disks)]
        else [])

/-! ## Wire forms -/

instance : Wire Requirements where
  encode r := .object <|
    Json.member "minNodes" r.minNodes ++ Json.member "minSharedDisks" r.minSharedDisks
  decode? x := do
    let fs ← x.record? ["minNodes", "minSharedDisks"] 0
    return {
      minNodes := ← fs.withDefault? "minNodes" Requirements.standard.minNodes
      minSharedDisks := ← fs.withDefault? "minSharedDisks" Requirements.standard.minSharedDisks }

instance : Wire Violation where
  encode
    | .tooFewNodes required selected => .object <|
        Json.member "kind" "tooFewNodes" ++ Json.member "required" required
          ++ Json.member "selected" selected
    | .tooFewSharedDisks required found => .object <|
        Json.member "kind" "tooFewSharedDisks" ++ Json.member "required" required
          ++ Json.member "found" found
  decode? x := do
    let (kind, rest) ← x.tagged? "kind"
    if kind = "tooFewNodes" then
      let fs ← rest.record? ["required", "selected"] 2
      return .tooFewNodes (← fs.required? "required") (← fs.required? "selected")
    else if kind = "tooFewSharedDisks" then
      let fs ← rest.record? ["required", "found"] 2
      return .tooFewSharedDisks (← fs.required? "required") (← fs.required? "found")
    else none

instance : Wire RequirementCheck where
  encode c := .object (Json.member "violations" c.violations)
  decode? x := do
    let fs ← x.record? ["violations"] 1
    return { violations := ← fs.required? "violations" }

end LunConsole
