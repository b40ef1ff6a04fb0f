import Conformance.Options
import Conformance.Options.Issue
import Conformance.Value

/-!
# Overriding options

Options are made of values given for their names; an option that is given none has its default. How
a value is read is not said here: a reading takes it as a limit or gives a cause to refuse it.
Options are overridden by making them anew of those in effect and the overrides, so that what is in
effect is read again as well. Either every value is accepted, or nothing changes and all issues are
reported, the options in their order and then unknown names as given.
-/

namespace Conformance

namespace Options

/-- How the value given for an option is read: the limit that it stands for, or why it is not
accepted. -/
abbrev Reading := Value → Except IssueCause Nat

/-- The names of the options, in order. -/
def names : List String := ["max_depth", "max_render_length", "max_render_depth"]

/-- The value given last for a name. -/
def lastGiven? (given : List (String × Value)) (name : String) : Option Value :=
  (given.reverse.find? (·.1 == name)).map (·.2)

/-- An option as it is given, or its default. -/
def taken (read : Reading) (given : List (String × Value)) (name : String) (default : Nat) :
    Except IssueCause Nat :=
  match lastGiven? given name with
  | some v => read v
  | none => .ok default

/-- The issue with the value given for an option, if any. -/
def issueOf? (read : Reading) (given : List (String × Value)) (name : String) : Option Issue :=
  match taken read given name 1 with
  | .error cause => some ⟨name, cause⟩
  | .ok _ => none

/-- The names given that are no options, each once. -/
def unknownNames (given : List (String × Value)) : List String :=
  (given.map (·.1)).eraseDups.filter fun name => !names.contains name

/-- The issues with what is given: those of the options in their order, then unknown names. -/
def issues (read : Reading) (given : List (String × Value)) : List Issue :=
  names.filterMap (issueOf? read given) ++
    (unknownNames given).map fun name => ⟨name, .unknownName⟩

/-- Options if all three can be taken and no name is unknown, and otherwise the issues. -/
def assemble (maxDepth maxRenderLength maxRenderDepth : Except IssueCause Nat)
    (unknown : List String) (issues : List Issue) : Except (List Issue) Options :=
  match maxDepth, maxRenderLength, maxRenderDepth, unknown with
  | .ok maxDepth, .ok maxRenderLength, .ok maxRenderDepth, [] =>
    .ok ⟨maxDepth, maxRenderLength, maxRenderDepth⟩
  | _, _, _, _ => .error issues

/-- The options that are made of what is given, or all issues with it. -/
def make (read : Reading) (given : List (String × Value)) : Except (List Issue) Options :=
  let defaults : Options := {}
  assemble (taken read given "max_depth" defaults.maxDepth)
    (taken read given "max_render_length" defaults.maxRenderLength)
    (taken read given "max_render_depth" defaults.maxRenderDepth) (unknownNames given)
    (issues read given)

/-- Options as values given for their names. -/
def written (options : Options) : List (String × Value) :=
  [("max_depth", .int options.maxDepth), ("max_render_length", .int options.maxRenderLength),
    ("max_render_depth", .int options.maxRenderDepth)]

/-- The options after the overrides, or all issues with them. -/
def override (read : Reading) (current : Options) (overrides : List (String × Value)) :
    Except (List Issue) Options :=
  make read (current.written ++ overrides)

end Options

end Conformance
