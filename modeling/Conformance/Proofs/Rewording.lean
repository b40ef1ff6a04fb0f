import Conformance.Proofs.Refusals
import Conformance.Proofs.Simulation

/-!
# The limits of renderings

How far values are rendered shows in the words of a failure and nowhere else. A rendering that is
cut off ends a text, not a check, and no text decides whether a part passes. So where everything
lets itself be shown, checks of a self-contained spec under options that agree on the depth limit
end in the same way at the same place and log the same events there, and only their messages may
differ. What refuses to be shown ends a check only if a rendering gets to it.

The paths of the parts play no role in this, so it holds at every root, even at one without a text.
-/

namespace Conformance

namespace World

variable {w : World} {options options' : Options} {v : Value}

/-- The runs of a spec at the same root under two limits of rendering. -/
def rewording (showable : ∀ shown, w.Showable shown)
    (limit : options'.maxDepth = options.maxDepth) : w.Simulation options options' where
  bases := Eq
  worded := AnyWords
  results := ResultsAlong Eq AnyWords
  segments _ := True
  limit := limit
  wording _ _ _ := trivial
  rendered v := by
    obtain ⟨shown, written⟩ := exists_rendering (showable v) options
    obtain ⟨shown', written'⟩ := exists_rendering (showable v) options'
    rw [written, written']
    refine .value ?_
    rintro rfl
    exact Except.ok.inj (written'.symm.trans written)
  numeral _ := trivial
  lengthen := by
    rintro base _ segment rfl _
    refine .refl ?_ _
    intro location
    rfl
  along along := along
  truth _ _ along := along.truth
  line _ _ along := by
    refine along.line ?_
    rintro base _ rfl
    exact .refl (fun _ => trivial) _

/-- All that a self-contained spec reaches keeps the two runs in step; messages need not agree, so
unions are no exception. -/
theorem rewording_admits {spec : Value} (showable : ∀ shown, w.Showable shown)
    (limit : options'.maxDepth = options.maxDepth) (contained : w.store.SelfContained spec) :
    w.store.Throughout (rewording showable limit).Admits spec := by
  intro inner reached
  refine .of_native (contained inner reached) ?_ ?_
  · intro _ _ _ _ _ _ _ _
    trivial
  · intro _ _ _ _
    trivial

/-- Without it the runs may part. Behind a long text stands one of a class that cannot format it:
cut short, the rendering never gets there, and the check ends with an error instead of the fault. -/
example :
    let unruly : Value := .text "x" (.derived (Class.standard "Bad" ["str"]).customized)
    let refusal : Fault := .raised "RuntimeError" "no text"
    let σ : Store := ⟨#[.list (.standard "list" ["Sequence"]) [.str "aaaa", unruly]]⟩
    let w : World :=
      { store := σ, external := fun _ _ => .ok .null, field := fun _ _ => .ok none,
        customs := { Customs.regular σ with format := fun _ _ => .error refusal } }
    (w.check ⟨100, 200, 20⟩ (.object 0) (.int 5) (.str "")).outcome = .error refusal ∧
      (w.check ⟨100, 3, 20⟩ (.object 0) (.int 5) (.str "")).outcome =
        .ok (ownFailure "Expected value to equal 5 but received [\"a..."
          (.rootPath (.str ""))) := by
  decide +kernel

/-- The ring has no custom classes, and no field is missing with a fault. -/
theorem ring_showable (shown : Value) : ring.Showable shown := by
  refine ⟨Customs.regular_formats _, Customs.regular_answers _, ?_⟩
  intro v _ _
  have unlabelled : ring.fieldOrNull v "__name__" = .ok .null := by
    cases v <;> rfl
  exact exists_label_of_field unlabelled

end World

end Conformance
