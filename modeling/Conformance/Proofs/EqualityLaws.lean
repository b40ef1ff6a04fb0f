import Conformance.Catalogue.Classes
import Conformance.Judge
import Conformance.Proofs.Quantities
import Conformance.Proofs.Run

/-!
# Laws of equality

Strict equality looks at one aspect of a value: at what a number stands for, at the class and the
content of any other scalar, and at the value itself otherwise. Two values are equal when they have
the same aspect, so equality is symmetric and transitive, and a value without an aspect equals
nothing. These are the numbers that stand for nothing. The content of a scalar is what every class
of its kind compares; that a custom class does the same is an assumption, and part of what content
is.

Equality of same value gives all that is not a number an aspect in common. A complex number with
such a part is left without one, so it is the only kind of value that is not found among values that
contain it.
-/

namespace Conformance

/-! ## Aspects -/

/-- What is compared of a value. -/
inductive Aspect where
  | quantity (parts : Exact.Point × Exact.Point)
  | content (cls : Class) (value : Value)
  | itself (value : Value)
  /-- What all that is not a number has in common. -/
  | undefined

namespace Value

/-- A scalar without what plays no role for its content. -/
def content : Value → Value
  | .text s _ => .str s
  | .symbol m _ => .symbol m .null
  | v => v

/-- A decimal that is a signaling not-a-number. -/
def isSignaling : Value → Bool
  | .number x _ _ => x.isSignaling
  | _ => false

/-- A complex number with a part that is not a number. -/
def HasNanPart : Value → Prop
  | .number x _ _ => x.HasNanPart
  | _ => False

variable {a b : Value}

theorem isNan_of_isSignaling (signaling : a.isSignaling = true) : a.isNan = true := by
  cases a with
  | number => exact Number.isNan_of_isSignaling signaling
  | null | bool | text | bytes | symbol | cls | routine | path | failure | object => cases signaling

theorem not_hasNanPart_of_isNan (undefined : a.isNan = true) : ¬ a.HasNanPart := by
  cases a with
  | number x => cases x <;> simp_all [isNan, Number.isNan, HasNanPart, Number.HasNanPart]
  | null | bool | text | bytes | symbol | cls | routine | path | failure | object => cases undefined

/-- Scalars that are no numbers have the same content when nothing is left that tells them apart. -/
theorem sameContent_iff (scalar : a.isScalar = true)
    (noNumber : ∀ x tag mark, a ≠ .number x tag mark) :
    a.sameContent b = true ↔ a.content = b.content := by
  cases a with
  | number x tag mark => exact absurd rfl (noNumber x tag mark)
  | null | bool | text | bytes | symbol => cases b <;> simp [sameContent, content, Value.str]
  | cls | routine | path | failure | object => cases scalar

@[simp] theorem isScalar_content (v : Value) : v.content.isScalar = v.isScalar := by
  cases v <;> rfl

theorem content_eq_number_iff {x : Number} {tag : Tag} {mark : Nat} :
    a.content = .number x tag mark ↔ a = .number x tag mark := by
  cases a <;> simp [content, str]

end Value

namespace Store

variable {σ : Store} {a b c : Value}

/-- The aspect of a value that strict equality looks at. -/
def aspect? (σ : Store) : Value → Option Aspect
  | .number x _ _ => x.quantity?.map .quantity
  | v => some (if v.isScalar then .content (σ.classOf v) v.content else .itself v)

/-- The aspect of a value that equality of same value looks at. -/
def memberAspect? (σ : Store) (v : Value) : Option Aspect :=
  if v.isSignaling then none else if v.isNan then some .undefined else σ.aspect? v

/-- The aspect of a number is what it stands for. -/
theorem aspect?_eq_quantity_iff {parts : Exact.Point × Exact.Point} :
    σ.aspect? a = some (.quantity parts) ↔
      ∃ x tag mark, a = .number x tag mark ∧ x.quantity? = some parts := by
  cases a with
  | number => simp [aspect?]
  | null | bool | text | bytes | symbol | cls | routine | path | failure | object =>
    simp [aspect?, Value.isScalar]

/-- The aspect of a scalar that is no number is its class and its content. -/
theorem aspect?_eq_content_iff {cls : Class} {v : Value} :
    σ.aspect? a = some (.content cls v) ↔ (∀ x tag mark, a ≠ .number x tag mark) ∧
      a.isScalar = true ∧ σ.classOf a = cls ∧ a.content = v := by
  cases a with
  | number => simp [aspect?]
  | null | bool | text | bytes | symbol | cls | routine | path | failure | object =>
    simp [aspect?, Value.isScalar]

/-- The aspect of what is no scalar is the value itself. -/
theorem aspect?_eq_itself_iff {v : Value} :
    σ.aspect? a = some (.itself v) ↔ a.isScalar = false ∧ a = v := by
  cases a with
  | number => simp [aspect?, Value.isScalar]
  | null | bool | text | bytes | symbol | cls | routine | path | failure | object =>
    simp [aspect?, Value.isScalar]

/-- Strict equality knows no aspect that all not-a-numbers have in common. -/
theorem aspect?_ne_undefined : σ.aspect? a ≠ some .undefined := by
  cases a <;> simp [aspect?, Value.isScalar]

/-! ## Strict equality -/

/-- Values that are not both numbers are compared by class and content, or as they are. -/
theorem strictEquals_of_apart
    (apart : ∀ x tag mark y tag' mark', a = .number x tag mark → b ≠ .number y tag' mark') :
    σ.strictEquals a b = .ok (if σ.classOf a != σ.classOf b then false
      else if a.isScalar then a.sameContent b else a.identical b) := by
  unfold strictEquals
  split
  · exact absurd rfl (apart _ _ _ _ _ _ rfl)
  · split
    · rfl
    · split <;> rfl

/-- Numbers are strictly equal when they stand for the same. -/
theorem strictEquals_numbers_iff {x y : Number} {tag tag' : Tag} {mark mark' : Nat} :
    σ.strictEquals (.number x tag mark) (.number y tag' mark') = .ok true ↔
      ∃ quantity, x.quantity? = some quantity ∧ y.quantity? = some quantity :=
  Number.equal_true_iff

/-- A number is strictly equal to numbers only. -/
theorem strictEquals_number {x : Number} {tag : Tag} {mark : Nat}
    (noNumber : ∀ y tag mark, b ≠ .number y tag mark) :
    σ.strictEquals (.number x tag mark) b = .ok false := by
  have content : (Value.number x tag mark).sameContent b = false := by cases b <;> rfl
  rw [strictEquals_of_apart fun _ _ _ y tag mark _ => noNumber y tag mark]
  simp [Value.isScalar, content]

/-- Two values are strictly equal when they have an aspect in common. -/
theorem strictEquals_true_iff : σ.strictEquals a b = .ok true ↔
    ∃ aspect, σ.aspect? a = some aspect ∧ σ.aspect? b = some aspect := by
  by_cases number : ∃ x tag mark, a = .number x tag mark
  · obtain ⟨x, tag, mark, rfl⟩ := number
    by_cases number' : ∃ y tag mark, b = .number y tag mark
    · obtain ⟨y, tag', mark', rfl⟩ := number'
      rw [strictEquals_numbers_iff]
      simp [aspect?]
    · have other : ∀ y tag mark, b ≠ .number y tag mark := by simpa using number'
      rw [strictEquals_number other]
      refine iff_of_false (by simp) ?_
      rintro ⟨aspect, held, held'⟩
      obtain ⟨parts, _, rfl⟩ := Option.map_eq_some_iff.mp held
      obtain ⟨y, tag, mark, same, _⟩ := aspect?_eq_quantity_iff.mp held'
      exact other y tag mark same
  have noNumber : ∀ x tag mark, a ≠ .number x tag mark := by simpa using number
  have apart : σ.strictEquals a b = .ok true ↔ σ.classOf a = σ.classOf b ∧
      (if a.isScalar then a.sameContent b else a.identical b) = true := by
    rw [strictEquals_of_apart fun x tag mark _ _ _ same => absurd same (noNumber x tag mark)]
    by_cases sameClass : σ.classOf a = σ.classOf b <;> simp [sameClass]
  rw [apart]
  cases scalar : a.isScalar with
  | true =>
    have held : σ.aspect? a = some (.content (σ.classOf a) a.content) :=
      aspect?_eq_content_iff.mpr ⟨noNumber, scalar, rfl, rfl⟩
    simp only [held, Option.some.injEq, exists_eq_left', aspect?_eq_content_iff, if_true,
      Value.sameContent_iff scalar noNumber]
    constructor
    · rintro ⟨sameClass, same⟩
      refine ⟨?_, ?_, sameClass.symm, same.symm⟩
      · rintro x tag mark rfl
        exact noNumber x tag mark (Value.content_eq_number_iff.mp same)
      · rw [← Value.isScalar_content, ← same, Value.isScalar_content, scalar]
    · rintro ⟨_, _, sameClass, same⟩
      exact ⟨sameClass.symm, same.symm⟩
  | false =>
    have held : σ.aspect? a = some (.itself a) := aspect?_eq_itself_iff.mpr ⟨scalar, rfl⟩
    simp only [held, Option.some.injEq, exists_eq_left', aspect?_eq_itself_iff, Bool.false_eq_true,
      if_false, Value.identical, beq_iff_eq]
    constructor
    · rintro ⟨_, rfl⟩
      exact ⟨scalar, rfl⟩
    · rintro ⟨_, rfl⟩
      exact ⟨rfl, rfl⟩

/-- Values of which none is signaling can be compared. -/
theorem strictEquals_of_quiet (quiet : a.isSignaling = false) (quiet' : b.isSignaling = false) :
    ∃ answer, σ.strictEquals a b = .ok answer := by
  unfold strictEquals
  split
  · exact Number.equal_of_quiet quiet quiet'
  · split
    · exact ⟨_, rfl⟩
    · split <;> exact ⟨_, rfl⟩

/-- What can be compared with something that is not a number is not signaling. -/
theorem quiet_of_strictEquals {answer : Bool} (compared : σ.strictEquals a b = .ok answer)
    (undefined : b.isNan = true) : a.isSignaling = false := by
  cases a with
  | number x =>
    cases b with
    | number y =>
      cases signaling : x.isSignaling with
      | false => exact signaling
      | true => cases (Number.equal_of_isSignaling signaling undefined).symm.trans compared
    | null | bool | text | bytes | symbol | cls | routine | path | failure | object =>
      cases undefined
  | null | bool | text | bytes | symbol | cls | routine | path | failure | object => rfl

/-- The order in which two values are compared makes no difference. -/
theorem strictEquals_comm (σ : Store) (a b : Value) : σ.strictEquals a b = σ.strictEquals b a := by
  by_cases numbers : ∃ x tag mark y tag' mark', a = .number x tag mark ∧ b = .number y tag' mark'
  · obtain ⟨x, _, _, y, _, _, rfl, rfl⟩ := numbers
    exact Number.equal_comm x y
  · have apart : ∀ x tag mark y tag' mark', a = .number x tag mark → b ≠ .number y tag' mark' := by
      intro x tag mark y tag' mark' first second
      exact numbers ⟨x, tag, mark, y, tag', mark', first, second⟩
    have apart' : ∀ x tag mark y tag' mark', b = .number x tag mark → a ≠ .number y tag' mark' := by
      intro x tag mark y tag' mark' first second
      exact apart y tag' mark' x tag mark second first
    have same : σ.strictEquals a b = .ok true ↔ σ.strictEquals b a = .ok true := by
      simp only [strictEquals_true_iff, and_comm]
    rw [strictEquals_of_apart apart, strictEquals_of_apart apart'] at same ⊢
    rwa [Except.ok.injEq, Except.ok.injEq, ← Bool.eq_iff_iff,
      ← Except.ok.injEq (ε := Fault)] at same

theorem strictEquals_trans (first : σ.strictEquals a b = .ok true)
    (second : σ.strictEquals b c = .ok true) : σ.strictEquals a c = .ok true := by
  rw [strictEquals_true_iff] at first second ⊢
  obtain ⟨aspect, held, held'⟩ := first
  obtain ⟨other, again, last⟩ := second
  cases held'.symm.trans again
  exact ⟨aspect, held, last⟩

/-- Only what is not a number, and a complex number with such a part, has no aspect. -/
theorem aspect?_eq_none_iff : σ.aspect? a = none ↔ a.isNan = true ∨ a.HasNanPart := by
  cases a with
  | number x => simp [aspect?, Value.isNan, Value.HasNanPart, Number.quantity?_eq_none_iff]
  | null | bool | text | bytes | symbol | cls | routine | path | failure | object =>
    simp [aspect?, Value.isNan, Value.HasNanPart]

/-- A value equals itself exactly when it has an aspect. -/
theorem strictEquals_self_iff :
    σ.strictEquals a a = .ok true ↔ ¬ (a.isNan = true ∨ a.HasNanPart) := by
  rw [strictEquals_true_iff, ← aspect?_eq_none_iff (σ := σ), ← ne_eq, Option.ne_none_iff_exists']
  simp

/-- What is not a number equals nothing strictly. -/
theorem strictEquals_of_undefined (undefined : a.isNan = true) (quiet : a.isSignaling = false)
    (quiet' : b.isSignaling = false) : σ.strictEquals a b = .ok false := by
  obtain ⟨answer, compared⟩ := strictEquals_of_quiet (σ := σ) quiet quiet'
  cases answer with
  | false => exact compared
  | true =>
    obtain ⟨aspect, held, _⟩ := strictEquals_true_iff.mp compared
    cases (aspect?_eq_none_iff.mpr (.inl undefined)).symm.trans held

/-! ## Equality of same value -/

/-- For all but what is not a number it is strict equality. -/
theorem sameValueZero_of_defined (defined : a.isNan = false) :
    σ.sameValueZero a b = σ.strictEquals a b := by
  rw [sameValueZero, defined]
  cases σ.strictEquals a b with
  | error fault => rfl
  | ok answer => cases answer <;> rfl

/-- What is not a number is the same as all that is none. -/
theorem sameValueZero_of_undefined (undefined : a.isNan = true) (quiet : a.isSignaling = false)
    (quiet' : b.isSignaling = false) : σ.sameValueZero a b = .ok b.isNan := by
  rw [sameValueZero, strictEquals_of_undefined undefined quiet quiet', undefined]
  rfl

/-- All that is not a number has one aspect, unless it is signaling. -/
theorem memberAspect?_eq_undefined_iff :
    σ.memberAspect? a = some .undefined ↔ a.isSignaling = false ∧ a.isNan = true := by
  unfold memberAspect?
  cases a.isSignaling <;> cases a.isNan <;> simp [aspect?_ne_undefined]

/-- The other aspects are those of strict equality. -/
theorem memberAspect?_eq_some_iff {aspect : Aspect} (proper : aspect ≠ .undefined) :
    σ.memberAspect? a = some aspect ↔ σ.aspect? a = some aspect := by
  unfold memberAspect?
  split
  · next signaling =>
    have undefined := Value.isNan_of_isSignaling signaling
    simp [aspect?_eq_none_iff.mpr (.inl undefined)]
  split
  · next undefined =>
    simp [aspect?_eq_none_iff.mpr (.inl undefined), proper.symm]
  · exact Iff.rfl

/-- Two values are the same when they have an aspect in common, of those that let one not-a-number
equal another. -/
theorem sameValueZero_true_iff : σ.sameValueZero a b = .ok true ↔
    ∃ aspect, σ.memberAspect? a = some aspect ∧ σ.memberAspect? b = some aspect := by
  rw [sameValueZero, bind_eq_ok_iff]
  constructor
  · rintro ⟨equal, compared, answered⟩
    cases equal with
    | true =>
      obtain ⟨aspect, held, held'⟩ := strictEquals_true_iff.mp compared
      have proper : aspect ≠ .undefined := by
        rintro rfl
        exact aspect?_ne_undefined held
      exact ⟨aspect, (memberAspect?_eq_some_iff proper).mpr held,
        (memberAspect?_eq_some_iff proper).mpr held'⟩
    | false =>
      have both : a.isNan = true ∧ b.isNan = true := by
        simpa using Except.ok.inj answered
      have quiet := quiet_of_strictEquals compared both.2
      have quiet' := quiet_of_strictEquals (strictEquals_comm σ a b ▸ compared) both.1
      exact ⟨.undefined, memberAspect?_eq_undefined_iff.mpr ⟨quiet, both.1⟩,
        memberAspect?_eq_undefined_iff.mpr ⟨quiet', both.2⟩⟩
  · rintro ⟨aspect, held, held'⟩
    by_cases proper : aspect = .undefined
    · subst proper
      obtain ⟨quiet, undefined⟩ := memberAspect?_eq_undefined_iff.mp held
      obtain ⟨quiet', undefined'⟩ := memberAspect?_eq_undefined_iff.mp held'
      obtain ⟨equal, compared⟩ := strictEquals_of_quiet (σ := σ) quiet quiet'
      refine ⟨equal, compared, ?_⟩
      cases equal <;> simp [undefined, undefined', pure, Except.pure]
    · rw [memberAspect?_eq_some_iff proper] at held held'
      exact ⟨true, strictEquals_true_iff.mpr ⟨aspect, held, held'⟩, rfl⟩

/-- Values of which none is signaling can be compared. -/
theorem sameValueZero_of_quiet (quiet : a.isSignaling = false) (quiet' : b.isSignaling = false) :
    ∃ answer, σ.sameValueZero a b = .ok answer := by
  obtain ⟨equal, compared⟩ := strictEquals_of_quiet (σ := σ) quiet quiet'
  rw [sameValueZero, compared]
  cases equal with
  | true => exact ⟨_, rfl⟩
  | false => exact ⟨_, rfl⟩

theorem sameValueZero_comm (σ : Store) (a b : Value) :
    σ.sameValueZero a b = σ.sameValueZero b a := by
  simp only [sameValueZero, strictEquals_comm σ a b, Bool.and_comm a.isNan]

theorem sameValueZero_trans (first : σ.sameValueZero a b = .ok true)
    (second : σ.sameValueZero b c = .ok true) : σ.sameValueZero a c = .ok true := by
  rw [sameValueZero_true_iff] at first second ⊢
  obtain ⟨aspect, held, held'⟩ := first
  obtain ⟨other, again, last⟩ := second
  cases held'.symm.trans again
  exact ⟨aspect, held, last⟩

/-- Signaling numbers, and complex numbers with a part that is not a number, are the same as
nothing. -/
theorem memberAspect?_eq_none_iff :
    σ.memberAspect? a = none ↔ a.isSignaling = true ∨ a.HasNanPart := by
  unfold memberAspect?
  split
  · next signaling => simp [signaling]
  next quiet =>
  split
  · next undefined => simp [quiet, Value.not_hasNanPart_of_isNan undefined]
  · next defined => simp [quiet, aspect?_eq_none_iff, defined]

/-- A value is the same as itself exactly when it is the same as anything. -/
theorem sameValueZero_self_iff (quiet : a.isSignaling = false) :
    σ.sameValueZero a a = .ok true ↔ ¬ a.HasNanPart := by
  have none : σ.memberAspect? a = none ↔ a.HasNanPart := by
    simp [memberAspect?_eq_none_iff, quiet]
  rw [sameValueZero_true_iff, ← none, ← ne_eq, Option.ne_none_iff_exists']
  simp

/-! ## The laws -/

/-- Strict equality is a partial equivalence on all that is not signaling. It is symmetric and
transitive, only what is not a number and a complex number with such a part differ from themselves,
and numbers of any formats are equal exactly when they stand for the same. Custom classes of texts,
bytes and members of enumerations are assumed to keep the equality that these have, by contents; a
class with an equality of its own may break any of the laws. -/
theorem strictEquals_partial_equivalence (σ : Store) (a b c : Value)
    (quiet : a.isSignaling = false) (quiet' : b.isSignaling = false) :
    (∃ answer, σ.strictEquals a b = .ok answer ∧ σ.strictEquals b a = .ok answer) ∧
      (σ.strictEquals a b = .ok true → σ.strictEquals b c = .ok true →
        σ.strictEquals a c = .ok true) ∧
      (σ.strictEquals a a = .ok false ↔ a.isNan = true ∨ a.HasNanPart) ∧
      ∀ x tag mark y tag' mark', a = .number x tag mark → b = .number y tag' mark' →
        (σ.strictEquals a b = .ok true ↔
          ∃ quantity, x.quantity? = some quantity ∧ y.quantity? = some quantity) := by
  refine ⟨?_, strictEquals_trans, ?_, ?_⟩
  · obtain ⟨answer, compared⟩ := strictEquals_of_quiet (σ := σ) quiet quiet'
    exact ⟨answer, compared, strictEquals_comm σ a b ▸ compared⟩
  · obtain ⟨answer, compared⟩ := strictEquals_of_quiet (σ := σ) quiet quiet
    have equal := strictEquals_self_iff (σ := σ) (a := a)
    rw [compared] at equal ⊢
    cases answer with
    | true => simpa using equal
    | false => simpa [-not_or] using equal
  · rintro x tag mark y tag' mark' rfl rfl
    exact strictEquals_numbers_iff

/-- A member of an enumeration, a double and a decimal are equal in turn, so the first equals the
last, and what is not a number differs from itself. -/
theorem one_equals_one :
    let double : Value := .float (.finite false (2 ^ 52) (-52))
    let decimal : Value := .number (.decimal (.finite false 100 (-2))) .plain 0
    let undefined : Value := .number (.decimal (.nan false false 0)) .plain 1
    Catalogue.low.isSignaling = false ∧ double.isSignaling = false ∧ undefined.isSignaling = false ∧
      (⟨#[]⟩ : Store).strictEquals Catalogue.low double = .ok true ∧
      (⟨#[]⟩ : Store).strictEquals double decimal = .ok true ∧
      (⟨#[]⟩ : Store).strictEquals Catalogue.low decimal = .ok true ∧
      (⟨#[]⟩ : Store).strictEquals undefined undefined = .ok false := by
  intro double decimal undefined
  have first : (⟨#[]⟩ : Store).strictEquals Catalogue.low double = .ok true := by decide +kernel
  have second : (⟨#[]⟩ : Store).strictEquals double decimal = .ok true := by decide +kernel
  obtain ⟨_, transitive, _⟩ :=
    strictEquals_partial_equivalence ⟨#[]⟩ Catalogue.low double decimal rfl rfl
  obtain ⟨_, _, irreflexive, _⟩ :=
    strictEquals_partial_equivalence ⟨#[]⟩ undefined undefined undefined rfl rfl
  exact ⟨rfl, rfl, rfl, first, second, transitive first second, irreflexive.mpr (.inl rfl)⟩

end Store

namespace World

variable {w : World} {options : Options} {a context : Value} {allowed : List Value}

/-- A value that is the same as itself is found among values that contain it, if they can all be
compared with it. -/
theorem judgeLeaf_oneOf_of_mem (member : a ∈ allowed) (same : w.store.sameValueZero a a = .ok true)
    (quiet : ∀ candidate ∈ allowed, candidate.isSignaling = false) :
    w.judgeLeaf options a context (.oneOf allowed) = .ok .null := by
  have found : allowed.anyM (w.store.sameValueZero a) = .ok true := by
    cases searched : allowed.anyM (w.store.sameValueZero a) with
    | error fault =>
      obtain ⟨candidate, inside, faulty⟩ := anyM_error searched
      obtain ⟨answer, compared⟩ :=
        Store.sameValueZero_of_quiet (σ := w.store) (quiet a member) (quiet candidate inside)
      cases compared.symm.trans faulty
    | ok answer =>
      rcases anyM_ok searched with ⟨found, _⟩ | ⟨_, absent⟩
      · rw [found]
      · cases (absent a member).symm.trans same
  rw [judgeLeaf, found]
  rfl

/-- Equality of same value is symmetric and transitive on all that is not signaling, and reflexive
except at complex numbers with a part that is not a number. So every other value is found among
values that contain it. As for strict equality, texts, bytes and members of enumerations are assumed
to be equal by contents whatever their class. -/
theorem sameValueZero_equivalence (w : World) (options : Options) (a b c context : Value)
    (quiet : a.isSignaling = false) (quiet' : b.isSignaling = false) :
    (w.store.sameValueZero a a = .ok true ↔ ¬ a.HasNanPart) ∧
      (∃ answer, w.store.sameValueZero a b = .ok answer ∧
        w.store.sameValueZero b a = .ok answer) ∧
      (w.store.sameValueZero a b = .ok true → w.store.sameValueZero b c = .ok true →
        w.store.sameValueZero a c = .ok true) ∧
      ∀ allowed, a ∈ allowed → (∀ candidate ∈ allowed, candidate.isSignaling = false) →
        ¬ a.HasNanPart → w.judgeLeaf options a context (.oneOf allowed) = .ok .null := by
  have reflexive := Store.sameValueZero_self_iff (σ := w.store) quiet
  refine ⟨reflexive, ?_, Store.sameValueZero_trans, ?_⟩
  · obtain ⟨answer, compared⟩ := Store.sameValueZero_of_quiet (σ := w.store) quiet quiet'
    exact ⟨answer, compared, Store.sameValueZero_comm w.store a b ▸ compared⟩
  · intro allowed member compared whole
    exact judgeLeaf_oneOf_of_mem member (reflexive.mpr whole) compared

/-- A complex number of which only the imaginary part is a number. -/
def halfDefined : Value := .number (.complex .nan .zero) .plain 1

/-- Although it is not signaling, it is not the same as itself and is not found alone in a list. -/
theorem halfDefined_not_same :
    halfDefined.isSignaling = false ∧
      (⟨#[]⟩ : Store).sameValueZero halfDefined halfDefined = .ok false := by
  decide +kernel

/-- A double that is not a number is the same as itself and as a decimal that is none, in either
order, and it is found among a text and itself. -/
theorem nan_same :
    let world : World := ⟨⟨#[]⟩, fun _ _ => .ok .null, fun _ _ => .ok none, .regular ⟨#[]⟩⟩
    let double : Value := .number (.float .nan) .plain 1
    let decimal : Value := .number (.decimal (.nan false false 0)) .plain 2
    double.isSignaling = false ∧ decimal.isSignaling = false ∧
      world.store.sameValueZero double double = .ok true ∧
      world.store.sameValueZero double decimal = .ok true ∧
      world.store.sameValueZero decimal double = .ok true ∧
      world.judgeLeaf {} double (.str "") (.oneOf [.str "a", double]) = .ok .null := by
  intro world double decimal
  obtain ⟨reflexive, ⟨answer, first, second⟩, _, found⟩ :=
    sameValueZero_equivalence world {} double decimal double (.str "") rfl rfl
  have whole : ¬ double.HasNanPart := id
  have same : world.store.sameValueZero double decimal = .ok true := by decide +kernel
  cases same.symm.trans first
  refine ⟨rfl, rfl, reflexive.mpr whole, first, second, found _ (by simp) ?_ whole⟩
  intro candidate member
  simp only [List.mem_cons, List.not_mem_nil, or_false] at member
  rcases member with rfl | rfl <;> rfl

end World

end Conformance
