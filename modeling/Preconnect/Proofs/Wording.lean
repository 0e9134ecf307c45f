import Preconnect.Error.Display

/-!
What errors say. An error is made of layers, each around the next, and of a cause at the bottom that
is around nothing. Each layer puts one phrase in front, so the text ends with the whole text of the
cause. What an error answers about itself is a matter of its outermost kind.
-/
namespace Preconnect

inductive Part
  | error (error : Error)
  | kind (kind : Kind)
  | io (error : IoError)
  | failure (failure : Failure)

inductive Layer
  | error
  | custom
  | io
  /-- An I/O error that is around an error. -/
  | carrier
  | warmupFailed
  | failure (attempt : Nat)
  deriving DecidableEq

inductive Leaf
  | invalidArgument (reason : InvalidArgument)
  | establishment (message : String)
  | custom (message : String)
  | panicked (payload : Payload)
  | internal (mishap : Mishap)
  | plainIo (kind : IoKind)
  | messageIo (kind : IoKind) (message : String)
  deriving DecidableEq

def Layer.phrase : Layer → String
  | error => "Kind: "
  | custom => ""
  | io => "I/O error: "
  | carrier => ""
  | warmupFailed => "Connection pool warm-up failed: "
  | failure attempt => "connection attempt " ++ toString attempt ++ " failed: "

namespace Leaf

def text : Leaf → String
  | invalidArgument reason => "An invalid argument was provided: " ++ reason.message
  | establishment message => "Failed to establish a connection: " ++ message
  | custom message => message
  | panicked payload => "Connection establisher panicked: " ++ payload.message
  | internal mishap => "Internal error: " ++ mishap.message
  | plainIo kind => kind.display
  | messageIo _ message => message

def part : Leaf → Part
  | invalidArgument reason => .kind (.invalidArgument reason)
  | establishment message => .kind (.establishment message)
  | custom message => .kind (.custom (.message message))
  | panicked payload => .kind (.panicked payload)
  | internal mishap => .kind (.internal mishap)
  | plainIo kind => .io (.plain kind)
  | messageIo kind message => .io (.message kind message)

theorem part_injective {leaf leaf' : Leaf} (same : leaf.part = leaf'.part) : leaf = leaf' := by
  cases leaf <;> cases leaf' <;> cases same <;> rfl

end Leaf

/-- The ways in which one part can be directly around another. -/
inductive Wraps : Part → Layer → Part → Prop
  | error (kind : Kind) : Wraps (.error ⟨kind⟩) .error (.kind kind)
  | customError (error : Error) : Wraps (.kind (.custom (.error error))) .custom (.error error)
  | customKind (kind : Kind) : Wraps (.kind (.custom (.kind kind))) .custom (.kind kind)
  | customIo (error : IoError) : Wraps (.kind (.custom (.io error))) .custom (.io error)
  | customFailure (failure : Failure) :
    Wraps (.kind (.custom (.failure failure))) .custom (.failure failure)
  | io (error : IoError) : Wraps (.kind (.io error)) .io (.io error)
  | carrier (kind : IoKind) (error : Error) :
    Wraps (.io (.around kind error)) .carrier (.error error)
  | warmupFailed (failure : Failure) :
    Wraps (.kind (.warmupFailed failure)) .warmupFailed (.failure failure)
  | failure (attempt : Nat) (error : Error) :
    Wraps (.failure ⟨attempt, error⟩) (.failure attempt) (.error error)

/-- A part is built of the layers, from the outside in, over the leaf. -/
inductive Nested : Part → List Layer → Leaf → Prop
  | leaf {part : Part} {leaf : Leaf} (bare : part = leaf.part) : Nested part [] leaf
  | wrap {outer inner : Part} {layer : Layer} {layers : List Layer} {leaf : Leaf}
      (wraps : Wraps outer layer inner) (nested : Nested inner layers leaf) :
    Nested outer (layer :: layers) leaf

section

variable {part outer inner inner' : Part} {layer layer' : Layer} {layers layers' : List Layer}
  {leaf leaf' : Leaf}

theorem Wraps.unique (wraps : Wraps outer layer inner) (wraps' : Wraps outer layer' inner') :
    layer' = layer ∧ inner' = inner := by
  cases wraps <;> cases wraps' <;> exact ⟨rfl, rfl⟩

theorem Wraps.sizeOf_lt (wraps : Wraps outer layer inner) : sizeOf inner < sizeOf outer := by
  cases wraps <;> simp <;> omega

theorem not_wraps_leaf (leaf : Leaf) : ¬ Wraps leaf.part layer inner := by
  intro wraps
  cases leaf <;> cases wraps

theorem leaf_or_wraps (part : Part) :
    (∃ leaf : Leaf, part = leaf.part) ∨ ∃ layer inner, Wraps part layer inner := by
  cases part with
  | error error =>
    obtain ⟨kind⟩ := error
    exact .inr ⟨_, _, .error kind⟩
  | failure failure =>
    obtain ⟨attempt, error⟩ := failure
    exact .inr ⟨_, _, .failure attempt error⟩
  | io error =>
    cases error with
    | plain kind => exact .inl ⟨.plainIo kind, rfl⟩
    | message kind message => exact .inl ⟨.messageIo kind message, rfl⟩
    | around kind error => exact .inr ⟨_, _, .carrier kind error⟩
  | kind kind =>
    cases kind with
    | invalidArgument reason => exact .inl ⟨.invalidArgument reason, rfl⟩
    | establishment message => exact .inl ⟨.establishment message, rfl⟩
    | panicked payload => exact .inl ⟨.panicked payload, rfl⟩
    | internal mishap => exact .inl ⟨.internal mishap, rfl⟩
    | io error => exact .inr ⟨_, _, .io error⟩
    | warmupFailed failure => exact .inr ⟨_, _, .warmupFailed failure⟩
    | custom cause =>
      cases cause with
      | message message => exact .inl ⟨.custom message, rfl⟩
      | error error => exact .inr ⟨_, _, .customError error⟩
      | kind kind => exact .inr ⟨_, _, .customKind kind⟩
      | io error => exact .inr ⟨_, _, .customIo error⟩
      | failure failure => exact .inr ⟨_, _, .customFailure failure⟩

/-- Every nesting comes to an end, since what a part is around is smaller than the part. -/
theorem exists_nested (part : Part) : ∃ layers leaf, Nested part layers leaf := by
  rcases leaf_or_wraps part with ⟨leaf, bare⟩ | ⟨layer, inner, wraps⟩
  · exact ⟨[], leaf, .leaf bare⟩
  · obtain ⟨layers, leaf, nested⟩ := exists_nested inner
    exact ⟨layer :: layers, leaf, .wrap wraps nested⟩
termination_by sizeOf part
decreasing_by exact wraps.sizeOf_lt

theorem Nested.unique (nested : Nested part layers leaf) (nested' : Nested part layers' leaf') :
    layers' = layers ∧ leaf' = leaf := by
  induction nested generalizing layers' with
  | leaf bare =>
    cases nested' with
    | leaf bare' => exact ⟨rfl, Leaf.part_injective (bare'.symm.trans bare)⟩
    | wrap wraps' => exact absurd (bare ▸ wraps') (not_wraps_leaf _)
  | wrap wraps _ ih =>
    cases nested' with
    | leaf bare' => exact absurd (bare' ▸ wraps) (not_wraps_leaf _)
    | wrap wraps' nested' =>
      obtain ⟨rfl, rfl⟩ := wraps.unique wraps'
      obtain ⟨rfl, rfl⟩ := ih nested'
      exact ⟨rfl, rfl⟩

theorem Nested.head?_eq_some_iff (nested : Nested part layers leaf) :
    layers.head? = some layer ↔ ∃ inner, Wraps part layer inner := by
  cases nested with
  | leaf bare =>
    refine iff_of_false (by simp) ?_
    rintro ⟨inner, wraps⟩
    exact not_wraps_leaf _ (bare ▸ wraps)
  | wrap wraps _ =>
    rw [List.head?_cons, Option.some.injEq]
    refine ⟨fun same => ⟨_, same ▸ wraps⟩, ?_⟩
    rintro ⟨inner, wraps'⟩
    exact (wraps.unique wraps').1.symm

end

def Part.display : Part → String
  | error whole => whole.display
  | kind form => form.display
  | io cause => cause.display
  | failure record => record.display

theorem Leaf.display_part (leaf : Leaf) : leaf.part.display = leaf.text := by
  cases leaf <;> rfl

theorem Wraps.display {outer inner : Part} {layer : Layer} (wraps : Wraps outer layer inner) :
    outer.display = layer.phrase ++ inner.display := by
  cases wraps with
  | error | io | warmupFailed | failure => rfl
  | customError | customKind | customIo | customFailure | carrier => exact String.empty_append.symm

/-- Every layer says its phrase once, and nothing of what the leaf says is left out. -/
theorem Nested.display {part : Part} {layers : List Layer} {leaf : Leaf}
    (nested : Nested part layers leaf) :
    part.display = String.join (layers.map Layer.phrase) ++ leaf.text := by
  induction nested with
  | leaf bare => rw [bare, Leaf.display_part, List.map_nil, String.join_nil, String.empty_append]
  | wrap wraps _ ih => rw [wraps.display, ih, List.map_cons, String.join_cons, String.append_assoc]

namespace Error

structure AnswersLike (error other : Error) : Prop where
  isWarmupFailure : error.isWarmupFailure = other.isWarmupFailure
  isNetworkError : error.isNetworkError = other.isNetworkError
  failure : error.failure?.isSome = other.failure?.isSome

structure Tells (error : Error) (layers : List Layer) (leaf : Leaf) : Prop where
  display : error.display = String.join (layers.map Layer.phrase) ++ leaf.text
  ending : leaf.text.toList <:+ error.display.toList
  isWarmupFailure : error.isWarmupFailure = true ↔ layers[1]? = some .warmupFailed
  isNetworkError : error.isNetworkError = true ↔ layers[1]? = some .io
  failure : ∀ failure, error.failure? = some failure ↔
    Wraps (.kind error.kind) .warmupFailed (.failure failure)
  alike : ∀ other : Error, error.kind.name = other.kind.name → error.AnswersLike other

theorem isWarmupFailure_iff (error : Error) :
    error.isWarmupFailure = true ↔ ∃ inner, Wraps (.kind error.kind) .warmupFailed inner := by
  obtain ⟨kind⟩ := error
  constructor
  · intro answer
    cases kind <;> cases answer
    exact ⟨_, .warmupFailed _⟩
  · rintro ⟨inner, wraps⟩
    cases wraps
    rfl

theorem isNetworkError_iff (error : Error) :
    error.isNetworkError = true ↔ ∃ inner, Wraps (.kind error.kind) .io inner := by
  obtain ⟨kind⟩ := error
  constructor
  · intro answer
    cases kind <;> cases answer
    exact ⟨_, .io _⟩
  · rintro ⟨inner, wraps⟩
    cases wraps
    rfl

theorem failure?_eq_some_iff (error : Error) (failure : Failure) :
    error.failure? = some failure ↔ Wraps (.kind error.kind) .warmupFailed (.failure failure) := by
  obtain ⟨kind⟩ := error
  constructor
  · intro answer
    cases kind <;> cases answer
    exact .warmupFailed _
  · intro wraps
    cases wraps
    rfl

theorem second_layer {error : Error} {layers : List Layer} {leaf : Leaf} {layer : Layer}
    (nested : Nested (.error error) layers leaf) :
    layers[1]? = some layer ↔ ∃ inner, Wraps (.kind error.kind) layer inner := by
  cases nested with
  | leaf bare => cases leaf <;> cases bare
  | wrap wraps nested =>
    cases wraps
    rw [← nested.head?_eq_some_iff, List.getElem?_cons_succ, List.head?_eq_getElem?]

theorem isWarmupFailure_eq (error : Error) :
    error.isWarmupFailure = decide (error.kind.name = "WarmupFailed") := by
  obtain ⟨kind⟩ := error
  cases kind <;> rfl

theorem isNetworkError_eq (error : Error) :
    error.isNetworkError = decide (error.kind.name = "Io") := by
  obtain ⟨kind⟩ := error
  cases kind <;> rfl

theorem isSome_failure? (error : Error) : error.failure?.isSome = error.isWarmupFailure := by
  obtain ⟨kind⟩ := error
  cases kind <;> rfl

theorem answersLike_of_name {error other : Error} (same : error.kind.name = other.kind.name) :
    error.AnswersLike other where
  isWarmupFailure := by rw [isWarmupFailure_eq, isWarmupFailure_eq, same]
  isNetworkError := by rw [isNetworkError_eq, isNetworkError_eq, same]
  failure := by rw [isSome_failure?, isSome_failure?, isWarmupFailure_eq, isWarmupFailure_eq, same]

theorem tells_of_nested {error : Error} {layers : List Layer} {leaf : Leaf}
    (nested : Nested (.error error) layers leaf) : error.Tells layers leaf where
  display := nested.display
  ending := by
    have display : error.display = _ := nested.display
    rw [display, String.toList_append]
    exact List.suffix_append _ _
  isWarmupFailure := by rw [error.isWarmupFailure_iff, second_layer nested]
  isNetworkError := by rw [error.isNetworkError_iff, second_layer nested]
  failure := error.failure?_eq_some_iff
  alike _ := answersLike_of_name

/-- An error is built in exactly one way, of finitely many layers over one leaf. Its text is the
phrases of the layers, each once and from the outside in, and then the text of the leaf, which is
thus never lost. Its answers are those of its outermost kind, whatever is inside: only a failed
warm-up tells a failure, and it tells the one that it is directly around. -/
theorem display_keeps_cause (error : Error) :
    ∃ layers leaf,
      (∀ layers' leaf', Nested (.error error) layers' leaf' ↔ layers' = layers ∧ leaf' = leaf) ∧
      error.Tells layers leaf := by
  obtain ⟨layers, leaf, nested⟩ := exists_nested (.error error)
  refine ⟨layers, leaf, fun layers' leaf' => ⟨nested.unique, ?_⟩, tells_of_nested nested⟩
  rintro ⟨rfl, rfl⟩
  exact nested

/-- A failed warm-up in the cause of another error is told by the text alone. -/
example :
    let failed : Error := ⟨.warmupFailed ⟨3, ⟨.io (.around .timedOut (ofPanic (.text "boom")))⟩⟩⟩
    let error : Error := ⟨.custom (.error failed)⟩
    error.display = "Kind: Kind: Connection pool warm-up failed: connection attempt 3 failed: " ++
        "Kind: I/O error: Kind: Connection establisher panicked: boom" ∧
      error.isWarmupFailure = false ∧ error.failure? = none ∧ failed.isWarmupFailure = true := by
  decide

end Error

end Preconnect
