set_option autoImplicit false

namespace PyDht

/-- The exception classes that the modelled code raises or catches. `stalled`
is none of them: a loop of the model ran out of its step bound. -/
inductive PyError where
  | assertionError (text : String)
  | valueError (text : String)
  | bencodeError (text : String)
  | indexingError (text : String)
  | typeError (text : String)
  | keyError (text : String)
  | overflowError (text : String)
  | zeroDivisionError
  | dhtError (text : String)
  | krpcError (code : Int) (message : String)
  | peerError (category stage text : String)
  | storageError (text : String)
  | databaseError (text : String)
  | osError (text : String)
  | incompleteReadError
  | timeoutError
  | stalled
deriving DecidableEq, Repr

/-- `except ValueError`, with the subclasses the repository defines. -/
def PyError.isValueError : PyError → Bool
  | .valueError _ | .bencodeError _ | .indexingError _ => true
  | _ => false

/-- `except DHTError`, with its subclass. -/
def PyError.isDHTError : PyError → Bool
  | .dhtError _ | .krpcError _ _ => true
  | _ => false

/-- `except (ValueError, TypeError)`. -/
def PyError.isValueOrTypeError : PyError → Bool
  | .typeError _ => true
  | error => error.isValueError

/-- `str(exc)` of the exceptions whose text the modelled code reports. -/
def PyError.text : PyError → String
  | .assertionError text | .valueError text | .bencodeError text | .indexingError text
  | .typeError text | .keyError text | .overflowError text | .dhtError text
  | .peerError _ _ text | .storageError text | .databaseError text | .osError text => text
  | .zeroDivisionError | .incompleteReadError | .timeoutError | .stalled => ""
  | .krpcError code message => s!"KRPC {code}: {message}"

theorem bind_ok_iff {ε α β : Type} {first : Except ε α} {next : α → Except ε β} {result : β} :
    (first >>= next) = .ok result ↔ ∃ value, first = .ok value ∧ next value = .ok result := by
  cases first with
  | error fault => simp [Bind.bind, Except.bind]
  | ok value => simp [Bind.bind, Except.bind]

theorem bind_error_iff {ε α β : Type} {first : Except ε α} {next : α → Except ε β} {fault : ε} :
    (first >>= next) = .error fault ↔
      first = .error fault ∨ ∃ value, first = .ok value ∧ next value = .error fault := by
  cases first with
  | error other => simp [Bind.bind, Except.bind]
  | ok value => simp [Bind.bind, Except.bind]

theorem pure_ok_iff {ε α : Type} {value result : α} :
    (pure value : Except ε α) = .ok result ↔ value = result := by
  simp [pure, Except.pure]

theorem toOption_some_iff {ε α : Type} {outcome : Except ε α} {result : α} :
    outcome.toOption = some result ↔ outcome = .ok result := by
  cases outcome <;> simp [Except.toOption]

/-- A loop none of whose steps raises. -/
theorem mapM_returns {ε α β : Type} {read : α → Except ε β} {value : α → β} {items : List α}
    (each : ∀ item ∈ items, read item = .ok (value item)) :
    items.mapM read = .ok (items.map value) := by
  induction items with
  | nil => rfl
  | cons item rest ih =>
      rw [List.mapM_cons, each item List.mem_cons_self,
        ih fun other member => each other (List.mem_cons_of_mem _ member)]
      rfl

/-- Every exception that the computation may end with is one of these. -/
def Raises (allowed : PyError → Prop) {α : Type} (outcome : Except PyError α) : Prop :=
  ∀ fault, outcome = .error fault → allowed fault

section raises

variable {allowed wider : PyError → Prop} {α β : Type} {first : Except PyError α}
  {next : α → Except PyError β}

theorem Raises.ok (value : α) : Raises allowed (.ok value : Except PyError α) := by
  intro fault failed
  cases failed

theorem Raises.pure (value : α) : Raises allowed (Pure.pure value : Except PyError α) :=
  Raises.ok value

theorem Raises.error {fault : PyError} (known : allowed fault) :
    Raises allowed (.error fault : Except PyError α) := by
  intro other failed
  cases failed
  exact known

theorem Raises.bind (here : Raises allowed first)
    (later : ∀ value, first = .ok value → Raises allowed (next value)) :
    Raises allowed (first >>= next) := by
  intro fault failed
  cases outcome : first with
  | error other =>
      rw [outcome] at failed
      cases failed
      exact here fault outcome
  | ok value =>
      rw [outcome] at failed
      exact later value outcome fault failed

theorem Raises.mono (raises : Raises allowed first)
    (implies : ∀ fault, allowed fault → wider fault) : Raises wider first :=
  fun fault failed => implies fault (raises fault failed)

end raises

end PyDht
