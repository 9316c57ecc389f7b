import Mathlib.Data.List.Basic

/-!
The values which adapter calls settle with, the errors of the transaction runtime, and
the inspection of the RETURN parameter which decides whether a commit or a rollback has
succeeded.
-/

namespace OpenRfc.Transaction

/-- A settled value. Only own data properties are read of an object. -/
inductive JsValue
  | undefined
  | null
  | string (characters : List Char)
  | array (items : List JsValue)
  | object (properties : List (String × JsValue))
  /-- A number, a boolean, a symbol or a function. -/
  | other

namespace JsValue

/-- `typeof value === "object" && value !== null` -/
def isObject : JsValue → Bool
  | .array _ | .object _ => true
  | _ => false

/-- An object which is not an array. -/
def isStructure : JsValue → Bool
  | .object _ => true
  | _ => false

/-- `Object.hasOwn`, and the value read if so. -/
def own (key : String) : JsValue → Option JsValue
  | .object properties => (properties.find? fun p => p.1 == key).map (·.2)
  | _ => none

/-- A property read. -/
def get (key : String) (v : JsValue) : JsValue := (v.own key).getD .undefined

end JsValue

/-- What `String.prototype.trim` removes. -/
def isJsSpace (c : Char) : Bool :=
  c ∈ ['\t', '\n', '\x0b', '\x0c', '\r', ' ', '\u00a0', '\u1680', '\u2028', '\u2029', '\u202f',
    '\u205f', '\u3000', '\ufeff'] || ('\u2000' ≤ c && c ≤ '\u200a')

def trim (s : List Char) : List Char :=
  ((s.dropWhile isJsSpace).reverse.dropWhile isJsSpace).reverse

/-- `toUpperCase` of a character whose upper case is an ASCII letter. The two which are
not ASCII themselves are the dotless i and the long s. -/
def toUpper : Char → Char
  | '\u0131' => 'I'
  | '\u017f' => 'S'
  | c => c.toUpper

inductive TransactionRuntimeState
  | idle
  | opening
  | active
  | calling
  | committing
  | rollingBack
  | resetting
  | releasing
  | closing
  | failed
  | closed
deriving DecidableEq, Repr

inductive TransactionOutcome
  | none
  | active
  | committed
  | rolledBack
  | rejected
  | ambiguous
deriving DecidableEq, Repr

inductive ControlOperation
  | commit
  | rollback
deriving DecidableEq, Repr

inductive TransactionRuntimeErrorCode
  | invalidTransactionToken
  | invalidTransactionState
  | transactionClosing
  | concurrentTransactionOperation
  | operationTimeout
  | invalidControlResult
deriving DecidableEq, Repr

structure TransactionBapiReturn where
  type : List Char
  id : List Char
  number : List Char
  message : List Char

/-- What a promise is rejected with. `foreign` is a value thrown by caller code. -/
inductive Failure
  | runtimeError (code : TransactionRuntimeErrorCode) (message : String)
  | bapiError (operation : ControlOperation) (returns : List TransactionBapiReturn)
  | terminalError (outcome : TransactionOutcome) (errors : List Failure) (message : String)
  | aggregate (errors : List Failure) (message : String)
  | typeError (message : String)
  | rangeError (message : String)
  | error (message : String)
  | foreign (value : Nat)

def runtimeError (code : TransactionRuntimeErrorCode) (message : String) : Failure :=
  .runtimeError code message

def Failure.isTimeout : Failure → Bool
  | .runtimeError .operationTimeout _ => true
  | _ => false

def ControlOperation.text : ControlOperation → String
  | .commit => "commit"
  | .rollback => "rollback"

def ControlOperation.functionName : ControlOperation → String
  | .commit => "BAPI_TRANSACTION_COMMIT"
  | .rollback => "BAPI_TRANSACTION_ROLLBACK"

/-- The outcome of a control operation which has succeeded. -/
def ControlOperation.outcome : ControlOperation → TransactionOutcome
  | .commit => .committed
  | .rollback => .rolledBack

def ControlOperation.state : ControlOperation → TransactionRuntimeState
  | .commit => .committing
  | .rollback => .rollingBack

def resultObject (value : JsValue) (operation : String) : Except Failure JsValue :=
  if value.isStructure then .ok value
  else .error (runtimeError .invalidControlResult s!"{operation} must return an object")

def controlledReturnText (value : JsValue) (path : String) : Except Failure (List Char) :=
  match value with
  | .undefined | .null => .ok []
  | .string characters => .ok (characters.take 1024)
  | _ => .error (runtimeError .invalidControlResult s!"{path} must be a string")

def messageTypes : List (List Char) := [[], ['A'], ['E'], ['I'], ['S'], ['W'], ['X']]

def controlledReturnType (value : JsValue) (path : String) : Except Failure (List Char) :=
  match value with
  | .string characters =>
      let type := (trim characters).map toUpper
      if type ∈ messageTypes then .ok type
      else .error (runtimeError .invalidControlResult
        s!"{path} must be blank or one of A, E, I, S, W, X")
  | _ => .error (runtimeError .invalidControlResult s!"{path} must be a string")

def inspectRow (operation : ControlOperation) (index : Nat) (row : JsValue) :
    Except Failure TransactionBapiReturn :=
  if row.isStructure then
    match row.own "TYPE" with
    | none => .error (runtimeError .invalidControlResult
        s!"{operation.text} RETURN[{index}].TYPE is required")
    | some t => do
        return {
          type := ← controlledReturnType t s!"RETURN[{index}].TYPE"
          id := ← controlledReturnText (row.get "ID") s!"RETURN[{index}].ID"
          number := ← controlledReturnText (row.get "NUMBER") s!"RETURN[{index}].NUMBER"
          message := ← controlledReturnText (row.get "MESSAGE") s!"RETURN[{index}].MESSAGE" }
  else .error (runtimeError .invalidControlResult
    s!"{operation.text} RETURN[{index}] must be a structure")

def inspectRows (operation : ControlOperation) :
    Nat → List JsValue → Except Failure (List TransactionBapiReturn)
  | _, [] => .ok []
  | index, row :: rows => do
      let item ← inspectRow operation index row
      let items ← inspectRows operation (index + 1) rows
      return item :: items

def TransactionBapiReturn.isFailure (item : TransactionBapiReturn) : Bool :=
  item.type ∈ [['A'], ['E'], ['X']]

/-- `Array.isArray(raw) ? raw : [raw]` -/
def returnRows : JsValue → List JsValue
  | .array items => items
  | v => [v]

def inspectControlReturn (operation : ControlOperation) (result : JsValue) :
    Except Failure Unit :=
  match result.own "RETURN" with
  | none => .error (runtimeError .invalidControlResult
      s!"{operation.functionName} result must contain RETURN")
  | some raw =>
      if returnRows raw = [] then
        .error (runtimeError .invalidControlResult
          s!"{operation.text} RETURN must contain at least one structure")
      else do
        let normalized ← inspectRows operation 0 (returnRows raw)
        let failures := normalized.filter TransactionBapiReturn.isFailure
        if failures ≠ [] then throw (.bapiError operation failures)

/-- A RETURN whose rows are structures with a message type, none of them A, E or X. -/
def ReturnClean (result : JsValue) : Prop :=
  ∃ raw, result.own "RETURN" = some raw ∧ returnRows raw ≠ [] ∧
    ∀ row ∈ returnRows raw, ∃ characters, row.own "TYPE" = some (.string characters) ∧
      (trim characters).map toUpper ∉ [['A'], ['E'], ['X']]

theorem controlledReturnType_ok {v : JsValue} {path : String} {type : List Char}
    (h : controlledReturnType v path = .ok type) :
    ∃ characters, v = .string characters ∧ type = (trim characters).map toUpper := by
  unfold controlledReturnType at h
  split at h
  · rename_i characters
    refine ⟨characters, rfl, ?_⟩
    dsimp only at h
    split at h
    · cases h
      rfl
    · cases h
  · cases h

theorem ok_of_bind {α β : Type} {x : Except Failure α} {f : α → Except Failure β} {b : β}
    (h : (x >>= f) = .ok b) : ∃ a, x = .ok a ∧ f a = .ok b := by
  cases x with
  | error e => cases h
  | ok a => exact ⟨a, rfl, h⟩

theorem inspectRow_ok {op : ControlOperation} {i : Nat} {row : JsValue}
    {item : TransactionBapiReturn} (h : inspectRow op i row = .ok item) :
    ∃ characters, row.own "TYPE" = some (.string characters) ∧
      item.type = (trim characters).map toUpper := by
  unfold inspectRow at h
  split at h
  · split at h
    · cases h
    · rename_i t ht
      obtain ⟨type, htype, h⟩ := ok_of_bind h
      obtain ⟨id, _, h⟩ := ok_of_bind h
      obtain ⟨number, _, h⟩ := ok_of_bind h
      obtain ⟨message, _, h⟩ := ok_of_bind h
      obtain ⟨characters, rfl, rfl⟩ := controlledReturnType_ok htype
      cases h
      exact ⟨characters, ht, rfl⟩
  · cases h

/-- The rows are inspected one by one, each becoming one item. -/
theorem inspectRows_ok {op : ControlOperation} {rows : List JsValue} {i : Nat}
    {items : List TransactionBapiReturn} (h : inspectRows op i rows = .ok items) :
    ∀ row ∈ rows, ∃ item ∈ items, ∃ j, inspectRow op j row = .ok item := by
  induction rows generalizing i items with
  | nil => intro row hrow; cases hrow
  | cons first rest ih =>
      obtain ⟨item, hfirst, h⟩ := ok_of_bind h
      obtain ⟨others, hrest, h⟩ := ok_of_bind h
      cases h
      intro row hrow
      cases List.mem_cons.mp hrow with
      | inl heq => exact ⟨item, List.mem_cons_self, i, heq ▸ hfirst⟩
      | inr hmem =>
          obtain ⟨x, hx, hrow⟩ := ih hrest row hmem
          exact ⟨x, List.mem_cons_of_mem _ hx, hrow⟩

theorem returnClean_of_inspect {op : ControlOperation} {result : JsValue}
    (h : inspectControlReturn op result = .ok ()) : ReturnClean result := by
  unfold inspectControlReturn at h
  split at h
  · cases h
  rename_i raw hraw
  split at h
  · cases h
  rename_i hne
  obtain ⟨items, hrows, h⟩ := ok_of_bind h
  refine ⟨raw, hraw, hne, fun row hrow => ?_⟩
  obtain ⟨item, hitem, i, hrow⟩ := inspectRows_ok hrows row hrow
  obtain ⟨characters, htype, heq⟩ := inspectRow_ok hrow
  refine ⟨characters, htype, fun hbad => ?_⟩
  have hfailure : item ∈ items.filter TransactionBapiReturn.isFailure := by
    apply List.mem_filter.mpr
    exact ⟨hitem, by simpa [TransactionBapiReturn.isFailure, heq] using hbad⟩
  rw [if_pos (List.ne_nil_of_mem hfailure)] at h
  cases h

end OpenRfc.Transaction
