import OpenRfc.Metadata.Keys
import OpenRfc.Structures.Answers
import OpenRfc.Xrfc.RecursiveMetadata
import OpenRfc.Classic.StructureRoundTrip

/-!
The loaders of structure definitions which a session has, and their delivery through the runtime of
a destination. The runtime insists on the name which was asked for.
-/

namespace OpenRfc.Structures
open Fallible Classic Values Xrfc
open Cpic
open Metadata (MetadataLoadStrategy)

section Cache

/-- The definitions which a session has loaded. A name may stand for the definition of another
name, which is then kept under its own name as well. -/
structure DefinitionCache where
  entries : List (JsString × RfcStructureDefinition)
  resolved : ∀ name definition, entries.lookup name = some definition →
    entries.lookup definition.name = some definition

namespace DefinitionCache

def empty : DefinitionCache := ⟨[], nofun⟩

def add (cache : DefinitionCache) (name : JsString) (definition : RfcStructureDefinition)
    (hnew : cache.entries.lookup name = none)
    (hresolved : name = definition.name ∨
      cache.entries.lookup definition.name = some definition) : DefinitionCache where
  entries := (name, definition) :: cache.entries
  resolved := by
    intro key found hfound
    rw [List.lookup_cons] at hfound
    rw [List.lookup_cons]
    by_cases hkey : key = name
    · subst hkey
      rw [beq_self_eq_true] at hfound
      obtain rfl := Option.some.inj hfound
      by_cases hname : definition.name = key
      · rw [hname, beq_self_eq_true]
      · rw [beq_eq_false_iff_ne.mpr hname]
        exact hresolved.resolve_left (Ne.symm hname)
    · rw [beq_eq_false_iff_ne.mpr hkey] at hfound
      have hold := cache.resolved key found hfound
      by_cases hname : found.name = name
      · rw [hname, hnew] at hold
        cases hold
      · rw [beq_eq_false_iff_ne.mpr hname]
        exact hold

end DefinitionCache
end Cache

section Loaders

/-- What the server answers: the fields of a response, and the output of RFC_METADATA_GET. -/
structure Peer where
  fieldInfo : JsString → Except String (List CpicField)
  structureDefinition : JsString → Except String (List CpicField)
  metadataGet : JsString → JsString → Except String RfcValue

structure Session where
  authenticated : Bool
  structures : DefinitionCache

variable (host : Host) (peer : Peer)

def fieldInfoDefinition (name : JsString) : Except String RfcStructureDefinition := do
  let _ ← ddIfMetadataName name "structureName"
  let fields ← peer.fieldInfo name
  decodeDdIfFieldInfoGetResult host name fields

theorem name_of_fieldInfoDefinition {name : JsString} {definition : RfcStructureDefinition}
    (h : fieldInfoDefinition host peer name = .ok definition) : definition.name = name := by
  simp only [fieldInfoDefinition, bind_eq_ok] at h
  obtain ⟨-, -, fields, -, h⟩ := h
  exact name_of_decodeDdIfFieldInfoGetResult h

/-- The answer of RFC_GET_STRUCTURE_DEFINITION. -/
def legacyFields (name : JsString) : Except String (List CpicField) := do
  let _ ← encodeAbapChar name 30
  peer.structureDefinition name

/-- The answer for a name, and the structure of the lines if it is a table type. -/
def legacyRowName (name : JsString) : Except String (List CpicField × Option JsString) := do
  let fields ← legacyFields peer name
  let rowName ← detectRfcStructureDefinitionRowName name fields
  .ok (fields, rowName)

theorem ne_of_legacyRowName {name rowName : JsString} {fields : List CpicField}
    (h : legacyRowName peer name = .ok (fields, some rowName)) : rowName ≠ name := by
  simp only [legacyRowName, detectRfcStructureDefinitionRowName, bind_eq_ok, Except.ok.injEq,
    Prod.mk.injEq] at h
  obtain ⟨_, -, detected, ⟨result, -, hdetected⟩, -, rfl⟩ := h
  cases htable : table? result "FIELDS" with
  | none =>
      rw [htable] at hdetected
      cases hdetected
  | some fieldTable =>
      simp only [htable, bind_eq_ok, Except.ok.injEq] at hdetected
      obtain ⟨-, -, owner, -, hdetected⟩ := hdetected
      split at hdetected
      · cases hdetected
      · rename_i hother
        rintro rfl
        exact hother hdetected

def legacyDefinition (name : JsString) : Except String RfcStructureDefinition := do
  let fields ← legacyFields peer name
  decodeRfcStructureDefinitionResult name fields

theorem name_of_legacyDefinition {name : JsString} {definition : RfcStructureDefinition}
    (h : legacyDefinition peer name = .ok definition) : definition.name = name := by
  simp only [legacyDefinition, bind_eq_ok] at h
  obtain ⟨fields, -, h⟩ := h
  exact name_of_decodeRfcStructureDefinitionResult h

namespace Session
variable (session : Session)

/-- The classic loader. -/
def getStructureDefinition (name : JsString) : Except String RfcStructureDefinition × Session :=
  if session.authenticated then
    match hcached : session.structures.entries.lookup name with
    | some cached => (.ok cached, session)
    | none =>
      match hdefinition : fieldInfoDefinition host peer name with
      | .error e => (.error e, session)
      | .ok definition =>
        have hname := name_of_fieldInfoDefinition host peer hdefinition
        (.ok definition,
          { session with structures := session.structures.add name definition hcached (.inl hname.symm) })
  else
    (.error "direct CPIC session must be authenticated before structure metadata lookup", session)

/-- The loader of old repositories. A table type is followed to the structure of its lines, and no
further. -/
def getLegacyStructureDefinition (name : JsString) :
    Except String RfcStructureDefinition × Session :=
  if session.authenticated then
    match hcached : session.structures.entries.lookup name with
    | some cached => (.ok cached, session)
    | none =>
      match hrow : legacyRowName peer name with
      | .error e => (.error e, session)
      | .ok (fields, none) =>
        match hdefinition : decodeRfcStructureDefinitionResult name fields with
        | .error e => (.error e, session)
        | .ok definition =>
          have hname := name_of_decodeRfcStructureDefinitionResult hdefinition
          (.ok definition,
            { session with structures := session.structures.add name definition hcached (.inl hname.symm) })
      | .ok (_, some rowName) =>
        match hcachedRow : session.structures.entries.lookup rowName with
        | some cachedRow =>
          have hresolved := session.structures.resolved rowName cachedRow hcachedRow
          (.ok cachedRow,
            { session with structures := session.structures.add name cachedRow hcached (.inr hresolved) })
        | none =>
          match hdefinition : legacyDefinition peer rowName with
          | .error e => (.error e, session)
          | .ok rowDefinition =>
            have hname := name_of_legacyDefinition peer hdefinition
            let structures := session.structures.add rowName rowDefinition hcachedRow (.inl hname.symm)
            have hnew : structures.entries.lookup name = none := by
              have hother : (name == rowName) = false :=
                beq_eq_false_iff_ne.mpr (ne_of_legacyRowName peer hrow).symm
              change List.lookup name ((rowName, rowDefinition) :: session.structures.entries) = none
              rw [List.lookup_cons, hother]
              exact hcached
            have hresolved : structures.entries.lookup rowDefinition.name = some rowDefinition := by
              change List.lookup _ ((rowName, rowDefinition) :: session.structures.entries) = _
              rw [List.lookup_cons, hname, beq_self_eq_true]
            (.ok rowDefinition,
              { session with structures := structures.add name rowDefinition hnew (.inr hresolved) })
  else (.error "direct CPIC session must be authenticated before metadata lookup", session)

/-- The optimized loader, which keeps nothing. -/
def getOptimizedStructureDescriptor (name language : JsString) :
    Except String RfcMetadataGetStructureResult := do
  require (session.authenticated = true)
    "direct CPIC session must be authenticated before optimized structure metadata lookup"
  let _ ← metadataName name "structureName"
  require (language.length = 1 ∧ isPrintable language)
    "language must contain one printable SAP language code"
  let output ← peer.metadataGet name language
  normalizeRfcMetadataGetStructureResult host name output

/-- `/^structure:\d{14}$/u` -/
def isStructureToken (token : JsString) : Bool :=
  token.take 10 = JsString.literal "structure:" && isDigits 14 (token.drop 10)

/-- The loader which a strategy selects. -/
def load (strategy : MetadataLoadStrategy) (name language : JsString) :
    Except String RfcStructureDefinition × Session :=
  match strategy with
  | .optimized =>
    ((session.getOptimizedStructureDescriptor host peer name language).map (·.value), session)
  | .legacyV3 => session.getLegacyStructureDefinition peer name
  | .classic => session.getStructureDefinition host peer name

end Session
end Loaders

section Runtime

inductive DestinationMetadataDescriptor
  | function (name : JsString)
  | recursiveFunction (graph : RecursiveMetadataGraph)
  | structured (definition : RfcStructureDefinition)

inductive DescriptorKind
  | function | recursiveFunction | structured
deriving DecidableEq, Repr

def DestinationMetadataDescriptor.kind : DestinationMetadataDescriptor → DescriptorKind
  | function _ => .function
  | recursiveFunction _ => .recursiveFunction
  | structured _ => .structured

def descriptorMatches (descriptor : DestinationMetadataDescriptor) (objectKind : DescriptorKind)
    (objectName : JsString) : Bool :=
  descriptor.kind = objectKind &&
    match descriptor with
    | .function name => name = objectName
    | .recursiveFunction graph => graph.functionIdentity = some objectName
    | .structured definition => definition.name = objectName

/-- A destination: the session of its repository lane, the structures which its repository keeps,
and the ones which it had to forget. -/
structure Destination where
  session : Session
  repository : List (JsString × DestinationMetadataDescriptor)
  invalidated : List JsString

variable (host : Host) (peer : Peer) (strategy : MetadataLoadStrategy) (language : JsString)

/-- The load of a structure, whose token is checked if there is one. -/
def loadMetadata (name : JsString) (destination : Destination) :
    Except String DestinationMetadataDescriptor × Destination :=
  match strategy with
  | .optimized =>
    ((do
      let optimized ← destination.session.getOptimizedStructureDescriptor host peer name language
      require (Session.isStructureToken optimized.generationToken = true)
        "optimized structure metadata returned an invalid generation token"
      .ok (.structured optimized.value)), destination)
  | _ =>
    let (definition, session) := destination.session.load host peer strategy name language
    (definition.map .structured, { destination with session })

/-- A hit of the repository, or a load which it keeps. -/
def repositoryGet (name : JsString) (destination : Destination) :
    Except String DestinationMetadataDescriptor × Destination :=
  match destination.repository.lookup name with
  | some descriptor => (.ok descriptor, destination)
  | none =>
    match loadMetadata host peer strategy language name destination with
    | (.error e, destination) => (.error e, destination)
    | (.ok descriptor, destination) =>
      (.ok descriptor,
        { destination with repository := (name, descriptor) :: destination.repository })

def invalidate (name : JsString) (destination : Destination) : Destination where
  session := destination.session
  repository := destination.repository.filter fun entry => entry.1 ≠ name
  invalidated := name :: destination.invalidated

/-- `RfcDestinationRuntime.#get` of a structure -/
def runtimeGet (name : JsString) (destination : Destination) :
    Except String DestinationMetadataDescriptor × Destination :=
  match repositoryGet host peer strategy language name destination with
  | (.error e, destination) => (.error e, destination)
  | (.ok descriptor, destination) =>
    if descriptorMatches descriptor .structured name then (.ok descriptor, destination)
    else (.error ("metadata repository returned a mismatched descriptor for structure " ++ name.text),
      invalidate name destination)

/-- `DirectDestinationOwner.getStructureDefinition` -/
def getStructureDefinition (name : JsString) (destination : Destination) :
    Except String RfcStructureDefinition × Destination :=
  match metadataName name "structureName" with
  | .error e => (.error e, destination)
  | .ok name =>
    match runtimeGet host peer strategy language name destination with
    | (.ok (.structured definition), destination) => (.ok definition, destination)
    | (.ok _, destination) =>
      (.error ("metadata repository returned another kind for structure " ++ name.text), destination)
    | (.error e, destination) => (.error e, destination)

end Runtime
/-!
A definition which has been loaded is delivered if and only if it carries the name which was asked
for. It does unless the session has followed a table type.
-/

section Tokens

/-- A timestamp which has been found in the rows so far. -/
def HasTimestamp (state : TypeRows) : Prop :=
  ∃ timestamp, state.generationTimestamp = some timestamp ∧ isDigits 14 timestamp = true

theorem hasTimestamp_of_typeRowField {name : JsString} {index : Nat} {state state' : TypeRows}
    {row : RfcRecord} {field : RfcStructureField}
    (h : typeRowField name index state row = .ok (field, state')) : HasTimestamp state' := by
  simp only [typeRowField, fixedDigits, bind_eq_ok, require_eq_ok, exists_const, Except.ok.injEq,
    Prod.mk.injEq] at h
  obtain ⟨_, -, -, timestamp, ⟨value, -, hdigits, rfl⟩, -, _, -, _, -, -, _, -, _, -, -, _, -, _, -, -,
    _, -, -, rfl⟩ := h
  exact ⟨value, rfl, hdigits⟩

theorem hasTimestamp_of_typeRowFields {name : JsString} {index : Nat} {state state' : TypeRows}
    {rows : List RfcRecord} {fields : List RfcStructureField}
    (h : typeRowFields name index state rows = .ok (fields, state'))
    (hrows : HasTimestamp state ∨ rows ≠ []) : HasTimestamp state' := by
  induction rows generalizing index state fields with
  | nil =>
      obtain ⟨-, rfl⟩ := Prod.mk.inj (Except.ok.inj h)
      exact hrows.resolve_right fun hne => hne rfl
  | cons row rows ih =>
      simp only [typeRowFields, bind_eq_ok, Except.ok.injEq, Prod.mk.injEq] at h
      obtain ⟨⟨field, between⟩, hfield, ⟨rest, last⟩, hrest, -, rfl⟩ := h
      exact ih hrest (.inl (hasTimestamp_of_typeRowField hfield))

theorem isStructureToken_literal {timestamp : JsString} (h : isDigits 14 timestamp = true) :
    Session.isStructureToken (JsString.literal "structure:" ++ timestamp) = true := by
  have hlength : (JsString.literal "structure:").length = 10 := by decide
  rw [Session.isStructureToken, ← hlength, List.take_left, List.drop_left, h]
  decide

/-- The token of an optimized definition is one of a structure. -/
theorem isStructureToken_of_normalize {host : Host} {name : JsString} {value : RfcValue}
    {result : RfcMetadataGetStructureResult}
    (h : normalizeRfcMetadataGetStructureResult host name value = .ok result) :
    Session.isStructureToken result.generationToken = true := by
  simp only [normalizeRfcMetadataGetStructureResult, bind_eq_ok, require_eq_ok, exists_const,
    Except.ok.injEq] at h
  obtain ⟨_, -, output, -, failure, -, -, typeRows, -, found, -, hfound, -, ⟨fields, state⟩, hfields,
    descriptor, -, rfl⟩ := h
  obtain ⟨timestamp, htimestamp, hdigits⟩ := hasTimestamp_of_typeRowFields hfields (.inr hfound)
  rw [htimestamp]
  exact isStructureToken_literal hdigits

end Tokens

section Names
variable {host : Host} {peer : Peer} {strategy : MetadataLoadStrategy} {language name : JsString}
  {session : Session} {definition : RfcStructureDefinition}

/-- What a session has kept for a name is the definition of that name, and the answer for a name
which it has not kept is no table type. -/
def NamesRequested (peer : Peer) (strategy : MetadataLoadStrategy) (session : Session)
    (name : JsString) : Prop :=
  match strategy with
  | .optimized => True
  | .classic => ∀ cached ∈ session.structures.entries.lookup name, cached.name = name
  | .legacyV3 => (∀ cached ∈ session.structures.entries.lookup name, cached.name = name) ∧
      (session.structures.entries.lookup name = none →
        ∀ fields rowName, legacyRowName peer name = .ok (fields, rowName) → rowName = none)

theorem name_of_optimized {result : RfcMetadataGetStructureResult}
    (h : session.getOptimizedStructureDescriptor host peer name language = .ok result) :
    result.value.name = name ∧ Session.isStructureToken result.generationToken = true := by
  simp only [Session.getOptimizedStructureDescriptor, bind_eq_ok] at h
  obtain ⟨-, -, _, -, -, -, output, -, h⟩ := h
  exact ⟨name_of_normalizeRfcMetadataGetStructureResult h, isStructureToken_of_normalize h⟩

theorem name_of_classic (h : (session.getStructureDefinition host peer name).1 = .ok definition) :
    definition.name = name ↔ NamesRequested peer .classic session name := by
  rw [Session.getStructureDefinition] at h
  split at h
  · split at h
    · rename_i cached hcached
      obtain rfl := Except.ok.inj h
      simp only [NamesRequested, hcached, Option.mem_some_iff, forall_eq']
    · rename_i hnew
      split at h
      · cases h
      · rename_i loaded hloaded
        obtain rfl := Except.ok.inj h
        refine iff_of_true (name_of_fieldInfoDefinition host peer hloaded) ?_
        rw [NamesRequested, hnew]
        exact nofun
  · cases h

theorem name_of_legacy (h : (session.getLegacyStructureDefinition peer name).1 = .ok definition) :
    definition.name = name ↔ NamesRequested peer .legacyV3 session name := by
  rw [Session.getLegacyStructureDefinition] at h
  split at h
  · split at h
    · rename_i cached hcached
      obtain rfl := Except.ok.inj h
      simp [NamesRequested, hcached]
    · rename_i hnew
      split at h
      · cases h
      · -- A structure has been asked for.
        rename_i fields hrow
        split at h
        · cases h
        · rename_i loaded hloaded
          obtain rfl := Except.ok.inj h
          refine iff_of_true (name_of_decodeRfcStructureDefinitionResult hloaded) ?_
          simp [NamesRequested, hnew, hrow]
      · -- A table type has been asked for, and the definition is the one of its lines.
        rename_i fields rowName hrow
        have htable : ¬NamesRequested peer .legacyV3 session name := fun h =>
          nomatch h.2 hnew fields (some rowName) hrow
        refine iff_of_false ?_ htable
        split at h
        · rename_i cachedRow hcachedRow
          obtain rfl := Except.ok.inj h
          intro hname
          have hresolved := session.structures.resolved rowName cachedRow hcachedRow
          rw [hname, hnew] at hresolved
          cases hresolved
        · split at h
          · cases h
          · rename_i loaded hloaded
            obtain rfl := Except.ok.inj h
            rw [name_of_legacyDefinition peer hloaded]
            exact ne_of_legacyRowName peer hrow
  · cases h

theorem name_of_load (h : (session.load host peer strategy name language).1 = .ok definition) :
    definition.name = name ↔ NamesRequested peer strategy session name := by
  cases strategy with
  | classic => exact name_of_classic h
  | legacyV3 => exact name_of_legacy h
  | optimized =>
      rw [Session.load] at h
      cases hresult : session.getOptimizedStructureDescriptor host peer name language with
      | error e =>
          rw [hresult] at h
          cases h
      | ok result =>
          rw [hresult] at h
          obtain rfl := Except.ok.inj h
          exact iff_of_true (name_of_optimized hresult).1 trivial

end Names

section Delivery
variable {host : Host} {peer : Peer} {strategy : MetadataLoadStrategy} {language name : JsString}
  {definition : RfcStructureDefinition}

/-- The checks behind a load let every definition through. -/
theorem loadMetadata_of_load {destination : Destination}
    (h : (destination.session.load host peer strategy name language).1 = .ok definition) :
    (loadMetadata host peer strategy language name destination).1 = .ok (.structured definition) ∧
      (loadMetadata host peer strategy language name destination).2.invalidated =
        destination.invalidated := by
  cases strategy with
  | classic | legacyV3 =>
      refine ⟨?_, rfl⟩
      rw [loadMetadata]
      · dsimp only
        rw [h]
        rfl
      · exact nofun
  | optimized =>
      refine ⟨?_, rfl⟩
      rw [Session.load] at h
      rw [loadMetadata]
      dsimp only
      cases hresult : destination.session.getOptimizedStructureDescriptor host peer name language with
      | error e =>
          rw [hresult] at h
          cases h
      | ok result =>
          rw [hresult] at h
          obtain rfl := Except.ok.inj h
          rw [ok_bind, require_of (name_of_optimized hresult).2]
          rfl

/-- What a loader has found for an admitted name is delivered, and the repository does not forget
it, if and only if what the session has kept for the name is its own definition, and the answer of
an old repository is no table type. -/
theorem delivered_iff_namesRequested {destination : Destination}
    (hadmitted : metadataName name "structureName" = .ok name)
    (hmiss : destination.repository.lookup name = none)
    (hload : (destination.session.load host peer strategy name language).1 = .ok definition) :
    (getStructureDefinition host peer strategy language name destination).1 = .ok definition ∧
        (getStructureDefinition host peer strategy language name destination).2.invalidated =
          destination.invalidated ↔
      NamesRequested peer strategy destination.session name := by
  rw [← name_of_load hload]
  obtain ⟨hloaded, hinvalidated⟩ := loadMetadata_of_load hload
  cases hmetadata : loadMetadata host peer strategy language name destination with
  | mk result after =>
      rw [hmetadata] at hloaded hinvalidated
      obtain rfl := hloaded
      have hmatches : descriptorMatches (.structured definition) .structured name =
          decide (definition.name = name) := by
        simp [descriptorMatches, DestinationMetadataDescriptor.kind]
      rw [getStructureDefinition, hadmitted]
      dsimp only
      rw [runtimeGet, repositoryGet, hmiss]
      dsimp only
      rw [hmetadata]
      dsimp only
      rw [hmatches]
      by_cases hname : definition.name = name
      · rw [if_pos (decide_eq_true hname)]
        exact iff_of_true ⟨rfl, hinvalidated⟩ hname
      · rw [if_neg (fun h => hname (of_decide_eq_true h))]
        exact iff_of_false (fun h => nomatch h.1) hname

/-- A row of RFC_FIELDS: the number `A` of the structure `L`. -/
def sampleRow : Bytes :=
  (padEnd (JsString.literal "L") 30).utf16le ++ (padEnd (JsString.literal "A") 30).utf16le ++
    [1, 0, 0, 0, 0, 0, 0, 0, 4, 0, 0, 0, 0, 0, 0, 0] ++ (JsString.literal "I").utf16le

/-- A server on which `T` is a table type, and its lines are `L`. -/
def samplePeer : Peer where
  fieldInfo _ := .error "FU_NOT_FOUND"
  structureDefinition _ := .ok
    [⟨Cpic.CpicTag.parameterName, (JsString.literal "TABLENGTH").utf16le⟩,
      ⟨Cpic.CpicTag.parameterValue, [4, 0, 0, 0]⟩,
      ⟨Cpic.CpicTag.tableName, (JsString.literal "FIELDS").utf16le⟩,
      ⟨Cpic.CpicTag.tableHeader, [0, 0, 0, 138, 0, 0, 0, 1]⟩,
      ⟨Cpic.CpicTag.tableContent, sampleRow⟩]
  metadataGet _ _ := .error "FU_NOT_FOUND"

def sampleDefinition : RfcStructureDefinition :=
  ⟨JsString.literal "L", 4, [⟨JsString.literal "L", JsString.literal "A", 1, 0, 4, 0, .int4⟩]⟩

def sampleDestination : Destination := ⟨⟨true, .empty⟩, [], []⟩

/-- The loader of old repositories follows a table type, and the runtime then refuses what it has
found. -/
theorem not_delivered_of_tableType :
    metadataName (JsString.literal "T") "structureName" = .ok (JsString.literal "T") ∧
      (sampleDestination.session.load plainHost samplePeer .legacyV3 (JsString.literal "T")
        (JsString.literal "E")).1 = .ok sampleDefinition ∧
      (getStructureDefinition plainHost samplePeer .legacyV3 (JsString.literal "E")
        (JsString.literal "T") sampleDestination).1.isOk = false ∧
      (getStructureDefinition plainHost samplePeer .legacyV3 (JsString.literal "E")
        (JsString.literal "T") sampleDestination).2.invalidated = [JsString.literal "T"] := by
  decide +kernel

theorem delivered_sample :
    (getStructureDefinition plainHost samplePeer .legacyV3 (JsString.literal "E")
        (JsString.literal "L") sampleDestination).1 = .ok sampleDefinition ∧
      (getStructureDefinition plainHost samplePeer .legacyV3 (JsString.literal "E")
        (JsString.literal "L") sampleDestination).2.invalidated = [] := by
  refine (delivered_iff_namesRequested (by decide) rfl (by decide +kernel)).mpr ?_
  refine ⟨nofun, fun _ fields rowName h => ?_⟩
  have hstructure : (legacyRowName samplePeer (JsString.literal "L")).map (·.2) = .ok none := by
    decide +kernel
  rw [h] at hstructure
  exact Except.ok.inj hstructure

end Delivery
end OpenRfc.Structures
