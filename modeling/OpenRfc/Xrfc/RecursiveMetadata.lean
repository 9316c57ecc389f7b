import OpenRfc.Xrfc.ClassicParameter

/-!
The graph of types behind the parameters of a function: structures and tables by name, their fields,
and the references between them.
-/

namespace OpenRfc.Xrfc
open Classic (RfcExid)

inductive RecursiveMetadataReference
  | scalar (internalType : RfcExid)
  | container (kind : ClassicXrfcKind) (targetType : JsString) (cyclic : Bool)
deriving DecidableEq, Repr

structure RecursiveMetadataField where
  name : JsString
  position : Nat
  internalType : RfcExid
  decimals : Nat
  ucLength : Nat
  reference : RecursiveMetadataReference
deriving DecidableEq, Repr

inductive RecursiveMetadataKind
  | container (kind : ClassicXrfcKind)
  | scalar
deriving DecidableEq, Repr

structure RecursiveMetadataTypeNode where
  name : JsString
  kind : RecursiveMetadataKind
  fields : List RecursiveMetadataField
deriving DecidableEq, Repr

inductive RfcParameterClass
  | importing | exporting | changing | tables | exception
deriving DecidableEq, Repr

inductive RecursiveMetadataParameterReference
  | type (reference : RecursiveMetadataReference)
  | scalarLine (internalType : RfcExid)
  | exception
deriving DecidableEq, Repr

structure RecursiveMetadataParameter where
  functionName : JsString
  name : JsString
  parameterClass : RfcParameterClass
  associatedType : JsString
  internalType : RfcExid
  reference : RecursiveMetadataParameterReference
deriving DecidableEq, Repr

structure RecursiveMetadataLimits where
  maxNodes : Nat
  maxRows : Nat
  maxEdges : Nat
deriving Repr

/-- A graph has one node of a name at most. The identity of the function is its name. -/
structure RecursiveMetadataGraph where
  functionIdentity : Option JsString
  nodes : List (JsString × RecursiveMetadataTypeNode)
  parameters : List RecursiveMetadataParameter
  limits : RecursiveMetadataLimits
  distinct : (nodes.map (·.1)).Nodup

def RecursiveMetadataGraph.node? (graph : RecursiveMetadataGraph) (name : JsString) :
    Option RecursiveMetadataTypeNode :=
  graph.nodes.lookup name

end OpenRfc.Xrfc
