import BinaryImage.AddressRange.Basic
import BinaryImage.Entity.Basic

/-!
# Specimens

A family of entities for exercising type hierarchies: nodes that carry data and may have an owner,
leaves without data, frames with a header at their own address, and two kinds of marker that take
up no space. Their addresses are not shown.
-/

namespace BinaryImage

structure Features where
  payload : List UInt8
  label : String
  range : AddressRange
  context : Option Context
  deriving DecidableEq, Repr

/-- An entity for exercising type hierarchies. Serial numbers tell specimens apart; a header has
the serial number of its frame. -/
inductive Specimen where
  | node (serial : Nat) (type : TypeId) (features : Features)
  | owned (serial : Nat) (type : TypeId) (features : Features) (owner : Specimen)
  | leaf (serial : Nat) (type : TypeId)
  | framed (serial : Nat) (type headerType : TypeId)
  | header (serial : Nat) (type : TypeId)
  | markerA
  | markerB
  deriving DecidableEq, Repr

namespace Specimen

inductive Kind where
  | node
  | leaf
  | framed
  | markerA
  | markerB
  deriving DecidableEq, Repr

/-- The type of all markers, which is always declared first. -/
def markerType : TypeId := .declared 0

def type : Specimen → TypeId
  | node _ type _ | owned _ type _ _ | leaf _ type | framed _ type _ | header _ type => type
  | markerA | markerB => markerType

/-- Where a specimen is stored. Markers take up no space and share one place. -/
def address : Specimen → Nat
  | node serial .. | owned serial .. | leaf serial _ | framed serial .. | header serial _ =>
    serial + 1
  | markerA | markerB => 0

/-- The concrete kind of a specimen. The header of a frame is a leaf. -/
def kind : Specimen → Kind
  | node .. | owned .. => .node
  | leaf .. | header .. => .leaf
  | framed .. => .framed
  | markerA => .markerA
  | markerB => .markerB

instance : TypedEntity Specimen where
  Kind := Kind
  type := type
  address := address
  kind := kind
  shownAddress := fun _ => "0x????????????"

def features? : Specimen → Option Features
  | node _ _ features | owned _ _ features _ => some features
  | _ => none

def owner? : Specimen → Option Specimen
  | owned _ _ _ owner => some owner
  | _ => none

def header? : Specimen → Option Specimen
  | framed serial _ headerType => some (header serial headerType)
  | _ => none

/-- The payload of a node, and no bytes for any other specimen. -/
def payload (specimen : Specimen) : List UInt8 := (specimen.features?.map Features.payload).getD []

/-- The context of a node itself, which is an object of its own. -/
def ownContext : Specimen → Option SharedContext
  | node serial _ features | owned serial _ features _ =>
    features.context.map fun context => ⟨serial, context⟩
  | _ => none

end Specimen

end BinaryImage
