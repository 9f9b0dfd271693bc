/-!
# Intrinsics by name

A method is an intrinsic by what its name starts with, and its call has the convention that the name ends with.
Both tables are searched in order and the first match wins; a name without a known ending has the default convention.
-/
namespace CilThunk

inductive Kind
  /-- No intrinsic: compiled like any other method. -/
  | ordinary
  | direct
  | tail
  deriving DecidableEq, Repr

/-- The calling convention at a call site. -/
inductive Convention
  | default
  | c
  | standard
  | fastCall
  | hasThis
  | thisCall
  deriving DecidableEq, Repr

def directStem : String := "CallIndirect"

def tailStem : String := "TailCallIndirect"

namespace Kind

def ofName (name : String) : Kind :=
  if directStem.toList.isPrefixOf name.toList then direct
  else if tailStem.toList.isPrefixOf name.toList then tail
  else ordinary

def isIntrinsic (k : Kind) : Bool := k != ordinary

def isTail (k : Kind) : Bool := k == tail

def text : Kind → String
  | ordinary => "None"
  | direct => "DirectIndirectCall"
  | tail => "TailIndirectCall"

end Kind

namespace Convention

def endings : List (String × Convention) :=
  [("CDecl", c), ("StdCall", standard), ("FastCall", fastCall), ("HasThis", hasThis), ("ThisCall", thisCall)]

def ofName (name : String) : Convention :=
  match endings.find? (fun e => e.1.toList.isSuffixOf name.toList) with
  | some e => e.2
  | none => default

/-- The byte that a call-site signature starts with. -/
def header : Convention → UInt8
  | default => 0x00
  | c => 0x01
  | standard => 0x02
  | thisCall => 0x03
  | fastCall => 0x04
  | hasThis => 0x20

/-- The word listings and logs use. -/
def text : Convention → String
  | default => "default"
  | c => "cdecl"
  | standard => "stdcall"
  | fastCall => "fastcall"
  | hasThis => "hasthis"
  | thisCall => "thiscall"

/-- The word JSON uses. -/
def tag : Convention → String
  | default => "Default"
  | c => "C"
  | standard => "Standard"
  | fastCall => "FastCall"
  | hasThis => "HasThis"
  | thisCall => "ThisCall"

end Convention
end CilThunk
