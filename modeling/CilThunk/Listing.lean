import CilThunk.Module
/-!
# Listings

The signature table and the bodies as text for people: a heading per table and per body, a line per row and per
instruction, and a blank line after each.  Code that cannot be read is listed as the reason why.  An empty table is left
out, heading and all.
-/
namespace CilThunk
namespace Listing

open Text

def returned (isVoid : Bool) : String := if isVoid then "void" else "value"

def signatureLine (s : CallSignature) : String :=
  "  [" ++ decimalPadded 4 s.slot.row.toNat ++ "] " ++ s.convention.text ++ " (header " ++
    hexMarked 2 s.convention.header.toNat ++ ", params: " ++ decimal s.arity.toNat ++ ", returns: " ++
    returned s.isVoid ++ ")\n"

def table : List CallSignature → String
  | [] => ""
  | signatures => "== StandAloneSig ==\n" ++ String.join (signatures.map signatureLine) ++ "\n"

def heading (b : MethodBody) : String :=
  "== Method[" ++ decimal b.parent.toNat ++ "] (maxstack: " ++ decimal b.maxStack.toNat ++ ", callconv: " ++
    b.convention.text ++
    (match b.slot? with
      | some slot => ", sig: " ++ decimal slot.row.toNat
      | none => "") ++ ") ==\n"

def instructionLine (offset : Nat) (i : Instruction) : String := Code.label offset ++ ": " ++ i.text ++ "\n"

def code (bytes : List UInt8) : String :=
  match Code.decode bytes with
  | .ok is => String.join (is.map (fun p => instructionLine p.1 p.2))
  | .error e => "  <undecodable: " ++ e.message ++ ">\n"

def body (b : MethodBody) : String := heading b ++ code b.code ++ "\n"

def bodies (bs : List MethodBody) : String := String.join (bs.map body)

def listing (signatures : List CallSignature) (bs : List MethodBody) : String := table signatures ++ bodies bs

end Listing
end CilThunk
