import TradeTracker.Base58

/-! Addresses of accounts, mints and programs, and signatures of transactions: byte strings of
fixed length that are written in base 58. -/
namespace TradeTracker

structure Address where
  bytes : List UInt8
  length_bytes : bytes.length = 32
deriving DecidableEq

inductive AddressError
  | wrongSize
  | notBase58
deriving DecidableEq, Repr

def AddressError.message : AddressError → String
  | wrongSize => "String is the wrong size"
  | notBase58 => "Invalid Base58 string"

namespace Address

def maxTextBytes : Nat := 44

/-- Reads an address. A text that is too long is refused before its characters are looked at. -/
def read (text : String) : Except AddressError Address :=
  if maxTextBytes < text.utf8ByteSize then .error .wrongSize
  else
    match Base58.decode? text.toList with
    | none => .error .notBase58
    | some bytes => if h : bytes.length = 32 then .ok ⟨bytes, h⟩ else .error .wrongSize

def text (a : Address) : String := String.ofList (Base58.encode a.bytes)

def read? (text : String) : Option Address := (read text).toOption

instance : Repr Address := ⟨fun a _ => repr a.text⟩

instance : Inhabited Address := ⟨⟨List.replicate 32 0, rfl⟩⟩

end Address

structure Signature where
  bytes : List UInt8
  length_bytes : bytes.length = 64
deriving DecidableEq

inductive SignatureError
  | wrongSize
  | notBase58
deriving DecidableEq, Repr

def SignatureError.message : SignatureError → String
  | wrongSize => "string decoded to wrong size for signature"
  | notBase58 => "failed to decode string to signature"

namespace Signature

def maxTextBytes : Nat := 88

def read (text : String) : Except SignatureError Signature :=
  if maxTextBytes < text.utf8ByteSize then .error .wrongSize
  else
    match Base58.decode? text.toList with
    | none => .error .notBase58
    | some bytes => if h : bytes.length = 64 then .ok ⟨bytes, h⟩ else .error .wrongSize

def text (s : Signature) : String := String.ofList (Base58.encode s.bytes)

instance : Repr Signature := ⟨fun s _ => repr s.text⟩

end Signature
end TradeTracker
