import CertifiedAccess.Text.Utf8
import CertifiedAccess.Wire.Error

/-!
A reader: octets with a position and a mark to return to. A read that fails leaves the position where
its last complete part ended.
-/
namespace CertifiedAccess.Wire

/-- The most octets that a length-prefixed field may hold: one mebibyte. -/
def maxFieldLength : Nat := 1048576

structure Reader where
  input : Bytes
  position : Nat
  mark : Nat
  deriving DecidableEq

def Reader.ofBytes (input : Bytes) : Reader := ⟨input, 0, 0⟩

def Reader.remaining (r : Reader) : Nat := r.input.length - r.position

/-- Reads a value from a reader, or fails; the reader moves on in both cases. -/
abbrev Read := EStateM WireError Reader

namespace Read

def bytes (count : Nat) : Read Bytes := fun r =>
  if count ≤ r.remaining then
    .ok ((r.input.drop r.position).take count) { r with position := r.position + count }
  else .error (.truncated count r.remaining) r

/-- A number of `width` octets, the most significant first. -/
def number (width : Nat) : Read Nat :=
  Bytes.ofBigEndian <$> bytes width

def u8 : Read UInt8 := UInt8.ofNat <$> number 1

def u32 : Read UInt32 := UInt32.ofNat <$> number 4

def u64 : Read UInt64 := UInt64.ofNat <$> number 8

def i64 : Read Int64 := UInt64.toInt64 <$> u64

/-- A field: its length in four octets, then that many octets. -/
def field : Read Bytes := do
  let length := (← u32).toNat
  if maxFieldLength < length then throw (.tooLarge length)
  bytes length

def text : Read String := do
  match Text.ofUtf8? (← field) with
  | some s => pure s
  | none => throw .invalidUtf8

def setMark : Read Unit := modify fun r => { r with mark := r.position }

def toMark : Read Unit := modify fun r => { r with position := r.mark }

/-- What octets cannot be taken for, as a failed read. -/
def ofExcept {α : Type} : Except WireError α → Read α
  | .ok a => pure a
  | .error e => throw e

end Read

inductive Request where
  | u8
  | u32
  | i64
  | u64
  | bytes (count : Nat)
  | field
  | text
  | setMark
  | toMark
  deriving DecidableEq

inductive Answer where
  | u8 (value : UInt8)
  | u32 (value : UInt32)
  | i64 (value : Int64)
  | u64 (value : UInt64)
  | bytes (value : Bytes)
  | text (value : String)
  | done
  deriving DecidableEq

def Request.read : Request → Read Answer
  | .u8 => Answer.u8 <$> Read.u8
  | .u32 => Answer.u32 <$> Read.u32
  | .i64 => Answer.i64 <$> Read.i64
  | .u64 => Answer.u64 <$> Read.u64
  | .bytes count => Answer.bytes <$> Read.bytes count
  | .field => Answer.bytes <$> Read.field
  | .text => Answer.text <$> Read.text
  | .setMark => do Read.setMark; return .done
  | .toMark => do Read.toMark; return .done

/-- What one request gives, and the reader after it. -/
def Request.ask (request : Request) (r : Reader) : Except WireError Answer × Reader :=
  match request.read r with
  | .ok answer next => (.ok answer, next)
  | .error e next => (.error e, next)

/-- Asks one thing after another, going on after failures; gives each answer with the reader after it. -/
def Reader.askAll (r : Reader) : List Request → List (Except WireError Answer × Reader)
  | [] => []
  | request :: rest =>
    let step := request.ask r
    step :: step.2.askAll rest

end CertifiedAccess.Wire
