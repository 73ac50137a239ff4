import SpindleLink.Text.Hex

/-! The two integrity bytes that close every frame: an exclusive or of the covered bytes, and
their sum with it, cut to one byte. -/

namespace SpindleLink

structure Seal where
  xor : UInt8
  add : UInt8
  deriving DecidableEq

def xorOf (data : Bytes) : UInt8 := data.foldl (· ^^^ ·) 0

def byteSum (data : Bytes) : Int := data.foldr (fun b n => b.toNat + n) 0

/-- The sum of the bytes and of any integer, modulo 256. -/
def addOf (data : Bytes) (extra : Int) : UInt8 := UInt8.ofNat ((byteSum data + extra) % 256).toNat

def Seal.of (data : Bytes) : Seal := ⟨xorOf data, addOf data (xorOf data).toNat⟩

@[simp] theorem xorOf_nil : xorOf [] = 0 := rfl

theorem xorOf_cons (b : UInt8) (data : Bytes) : xorOf (b :: data) = b ^^^ xorOf data := by
  have hzero : 0 ^^^ b = b ^^^ 0 := UInt8.xor_comm 0 b
  rw [xorOf, List.foldl_cons, hzero, List.foldl_assoc]
  rfl

theorem xorOf_append (l r : Bytes) : xorOf (l ++ r) = xorOf l ^^^ xorOf r := by
  induction l with
  | nil => simp
  | cons b l ih => rw [List.cons_append, xorOf_cons, xorOf_cons, ih, UInt8.xor_assoc]

@[simp] theorem byteSum_cons (b : UInt8) (data : Bytes) :
    byteSum (b :: data) = b.toNat + byteSum data := rfl

end SpindleLink
