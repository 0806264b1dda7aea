/- Characters from bytes: well-formed sequences are decoded, ill-formed pieces stand alone. -/
namespace Frontend.Text

/-- What may follow a leading byte: how many bytes, and the least and the greatest first one. -/
structure Continuation where
  count : Nat
  low : UInt8
  high : UInt8

def Continuation.ofLead? (b : UInt8) : Option Continuation :=
  if b < 0x80 then some ⟨0, 0x80, 0xbf⟩
  else if 0xc2 ≤ b ∧ b ≤ 0xdf then some ⟨1, 0x80, 0xbf⟩
  else if b = 0xe0 then some ⟨2, 0xa0, 0xbf⟩
  else if b = 0xed then some ⟨2, 0x80, 0x9f⟩
  else if 0xe1 ≤ b ∧ b ≤ 0xef then some ⟨2, 0x80, 0xbf⟩
  else if b = 0xf0 then some ⟨3, 0x90, 0xbf⟩
  else if 0xf1 ≤ b ∧ b ≤ 0xf3 then some ⟨3, 0x80, 0xbf⟩
  else if b = 0xf4 then some ⟨3, 0x80, 0x8f⟩
  else none

def leadBits (count : Nat) (b : UInt8) : Nat :=
  match count with
  | 0 => b.toNat
  | 1 => b.toNat % 32
  | 2 => b.toNat % 16
  | _ => b.toNat % 8

/-- Reads `count` continuation bytes onto `acc`, and says where the reading stopped. -/
def readContinuation (low high : UInt8) (acc : Nat) :
    Nat → List UInt8 → Option Nat × List UInt8
  | 0, bs => (some acc, bs)
  | _ + 1, [] => (none, [])
  | count + 1, b :: bs =>
    if low ≤ b ∧ b ≤ high then readContinuation 0x80 0xbf (acc * 64 + b.toNat % 64) count bs
    else (none, b :: bs)

theorem readContinuation_length_le (low high : UInt8) (acc count : Nat) (bs : List UInt8) :
    (readContinuation low high acc count bs).2.length ≤ bs.length := by
  induction count generalizing low high acc bs with
  | zero => exact Nat.le_refl _
  | succ count ih =>
    cases bs with
    | nil => exact Nat.le_refl _
    | cons b bs =>
      unfold readContinuation
      split
      · exact Nat.le_succ_of_le (ih _ _ _ _)
      · exact Nat.le_refl _

/-- One character, or none for an ill-formed piece, and the bytes after it. -/
def decodeOne (b : UInt8) (bs : List UInt8) : Option Char × List UInt8 :=
  match Continuation.ofLead? b with
  | none => (none, bs)
  | some k =>
    let (code?, rest) := readContinuation k.low k.high (leadBits k.count b) k.count bs
    (code?.map Char.ofNat, rest)

theorem decodeOne_length_le (b : UInt8) (bs : List UInt8) :
    (decodeOne b bs).2.length ≤ bs.length := by
  unfold decodeOne
  split
  · exact Nat.le_refl _
  · exact readContinuation_length_le _ _ _ _ _

/-- The pieces of a text in order: a character each, or none for an ill-formed piece. -/
def decodePieces : List UInt8 → List (Option Char)
  | [] => []
  | b :: bs => (decodeOne b bs).1 :: decodePieces (decodeOne b bs).2
termination_by bs => bs.length
decreasing_by exact Nat.lt_succ_of_le (decodeOne_length_le b bs)

/-- Every ill-formed piece becomes one U+FFFD. -/
def decodeLossy (bs : List UInt8) : List Char :=
  (decodePieces bs).map (·.getD '\ufffd')

/-- Nothing when any piece is ill-formed. -/
def decodeStrict? (bs : List UInt8) : Option (List Char) :=
  (decodePieces bs).mapM id

end Frontend.Text
